import ChipEight.Proofs.Fetch
import ChipEight.Proofs.Outcome

namespace ChipEight

/-!
# Refusals of execution

A word that decodes to nothing is refused before anything is executed.  The
execution itself has many reasons to refuse an instruction, but never that one,
and so this fault always tells that decoding failed.  This holds of every
machine and every instruction, even of operands that no word can hold.
-/

/-- A result is not refused for a word that decodes to nothing. -/
def Recognised {α : Type} (result : Except Fault α) : Prop :=
  ∀ word location, result ≠ .error (.unknownWord word location)

namespace Recognised

variable {α β : Type} {result : Except Fault α}

theorem ok (value : α) : Recognised (.ok value) :=
  fun _ _ => nofun

theorem error {fault : Fault}
    (other : ∀ word location, fault ≠ .unknownWord word location) :
    Recognised (.error fault : Except Fault α) :=
  fun word location refused => other word location (Except.error.inj refused)

theorem other {fault : Fault} (recognised : Recognised result)
    (refused : result = .error fault) (word : Int) (location : Option Int) :
    fault ≠ .unknownWord word location := by
  rintro rfl
  exact recognised word location refused

theorem bind (recognised : Recognised result) {next : α → Except Fault β}
    (continued : ∀ value, Recognised (next value)) :
    Recognised (result >>= next) := by
  cases result with
  | ok value => exact continued value
  | error fault => exact error (recognised.other rfl)

theorem map (recognised : Recognised result) (change : α → β) :
    Recognised (result.map change) := by
  cases result with
  | ok value => exact ok (change value)
  | error fault => exact error (recognised.other rfl)

theorem slot (index : Int) : Recognised (Registers.slot index) := by
  unfold Registers.slot Registers.refusal
  split
  · exact ok _
  · split
    · exact ok _
    · refine error fun word location => ?_
      split
      · exact nofun
      · split <;> exact nofun

theorem read (registers : Registers) (index : Int) :
    Recognised (registers.read index) :=
  (slot index).map _

theorem write (registers : Registers) (index : Int) (byte : UInt8) :
    Recognised (registers.write index byte) :=
  (slot index).map _

theorem byteOf (value : Int) : Recognised (ChipEight.byteOf value) := by
  unfold ChipEight.byteOf
  split
  · exact ok _
  · exact error (by simp)

theorem writeValue (registers : Registers) (index value : Int) :
    Recognised (registers.writeValue index value) := by
  unfold Registers.writeValue
  split
  · rename_i refused
    exact error ((slot index).other refused)
  · rename_i refused
    exact error ((byteOf value).other refused)
  · exact ok _

theorem readBlock (memory : Memory) (address length : Int) :
    Recognised (memory.readBlock address length) := by
  rw [Memory.readBlock_eq]
  split
  · exact ok _
  · exact error (by simp)

theorem writeBlock (memory : Memory) (address : Int) (block : List UInt8) :
    Recognised (memory.writeBlock address block) := by
  unfold Memory.writeBlock
  split
  · exact ok _
  · exact error (by simp)

theorem doubleOf (value : Int) : Recognised (ChipEight.doubleOf value) := by
  unfold ChipEight.doubleOf
  split
  · exact ok _
  · exact error (by simp)

theorem push (stack : CallStack) (address : Int) :
    Recognised (stack.push address) := by
  by_cases room : stack.depth < stack.capacity
  · cases stored : ChipEight.doubleOf address with
    | error fault =>
      simp only [CallStack.push, dif_pos room, stored]
      exact error ((doubleOf address).other stored)
    | ok entry =>
      simp only [CallStack.push, dif_pos room, stored]
      exact ok _
  · rw [CallStack.push_of_full room]
    exact error (by simp)

theorem pop (stack : CallStack) : Recognised stack.pop := by
  unfold CallStack.pop
  split
  · exact error (by simp)
  · exact ok _

open Machine

variable (machine : Machine)

theorem landing (address : Int) : Recognised (Machine.landing address) := by
  unfold Machine.landing
  split
  · exact ok _
  · exact error (by simp)

theorem continueAt (address : Int) :
    Recognised (machine.continueAt address) :=
  (landing address).map _

theorem jump (address : Int) : Recognised (machine.jump address) :=
  (continueAt machine address).map _

theorem call (address : Int) : Recognised (machine.call address) :=
  (landing address).bind fun _ =>
    (push machine.stack machine.pc).bind fun _ => ok _

theorem skipIf (condition : Bool) : Recognised (machine.skipIf condition) := by
  cases condition with
  | false => exact ok _
  | true => exact continueAt machine _

theorem skipOn (x : Int) (condition : UInt8 → Bool) :
    Recognised (machine.skipOn x condition) :=
  (read machine.registers x).bind fun _ => skipIf machine _

theorem skipOnPair (x y : Int) (condition : UInt8 → UInt8 → Bool) :
    Recognised (machine.skipOnPair x y condition) :=
  (read machine.registers x).bind fun _ =>
    (read machine.registers y).bind fun _ => skipIf machine _

theorem assign (x value : Int) : Recognised (machine.assign x value) :=
  (writeValue machine.registers x value).map _

theorem update (x : Int) (change : UInt8 → UInt8) :
    Recognised (machine.update x change) :=
  ((read machine.registers x).bind fun _ =>
    write machine.registers x _).map _

theorem copy (x y : Int) : Recognised (machine.copy x y) :=
  ((read machine.registers y).bind fun _ =>
    write machine.registers x _).map _

theorem combineBits (x y : Int) (combine : UInt8 → UInt8 → UInt8) :
    Recognised (machine.combineBits x y combine) :=
  ((read machine.registers x).bind fun _ =>
    (read machine.registers y).bind fun _ =>
      (write machine.registers x _).bind fun _ => ok _).map _

theorem combine (x y : Int) (result : UInt8 → UInt8 → UInt8)
    (flag : UInt8 → UInt8 → Bool) :
    Recognised (machine.combine x y result flag) :=
  ((read machine.registers x).bind fun _ =>
    (read machine.registers y).bind fun _ =>
      (write machine.registers x _).bind fun _ => ok _).map _

theorem shift (x y : Int) (result : UInt8 → UInt8) (flag : UInt8 → Bool) :
    Recognised (machine.shift x y result flag) :=
  ((read machine.registers _).bind fun _ =>
    (write machine.registers x _).bind fun _ => ok _).map _

theorem awaitKey (x : Int) : Recognised (machine.awaitKey x) := by
  unfold Machine.awaitKey
  split
  · exact (write machine.registers x _).map _
  · exact ok _

theorem storeDecimal (x : Int) : Recognised (machine.storeDecimal x) :=
  (read machine.registers x).bind fun _ =>
    (writeBlock machine.memory machine.index _).bind fun _ => ok _

theorem storeRegisters (x : Int) : Recognised (machine.storeRegisters x) :=
  (writeBlock machine.memory machine.index _).bind fun _ => ok _

theorem loadRegisters (x : Int) : Recognised (machine.loadRegisters x) := by
  refine (readBlock machine.memory machine.index (x + 1)).bind fun block => ?_
  simp only
  split
  · exact ok _
  · exact error (by simp)

theorem sprite (x y height : Int) : Recognised (machine.sprite x y height) :=
  (read machine.registers x).bind fun _ =>
    (read machine.registers y).bind fun _ =>
      (readBlock machine.memory machine.index height).bind fun _ => ok _

end Recognised

namespace Machine

variable (machine : Machine)

theorem attempt_recognised {result : Except Fault Machine}
    (recognised : Recognised result) (word : Int) (location : Option Int) :
    (Step.attempt machine result).fault ≠
      some (.unknownWord word location) := by
  cases result with
  | ok after => exact nofun
  | error fault =>
    intro refused
    exact recognised.other rfl word location (Option.some.inj refused)

theorem returnFromCall_recognised (word : Int) (location : Option Int) :
    machine.returnFromCall.fault ≠ some (.unknownWord word location) := by
  unfold returnFromCall
  split
  · rename_i refused
    intro same
    exact (Recognised.pop machine.stack).other refused word location
      (Option.some.inj same)
  · exact attempt_recognised _ ((Recognised.continueAt _ _).map _) word location

theorem drawSprite_recognised (x y height word : Int) (location : Option Int) :
    (machine.drawSprite x y height).fault ≠
      some (.unknownWord word location) := by
  unfold drawSprite
  split
  · rename_i refused
    intro same
    exact (Recognised.sprite machine x y height).other refused word location
      (Option.some.inj same)
  · exact nofun

/-- Whatever the machine and the instruction are, execution is not refused for
a word that decodes to nothing. -/
theorem execute_recognised (instruction : Instruction) (word : Int)
    (location : Option Int) :
    (machine.execute instruction).fault ≠
      some (.unknownWord word location) := by
  rcases instruction with ⟨own, operation⟩
  cases operation with
  | system _ | clearDisplay | setIndex _ => exact nofun
  | unassigned _ => exact nofun
  | returnFromCall => exact machine.returnFromCall_recognised word location
  | draw x y height =>
    exact machine.drawSprite_recognised x y height word location
  | random x mask =>
    exact attempt_recognised _ ((Recognised.write _ x _).map _) word location
  | jump address | jumpOffset address =>
    exact attempt_recognised _ (.jump machine _) word location
  | call address =>
    exact attempt_recognised _ (.call machine address) word location
  | skipIfEqual x _ | skipIfNotEqual x _ | skipIfKey x | skipIfNoKey x =>
    exact attempt_recognised _ (.skipOn machine x _) word location
  | skipIfSame x y | skipIfDifferent x y =>
    exact attempt_recognised _ (.skipOnPair machine x y _) word location
  | load x _ | readDelay x =>
    exact attempt_recognised _ (.assign machine x _) word location
  | add x _ => exact attempt_recognised _ (.update machine x _) word location
  | copy x y => exact attempt_recognised _ (.copy machine x y) word location
  | or x y | and x y | xor x y =>
    exact attempt_recognised _ (.combineBits machine x y _) word location
  | addRegister x y | subtract x y | subtractFrom x y =>
    exact attempt_recognised _ (.combine machine x y _ _) word location
  | shiftRight x y | shiftLeft x y =>
    exact attempt_recognised _ (.shift machine x y _ _) word location
  | awaitKey x => exact attempt_recognised _ (.awaitKey machine x) word location
  | setDelay x | setSound x | addIndex x | setIndexToGlyph x =>
    exact attempt_recognised _ ((Recognised.read _ x).map _) word location
  | storeDecimal x =>
    exact attempt_recognised _ (.storeDecimal machine x) word location
  | storeRegisters x =>
    exact attempt_recognised _ (.storeRegisters machine x) word location
  | loadRegisters x =>
    exact attempt_recognised _ (.loadRegisters machine x) word location

/-- A cycle reports an unknown word if and only if it fetched that word, from
the place it names, and could not decode it. -/
theorem cycle_unknownWord_iff (now : Float) (word : Int)
    (location : Option Int) :
    (machine.cycle now).fault = some (.unknownWord word location) ↔
      machine.CanFetch ∧ Instruction.decode? machine.word = none ∧
        word = machine.word ∧ location = some machine.pc := by
  constructor
  · intro refused
    rcases machine.fetch_cases with
      outside | ⟨inside, rejected⟩ | ⟨operation, fetches⟩
    · rw [machine.cycle_of_unfetched now outside] at refused
      cases refused
    · rw [machine.cycle_of_undecoded now inside rejected] at refused
      cases refused
      exact ⟨inside, rejected, rfl, rfl⟩
    · rw [cycle_fault_of_fetches now fetches] at refused
      exact absurd refused (execute_recognised _ _ word location)
  · rintro ⟨inside, rejected, rfl, rfl⟩
    rw [machine.cycle_of_undecoded now inside rejected]

end Machine

end ChipEight
