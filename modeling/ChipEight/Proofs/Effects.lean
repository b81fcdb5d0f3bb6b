import ChipEight.Proofs.Fetch
import ChipEight.Proofs.Operands
import ChipEight.Proofs.Outcome

namespace ChipEight

/-!
# Effects of the operations

Many operations only change contents: those of memory, registers and display,
the random stream and the counters.  The others each change one of the parts
that steer what follows, namely the program counter, the index, a timer or the
call stack.  `Effect` lists these ways.  Every execution of a decoded operation
has one of them, whether it is accepted or refused, so a property of the
steering parts needs one case for each way and not one for each operation.
-/

namespace Machine

/-- The ways in which an executed operation changes the machine. -/
inductive Effect (machine : Machine) : Operation → Machine → Prop where
  /-- Nothing that steers changes. -/
  | contents {operation : Operation} (memory : Memory) (registers : Registers)
      (display : Display) (random : RandomStream) (tally : Tally) :
      Effect machine operation
        { machine with
          memory := memory
          registers := registers
          display := display
          random := random
          tally := tally }
  /-- The index becomes a number of sixteen bits. -/
  | indexed {operation : Operation} (memory : Memory) (registers : Registers)
      {index : Int} (fits : CellWidth.double.Holds index) :
      Effect machine operation
        { machine with
          memory := memory
          registers := registers
          index := index }
  /-- A jump or a skip goes on where a whole instruction can be fetched. -/
  | moved {operation : Operation} {address : Int}
      (room : 0 ≤ address ∧ address ≤ 4094) (tally : Tally) :
      Effect machine operation
        { machine with
          pc := address
          tally := tally }
  /-- Waiting for a key goes back to the word that was fetched. -/
  | waited {x : Int} (tally : Tally) :
      Effect machine (.awaitKey x)
        { machine with
          pc := machine.pc - 2
          tally := tally }
  | delayed {x : Int} (byte : UInt8) :
      Effect machine (.setDelay x) { machine with timers.delay := byte.toNat }
  | sounded {x : Int} (byte : UInt8) :
      Effect machine (.setSound x) { machine with timers.sound := byte.toNat }
  /-- A call that is accepted. -/
  | called {address : Int} (room : 0 ≤ address ∧ address ≤ 4094)
      {stack : CallStack} (pushed : machine.stack.push machine.pc = .ok stack)
      (tally : Tally) :
      Effect machine (.call address)
        { machine with
          pc := address
          stack := stack
          tally := tally }
  /-- A return to an address that leaves no room for an instruction. -/
  | stranded {newest : UInt16} {older : CallStack}
      (popped : machine.stack.pop = .ok (newest, older))
      (beyond : 4094 < newest.toNat) :
      Effect machine .returnFromCall { machine with stack := older }
  /-- A return that is accepted. -/
  | returned {newest : UInt16} {older : CallStack}
      (popped : machine.stack.pop = .ok (newest, older))
      (room : newest.toNat ≤ 4094) (tally : Tally) :
      Effect machine .returnFromCall
        { machine with
          pc := newest.toNat
          stack := older
          tally := tally }

/-- The low sixteen bits of an integer fit in sixteen bits. -/
theorem lowDouble_holds (value : Int) :
    CellWidth.double.Holds (lowDouble value) :=
  ⟨Int.emod_nonneg value (by decide),
    Int.emod_lt_of_pos value (by decide)⟩

theorem glyphAddress_holds (byte : UInt8) :
    CellWidth.double.Holds (glyphAddress byte) := by
  unfold glyphAddress fontStart glyphSize
  constructor
  · omega
  · change _ < (65536 : Int)
    omega

section Accepted

variable {machine after : Machine} {operation : Operation}

theorem Effect.unchanged : machine.Effect operation machine :=
  .contents machine.memory machine.registers machine.display machine.random
    machine.tally

theorem Effect.ofRegisters (registers : Registers) :
    machine.Effect operation { machine with registers := registers } :=
  .contents machine.memory registers machine.display machine.random
    machine.tally

/-- An attempt has the effect that it is accepted with, or none. -/
theorem attempt_effect {result : Except Fault Machine}
    (accepted : ∀ after, result = .ok after → machine.Effect operation after) :
    machine.Effect operation (Step.attempt machine result).machine := by
  cases result with
  | ok after => exact accepted after rfl
  | error fault => exact .unchanged

theorem withRegisters_effect (registers : Except Fault Registers)
    (accepted : machine.withRegisters registers = .ok after) :
    machine.Effect operation after := by
  rcases accepted_map accepted with ⟨content, _, rfl⟩
  exact .ofRegisters content

theorem continueAt_effect {address : Int}
    (accepted : machine.continueAt address = .ok after) :
    machine.Effect operation after := by
  rw [continueAt_eq] at accepted
  split at accepted
  · rename_i room
    cases accepted
    exact .moved room machine.tally
  · contradiction

theorem jump_effect {address : Int}
    (accepted : machine.jump address = .ok after) :
    machine.Effect operation after := by
  rw [jump_eq] at accepted
  split at accepted
  · rename_i room
    cases accepted
    exact .moved room _
  · contradiction

theorem skipIf_effect {condition : Bool}
    (accepted : machine.skipIf condition = .ok after) :
    machine.Effect operation after := by
  unfold skipIf at accepted
  split at accepted
  · exact continueAt_effect accepted
  · cases accepted
    exact .unchanged

theorem skipOn_effect {x : Int} {condition : UInt8 → Bool}
    (accepted : machine.skipOn x condition = .ok after) :
    machine.Effect operation after := by
  rcases accepted_bind accepted with ⟨first, _, skipped⟩
  exact skipIf_effect skipped

theorem skipOnPair_effect {x y : Int} {condition : UInt8 → UInt8 → Bool}
    (accepted : machine.skipOnPair x y condition = .ok after) :
    machine.Effect operation after := by
  rcases accepted_bind accepted with ⟨first, _, rest⟩
  rcases accepted_bind rest with ⟨second, _, skipped⟩
  exact skipIf_effect skipped

theorem call_effect {address : Int}
    (accepted : machine.call address = .ok after) :
    machine.Effect (.call address) after := by
  rw [call_eq] at accepted
  split at accepted
  · rename_i room
    rcases accepted_map accepted with ⟨stack, pushed, rfl⟩
    exact .called room pushed _
  · contradiction

theorem returnFromCall_effect :
    machine.Effect .returnFromCall machine.returnFromCall.machine := by
  cases popped : machine.stack.pop with
  | error fault =>
      rw [returnFromCall, popped]
      exact .unchanged
  | ok content =>
      rcases content with ⟨newest, older⟩
      rw [machine.returnFromCall_of_popped popped]
      by_cases room : newest.toNat ≤ 4094
      · rw [if_pos room]
        exact .returned popped room _
      · rw [if_neg room]
        exact .stranded popped (Nat.lt_of_not_le room)

theorem awaitKey_effect {x : Int}
    (accepted : machine.awaitKey x = .ok after) :
    machine.Effect (.awaitKey x) after := by
  unfold awaitKey at accepted
  split at accepted
  · exact withRegisters_effect _ accepted
  · cases accepted
    exact .waited _

theorem setDelay_effect {x : Int}
    (accepted : machine.setDelay x = .ok after) :
    machine.Effect (.setDelay x) after := by
  rcases accepted_map accepted with ⟨byte, _, rfl⟩
  exact .delayed byte

theorem setSound_effect {x : Int}
    (accepted : machine.setSound x = .ok after) :
    machine.Effect (.setSound x) after := by
  rcases accepted_map accepted with ⟨byte, _, rfl⟩
  exact .sounded byte

theorem indexFrom_effect {x : Int} {index : UInt8 → Int}
    (fits : ∀ byte, CellWidth.double.Holds (index byte))
    (accepted : machine.indexFrom x index = .ok after) :
    machine.Effect operation after := by
  rcases accepted_map accepted with ⟨byte, _, rfl⟩
  exact .indexed machine.memory machine.registers (fits byte)

/-- A block of registers and memory is passed by moving the index or not at
all. -/
theorem passBlock_effect (memory : Memory) (registers : Registers) (x : Int) :
    machine.Effect operation
      ({ machine with
        memory := memory
        registers := registers }.passBlock x) := by
  unfold passBlock
  split
  · exact .indexed memory registers (lowDouble_holds _)
  · exact .contents memory registers machine.display machine.random
      machine.tally

theorem storeDecimal_effect {x : Int}
    (accepted : machine.storeDecimal x = .ok after) :
    machine.Effect operation after := by
  rcases accepted_bind accepted with ⟨byte, _, rest⟩
  rcases accepted_bind rest with ⟨memory, _, stored⟩
  cases stored
  exact .contents memory machine.registers machine.display machine.random
    machine.tally

theorem storeRegisters_effect {x : Int}
    (accepted : machine.storeRegisters x = .ok after) :
    machine.Effect operation after := by
  rcases accepted_bind accepted with ⟨memory, _, stored⟩
  cases stored
  exact passBlock_effect memory machine.registers x

theorem loadRegisters_effect {x : Int}
    (accepted : machine.loadRegisters x = .ok after) :
    machine.Effect operation after := by
  rcases accepted_bind accepted with ⟨block, _, rest⟩
  simp only at rest
  split at rest
  · cases rest
    exact passBlock_effect machine.memory _ x
  · contradiction

theorem drawSprite_effect (x y height : Int) :
    machine.Effect operation (machine.drawSprite x y height).machine := by
  unfold drawSprite
  split
  · exact .unchanged
  · exact .contents machine.memory _ _ machine.random _

theorem randomise_effect (x mask : Int) :
    machine.Effect operation (machine.randomise x mask).machine := by
  cases found : Registers.slot x with
  | error fault =>
      rw [machine.randomise_of_missing found]
      exact .contents machine.memory machine.registers machine.display _
        machine.tally
  | ok register =>
      simp only [randomise, withRegisters, Registers.write, found, Except.map]
      exact .contents machine.memory _ machine.display _ machine.tally

end Accepted

/-- Executing a decoded operation has one of the effects. -/
theorem execute_effect (machine : Machine) (word : Int) {operation : Operation}
    (fits : operation.FitsWord) :
    machine.Effect operation (machine.execute ⟨word, operation⟩).machine := by
  cases operation with
  | system _ | unassigned _ => exact .unchanged
  | clearDisplay =>
      exact .contents machine.memory machine.registers _ machine.random _
  | returnFromCall => exact returnFromCall_effect
  | jump _ | jumpOffset _ =>
      exact attempt_effect fun _ accepted => jump_effect accepted
  | call _ => exact attempt_effect fun _ accepted => call_effect accepted
  | skipIfEqual _ _ | skipIfNotEqual _ _ | skipIfKey _ | skipIfNoKey _ =>
      exact attempt_effect fun _ accepted => skipOn_effect accepted
  | skipIfSame _ _ | skipIfDifferent _ _ =>
      exact attempt_effect fun _ accepted => skipOnPair_effect accepted
  | load _ _ | add _ _ | copy _ _ | or _ _ | and _ _ | xor _ _
  | addRegister _ _ | subtract _ _ | subtractFrom _ _ | shiftRight _ _
  | shiftLeft _ _ | readDelay _ =>
      exact attempt_effect fun _ accepted => withRegisters_effect _ accepted
  | setIndex address =>
      have range : 0 ≤ address ∧ address < 4096 := fits.address
      exact .indexed machine.memory machine.registers
        ⟨range.1, by change address < (65536 : Int); omega⟩
  | random x mask => exact randomise_effect x mask
  | draw x y height => exact drawSprite_effect x y height
  | awaitKey _ =>
      exact attempt_effect fun _ accepted => awaitKey_effect accepted
  | setDelay _ =>
      exact attempt_effect fun _ accepted => setDelay_effect accepted
  | setSound _ =>
      exact attempt_effect fun _ accepted => setSound_effect accepted
  | addIndex _ =>
      exact attempt_effect fun _ accepted =>
        indexFrom_effect (fun _ => lowDouble_holds _) accepted
  | setIndexToGlyph _ =>
      exact attempt_effect fun _ accepted =>
        indexFrom_effect glyphAddress_holds accepted
  | storeDecimal _ =>
      exact attempt_effect fun _ accepted => storeDecimal_effect accepted
  | storeRegisters _ =>
      exact attempt_effect fun _ accepted => storeRegisters_effect accepted
  | loadRegisters _ =>
      exact attempt_effect fun _ accepted => loadRegisters_effect accepted

end Machine

end ChipEight
