import ChipEight.Proofs.Frames
import Mathlib.Logic.Basic

namespace ChipEight

/-!
# What changes, and by which operation

Whatever a cycle changes behind its countdown, the operation that it fetched was
one that may change it.  `Operation.writes` tells this for the parts of a machine
as wholes.  Here the registers are told apart, and the two switches count that
decide whether an operation writes the flag or the index besides its result.

A cycle says this about every machine, reachable or not, and about refused
operations as well.  A history changes what its cycles change, so it needs one
cycle that fetched such an operation.  The timers and the keys are the exceptions,
because counting down changes the ones and a host the others.
-/

namespace Operation

/-- The registers that an operation may change. -/
def MayChangeRegister (behaviour : Behaviour) (register : Fin 16) :
    Operation → Prop
  | .load x _ | .add x _ | .copy x _ | .random x _ | .readDelay x
  | .awaitKey x => x = register.val
  | .addRegister x _ | .subtract x _ | .subtractFrom x _ | .shiftRight x _
  | .shiftLeft x _ => x = register.val ∨ register = flagRegister
  | .or x _ | .and x _ | .xor x _ =>
      x = register.val ∨
        (behaviour.logic.isOn = true ∧ register = flagRegister)
  | .draw _ _ _ => register = flagRegister
  | .loadRegisters x => register.val ≤ x
  | _ => False

/-- The operations that may change the index. -/
def MayChangeIndex (behaviour : Behaviour) : Operation → Prop
  | .setIndex _ | .addIndex _ | .setIndexToGlyph _ => True
  | .storeRegisters _ | .loadRegisters _ => behaviour.memory.isOn = true
  | _ => False

end Operation

namespace Machine

/-- An attempt leaves a part if it leaves it when it is accepted. -/
theorem attempt_kept {Part : Type} (part : Machine → Part) {machine : Machine}
    {result : Except Fault Machine}
    (accepted : ∀ after, result = .ok after → part after = part machine) :
    part (Step.attempt machine result).machine = part machine := by
  cases result with
  | ok after => exact accepted after rfl
  | error fault => rfl

section Registers

variable {machine after : Machine} {register : Fin 16}

/-- An operand that is another number names another register. -/
theorem ne_of_unnamed {x register : Fin 16}
    (unnamed : ¬ (x.val : Int) = register.val) : register ≠ x := by
  rintro rfl
  exact unnamed rfl

theorem assign_register_apart {x : Fin 16} {value : Int}
    (apart : register ≠ x)
    (accepted : machine.assign (x.val : Int) value = .ok after) :
    after.registers.get register = machine.registers.get register := by
  rcases accepted_map accepted with ⟨content, written, rfl⟩
  rw [Registers.writeValue, Registers.slot_register] at written
  cases found : byteOf value with
  | error fault =>
      rw [found] at written
      contradiction
  | ok byte =>
      rw [found] at written
      cases written
      exact machine.registers.get_set_other byte apart

/-- Writing a register and then the flag leaves the others. -/
theorem get_setFlag_set_apart {registers : Registers} {x : Fin 16}
    {byte : UInt8} {flag : Bool}
    (apart : register ≠ x) (unflagged : register ≠ flagRegister) :
    ((registers.set x byte).setFlag flag).get register =
      registers.get register := by
  rw [Registers.setFlag, Registers.get_set_other _ _ unflagged,
    Registers.get_set_other _ _ apart]

theorem drawSprite_register_apart (x y height : Int)
    (unflagged : register ≠ flagRegister) :
    (machine.drawSprite x y height).machine.registers.get register =
      machine.registers.get register := by
  unfold drawSprite
  split
  · rfl
  · exact machine.registers.get_set_other _ unflagged

theorem passBlock_registers (x : Int) :
    (machine.passBlock x).registers = machine.registers := by
  unfold passBlock
  split <;> rfl

/-- Loading registers leaves those behind the last one that is loaded. -/
theorem loadRegisters_register_apart {x : Fin 16} (behind : x < register)
    (accepted : machine.loadRegisters (x.val : Int) = .ok after) :
    after.registers.get register = machine.registers.get register := by
  rw [loadRegisters_register] at accepted
  split at accepted
  · cases accepted
    have uncovered : ¬ (0 ≤ register.val ∧ register.val < 0 +
        (machine.memory.slice machine.index.toNat (x.val + 1)).length) := by
      rw [Memory.length_slice]
      omega
    rw [passBlock_registers, Registers.get_overlay, if_neg uncovered]
  · contradiction

end Registers

section Execution

variable {machine : Machine} {operation : Operation} (word : Int)

/-- Executing a decoded operation leaves every register that it may not
change. -/
theorem execute_register (fits : operation.FitsWord) {register : Fin 16}
    (untouched : ¬ operation.MayChangeRegister machine.behaviour register) :
    (machine.execute ⟨word, operation⟩).machine.registers.get register =
      machine.registers.get register := by
  by_cases written : Part.registers ∈ operation.writes
  · cases operation with
    | load number _ | readDelay number =>
        rcases exists_register number fits.x with ⟨x, rfl⟩
        exact attempt_kept (fun left => left.registers.get register)
          fun _ accepted =>
            assign_register_apart (ne_of_unnamed untouched) accepted
    | add number value =>
        rcases exists_register number fits.x with ⟨x, rfl⟩
        have apart := ne_of_unnamed untouched
        simp only [execute, update_register, Step.attempt_ok]
        exact machine.registers.get_set_other _ apart
    | copy first second =>
        rcases exists_register first fits.x with ⟨x, rfl⟩
        rcases exists_register second fits.y with ⟨y, rfl⟩
        have apart := ne_of_unnamed untouched
        simp only [execute, copy_register, Step.attempt_ok]
        exact machine.registers.get_set_other _ apart
    | or first second | and first second | xor first second =>
        rcases exists_register first fits.x with ⟨x, rfl⟩
        rcases exists_register second fits.y with ⟨y, rfl⟩
        rcases not_or.mp untouched with ⟨unnamed, unflagged⟩
        have apart := ne_of_unnamed unnamed
        simp only [execute, combineBits_register, Step.attempt_ok, Step.done]
        split
        · rename_i clears
          exact get_setFlag_set_apart apart fun flag => unflagged ⟨clears, flag⟩
        · exact machine.registers.get_set_other _ apart
    | addRegister first second | subtract first second
    | subtractFrom first second =>
        rcases exists_register first fits.x with ⟨x, rfl⟩
        rcases exists_register second fits.y with ⟨y, rfl⟩
        simp only [execute, combine_register, Step.attempt_ok]
        rcases not_or.mp untouched with ⟨unnamed, unflagged⟩
        exact get_setFlag_set_apart (ne_of_unnamed unnamed) unflagged
    | shiftRight first second | shiftLeft first second =>
        rcases exists_register first fits.x with ⟨x, rfl⟩
        rcases exists_register second fits.y with ⟨y, rfl⟩
        simp only [execute, shift_register, Step.attempt_ok]
        rcases not_or.mp untouched with ⟨unnamed, unflagged⟩
        exact get_setFlag_set_apart (ne_of_unnamed unnamed) unflagged
    | random number mask =>
        rcases exists_register number fits.x with ⟨x, rfl⟩
        have apart := ne_of_unnamed untouched
        simp only [execute, randomise_register]
        exact machine.registers.get_set_other _ apart
    | draw x y height =>
        exact drawSprite_register_apart x y height untouched
    | awaitKey number =>
        rcases exists_register number fits.x with ⟨x, rfl⟩
        have apart := ne_of_unnamed untouched
        simp only [execute, awaitKey_register, Step.attempt_ok, Step.done]
        split
        · exact machine.registers.get_set_other _ apart
        · rfl
    | loadRegisters number =>
        rcases exists_register number fits.x with ⟨x, rfl⟩
        apply attempt_kept fun left => left.registers.get register
        intro after accepted
        apply loadRegisters_register_apart _ accepted
        apply Fin.not_le.mp
        intro reached
        exact untouched (Int.ofNat_le.mpr reached)
    | _ => simp [Operation.writes] at written
  · have kept := machine.execute_frame ⟨word, operation⟩ .registers written
    exact congrArg (Registers.get · register) kept

/-- Without the switch for blocks, storing or loading registers leaves the
index. -/
theorem passBlock_index {x : Int} (off : ¬ machine.behaviour.memory.isOn = true) :
    (machine.passBlock x).index = machine.index := by
  rw [passBlock, if_neg off]

/-- Executing an operation that may not change the index leaves it. -/
theorem execute_index
    (unmoved : ¬ operation.MayChangeIndex machine.behaviour) :
    (machine.execute ⟨word, operation⟩).machine.index = machine.index := by
  by_cases written : Part.index ∈ operation.writes
  · cases operation with
    | setIndex _ | addIndex _ | setIndexToGlyph _ => exact absurd trivial unmoved
    | storeRegisters x =>
        apply attempt_kept Machine.index
        intro after accepted
        rcases accepted_bind accepted with ⟨memory, _, stored⟩
        cases stored
        exact passBlock_index unmoved
    | loadRegisters x =>
        apply attempt_kept Machine.index
        intro after accepted
        rcases accepted_bind accepted with ⟨block, _, rest⟩
        simp only at rest
        split at rest
        · cases rest
          exact passBlock_index unmoved
        · contradiction
    | _ => simp [Operation.writes] at written
  · exact machine.execute_frame ⟨word, operation⟩ .index written

end Execution

/-! ## Cycles and histories -/

section Cycles

variable (machine : Machine) (now : Float)

theorem advanced_behaviour :
    (machine.advanced now).behaviour = machine.behaviour := by
  rw [advanced_eq]

/-- A register only changes in a cycle whose operation may change it. -/
theorem cycle_register {register : Fin 16}
    (changed : (machine.cycle now).machine.registers.get register ≠
      (machine.tick now).registers.get register) :
    ∃ operation, machine.Fetches operation ∧
      operation.MayChangeRegister machine.behaviour register := by
  apply Classical.byContradiction
  intro unfetched
  apply changed
  apply machine.cycle_induction now fun left =>
    left.registers.get register = (machine.tick now).registers.get register
  · rfl
  · rfl
  · intro operation fetches
    apply execute_register _ fetches.fitsWord
    rw [advanced_behaviour]
    exact fun may => unfetched ⟨operation, fetches, may⟩
  · exact fun _ same => same

/-- The index only changes in a cycle whose operation may change it. -/
theorem cycle_index
    (changed : (machine.cycle now).machine.index ≠ (machine.tick now).index) :
    ∃ operation, machine.Fetches operation ∧
      operation.MayChangeIndex machine.behaviour := by
  apply Classical.byContradiction
  intro unfetched
  apply changed
  apply machine.cycle_induction now fun left =>
    left.index = (machine.tick now).index
  · rfl
  · rfl
  · intro operation fetches
    apply execute_index
    rw [advanced_behaviour]
    exact fun may => unfetched ⟨operation, fetches, may⟩
  · exact fun _ same => same

/-- A part that is neither counted nor moved of itself only changes in a cycle
whose operation writes it. -/
theorem cycle_written (part : Part) (steady : part ∉ [Part.pc, .tally])
    (changed : ¬ part.Same (machine.tick now) (machine.cycle now).machine) :
    ∃ operation, machine.Fetches operation ∧ part ∈ operation.writes := by
  apply Classical.byContradiction
  intro unfetched
  apply changed
  apply machine.cycle_frame_ticked now steady
  intro operation fetches written
  exact unfetched ⟨operation, fetches, written⟩

end Cycles

/-- Whatever differs between two machines, one of the operations that were
fetched may have changed it.  Timers, keys, program counter and counters are left
out, because not only operations change them. -/
structure Confined (Fetched : Operation → Prop) (before after : Machine) :
    Prop where
  registers : ∀ register,
    after.registers.get register ≠ before.registers.get register →
      ∃ operation, Fetched operation ∧
        operation.MayChangeRegister before.behaviour register
  index : after.index ≠ before.index →
    ∃ operation, Fetched operation ∧ operation.MayChangeIndex before.behaviour
  memory : after.memory ≠ before.memory →
    ∃ x, Fetched (.storeDecimal x) ∨ Fetched (.storeRegisters x)
  display : after.display ≠ before.display →
    Fetched .clearDisplay ∨ ∃ x y height, Fetched (.draw x y height)
  stack : after.stack ≠ before.stack →
    Fetched .returnFromCall ∨ ∃ address, Fetched (.call address)
  random : after.random ≠ before.random → ∃ x mask, Fetched (.random x mask)
  behaviour : after.behaviour = before.behaviour
  variant : after.variant = before.variant

/-- Behind its countdown, a cycle changes what the operation that it fetched may
change. -/
theorem cycle_confined (machine : Machine) (now : Float) :
    Confined machine.Fetches (machine.tick now) (machine.cycle now).machine := by
  have sameBehaviour : (machine.tick now).behaviour = machine.behaviour := by
    rw [tick_eq]
  constructor
  case registers =>
    rw [sameBehaviour]
    exact fun register changed => machine.cycle_register now changed
  case index =>
    rw [sameBehaviour]
    exact machine.cycle_index now
  case memory =>
    intro changed
    rcases machine.cycle_written now .memory (by decide) changed with
      ⟨operation, fetches, written⟩
    cases operation with
    | storeDecimal x => exact ⟨x, Or.inl fetches⟩
    | storeRegisters x => exact ⟨x, Or.inr fetches⟩
    | _ => simp [Operation.writes] at written
  case display =>
    intro changed
    rcases machine.cycle_written now .display (by decide) changed with
      ⟨operation, fetches, written⟩
    cases operation with
    | clearDisplay => exact Or.inl fetches
    | draw x y height => exact Or.inr ⟨x, y, height, fetches⟩
    | _ => simp [Operation.writes] at written
  case stack =>
    intro changed
    rcases machine.cycle_written now .stack (by decide) changed with
      ⟨operation, fetches, written⟩
    cases operation with
    | returnFromCall => exact Or.inl fetches
    | call address => exact Or.inr ⟨address, fetches⟩
    | _ => simp [Operation.writes] at written
  case random =>
    intro changed
    rcases machine.cycle_written now .random (by decide) changed with
      ⟨operation, fetches, written⟩
    cases operation with
    | random x mask => exact ⟨x, mask, fetches⟩
    | _ => simp [Operation.writes] at written
  case behaviour =>
    rw [sameBehaviour]
    exact (machine.respond_setup (.cycle now)).1
  case variant =>
    have ticked : (machine.tick now).variant = machine.variant := by
      rw [tick_eq]
    rw [ticked]
    exact (machine.respond_setup (.cycle now)).2

namespace Confined

variable {Fetched Wider : Operation → Prop} {first second third : Machine}

theorem refl (machine : Machine) : Confined Fetched machine machine where
  registers _ changed := absurd rfl changed
  index changed := absurd rfl changed
  memory changed := absurd rfl changed
  display changed := absurd rfl changed
  stack changed := absurd rfl changed
  random changed := absurd rfl changed
  behaviour := rfl
  variant := rfl

/-- More operations may change more. -/
theorem widen (confined : Confined Fetched first second)
    (wider : ∀ operation, Fetched operation → Wider operation) :
    Confined Wider first second where
  registers register changed := by
    rcases confined.registers register changed with ⟨operation, fetched, may⟩
    exact ⟨operation, wider _ fetched, may⟩
  index changed := by
    rcases confined.index changed with ⟨operation, fetched, may⟩
    exact ⟨operation, wider _ fetched, may⟩
  memory changed := by
    rcases confined.memory changed with ⟨x, decimal | block⟩
    · exact ⟨x, Or.inl (wider _ decimal)⟩
    · exact ⟨x, Or.inr (wider _ block)⟩
  display changed := by
    rcases confined.display changed with clear | ⟨x, y, height, draw⟩
    · exact Or.inl (wider _ clear)
    · exact Or.inr ⟨x, y, height, wider _ draw⟩
  stack changed := by
    rcases confined.stack changed with returns | ⟨address, call⟩
    · exact Or.inl (wider _ returns)
    · exact Or.inr ⟨address, wider _ call⟩
  random changed := by
    rcases confined.random changed with ⟨x, mask, fetched⟩
    exact ⟨x, mask, wider _ fetched⟩
  behaviour := confined.behaviour
  variant := confined.variant

/-- What differs in the end differs after the first or after the second of two
changes. -/
theorem trans (one : Confined Fetched first second)
    (other : Confined Fetched second third) : Confined Fetched first third where
  registers register changed := by
    rcases changed.ne_or_ne (second.registers.get register) with later | earlier
    · rw [← one.behaviour]
      exact other.registers register later
    · exact one.registers register earlier.symm
  index changed := by
    rcases changed.ne_or_ne second.index with later | earlier
    · rw [← one.behaviour]
      exact other.index later
    · exact one.index earlier.symm
  memory changed := (changed.ne_or_ne second.memory).elim other.memory
    fun earlier => one.memory earlier.symm
  display changed := (changed.ne_or_ne second.display).elim other.display
    fun earlier => one.display earlier.symm
  stack changed := (changed.ne_or_ne second.stack).elim other.stack
    fun earlier => one.stack earlier.symm
  random changed := (changed.ne_or_ne second.random).elim other.random
    fun earlier => one.random earlier.symm
  behaviour := other.behaviour.trans one.behaviour
  variant := other.variant.trans one.variant

end Confined

/-- A history changes what the operations that its cycles fetched may change. -/
theorem follow_confined (machine : Machine) (events : List Event) :
    Confined (fun operation => ∃ turn ∈ machine.turns events,
      turn.machine.Fetches operation) machine (machine.follow events) := by
  apply turns_induction fun turns after =>
    Confined (fun operation => ∃ turn ∈ turns, turn.machine.Fetches operation)
      machine after
  · exact .refl machine
  · intro turns before now confined
    let last : Turn := ⟨before, now⟩
    have earlier : Confined (fun operation => ∃ turn ∈ turns ++ [last],
        turn.machine.Fetches operation) machine before := by
      apply confined.widen
      rintro operation ⟨turn, present, fetches⟩
      exact ⟨turn, List.mem_append_left [last] present, fetches⟩
    have ticked : Confined (fun operation => ∃ turn ∈ turns ++ [last],
        turn.machine.Fetches operation) before (before.tick now) := by
      rw [tick_eq]
      exact { Confined.refl before with }
    have executed : Confined (fun operation => ∃ turn ∈ turns ++ [last],
        turn.machine.Fetches operation) (before.tick now)
          (before.cycle now).machine := by
      apply (before.cycle_confined now).widen
      intro operation fetches
      exact ⟨last, List.mem_append_right turns List.mem_cons_self, fetches⟩
    exact (earlier.trans ticked).trans executed
  · intro turns before number pressed confined
    rcases before.respond_key number pressed with ⟨keypad, moved⟩
    rw [moved]
    exact { confined with }

/-- Behind its countdown, a cycle of any machine changes only what the operation
that it fetched may change, whether or not it fails, and whatever the switches
are.  Delay and sound timer change only where they are set, and keys, behaviour
and variant never.  What a whole history changes, one of its cycles may have
changed, if it is not timers or keys. -/
theorem changes_confined :
    (∀ (machine : Machine) (now : Float),
      let before := machine.tick now
      let after := (machine.cycle now).machine
      Confined machine.Fetches before after ∧
        (after.timers.delay ≠ before.timers.delay →
          ∃ x, machine.Fetches (.setDelay x)) ∧
        (after.timers.sound ≠ before.timers.sound →
          ∃ x, machine.Fetches (.setSound x)) ∧
        after.keypad = before.keypad) ∧
      ∀ (machine : Machine) (events : List Event),
        Confined (fun operation => ∃ turn ∈ machine.turns events,
          turn.machine.Fetches operation) machine (machine.follow events) := by
  refine ⟨?_, follow_confined⟩
  intro machine now before after
  refine ⟨machine.cycle_confined now, ?_, ?_, ?_⟩
  · intro changed
    rcases machine.cycle_written now .delay (by decide) changed with
      ⟨operation, fetches, written⟩
    cases operation with
    | setDelay x => exact ⟨x, fetches⟩
    | _ => simp [Operation.writes] at written
  · intro changed
    rcases machine.cycle_written now .sound (by decide) changed with
      ⟨operation, fetches, written⟩
    cases operation with
    | setSound x => exact ⟨x, fetches⟩
    | _ => simp [Operation.writes] at written
  · apply Classical.byContradiction
    intro changed
    rcases machine.cycle_written now .keypad (by decide) changed with
      ⟨operation, _, written⟩
    exact operation.hostParts_unwritten (by decide) written

/-- A machine with a program that loads two registers from its own bytes, before
it does so. -/
def blockLoader : Machine :=
  boot ⟨[0xA2, 0x02, 0xF1, 0x65], by decide, by decide⟩ .chipEight
    (.ofVariant .chipEight) 0 0 |>.follow [.cycle 0]

/-- Loading the block changes the second register, so the operation was one that
may change it. -/
theorem blockLoader_changes_second_register :
    ((blockLoader.cycle 0).machine.registers.get 1 ≠
      (blockLoader.tick 0).registers.get 1) ∧
      ∃ operation, blockLoader.Fetches operation ∧
        operation.MayChangeRegister (blockLoader.tick 0).behaviour 1 := by
  have changed : (blockLoader.cycle 0).machine.registers.get 1 ≠
      (blockLoader.tick 0).registers.get 1 := by
    decide +kernel
  exact ⟨changed, (changes_confined.1 blockLoader 0).1.registers 1 changed⟩

end Machine

end ChipEight
