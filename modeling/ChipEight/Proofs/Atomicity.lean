import ChipEight.Proofs.Operands
import ChipEight.Proofs.Outcome

namespace ChipEight

/-!
# What a refused operation leaves

A refused operation leaves the machine as it was, except in two cases.  A
return has taken its address off the stack before it finds that no instruction
can be fetched there, and a random byte has been drawn before its register is
found missing.  These two are collected in `LateRefusal`, with the machine that
each of them leaves, so the main statement says both that nothing else is ever
changed and that exactly this is.

Operands are arbitrary integers here, and so are the program counter, the index
and the timers.  In a cycle the operation was decoded, which leaves only the
return of the two cases.
-/

namespace Machine

/-- The operations that are refused after they have changed something, with
the machine that they leave. -/
inductive LateRefusal (machine : Machine) : Operation → Machine → Prop where
  /-- A return to an address that leaves no room for an instruction. -/
  | returning {newest : UInt16} {older : CallStack}
      (popped : machine.stack.pop = .ok (newest, older))
      (beyond : 4094 < newest.toNat) :
      LateRefusal machine .returnFromCall { machine with stack := older }
  /-- A random byte for a register that does not exist. -/
  | randomising {x mask : Int} (missing : ¬ (-16 ≤ x ∧ x ≤ 15)) :
      LateRefusal machine (.random x mask)
        { machine with random := machine.random.next.2 }

variable {machine : Machine}

/-- A refused return either found the stack empty or is a late refusal. -/
theorem returnFromCall_refused (refused : machine.returnFromCall.fault ≠ none) :
    machine.returnFromCall.machine = machine ∨
      machine.LateRefusal .returnFromCall machine.returnFromCall.machine := by
  cases popped : machine.stack.pop with
  | error fault =>
      left
      rw [returnFromCall, popped]
      rfl
  | ok content =>
      rcases content with ⟨newest, older⟩
      right
      rw [machine.returnFromCall_of_popped popped] at refused ⊢
      by_cases room : newest.toNat ≤ 4094
      · rw [if_pos room] at refused
        exact absurd rfl refused
      · rw [if_neg room]
        exact .returning popped (Nat.lt_of_not_le room)

/-- A random byte is refused only if its register does not exist. -/
theorem randomise_refused {x mask : Int}
    (refused : (machine.randomise x mask).fault ≠ none) :
    machine.LateRefusal (.random x mask) (machine.randomise x mask).machine := by
  cases found : Registers.slot x with
  | error fault =>
      rw [machine.randomise_of_missing found]
      refine .randomising fun inside => ?_
      rcases Registers.slot_eq_ok_iff.mpr inside with ⟨register, present⟩
      rw [found] at present
      contradiction
  | ok register =>
      simp [randomise, withRegisters, Registers.write, found, Except.map,
        Step.done] at refused

theorem drawSprite_refused {x y height : Int}
    (refused : (machine.drawSprite x y height).fault ≠ none) :
    (machine.drawSprite x y height).machine = machine := by
  cases drawn : machine.sprite x y height with
  | ok sprite =>
      simp [drawSprite, drawn, Step.after, Step.done] at refused
  | error fault =>
      rw [drawSprite, drawn]
      rfl

/-- A refused instruction changes nothing, unless it is a late refusal. -/
theorem execute_refused {instruction : Instruction}
    (refused : (machine.execute instruction).fault ≠ none) :
    (machine.execute instruction).machine = machine ∨
      machine.LateRefusal instruction.operation
        (machine.execute instruction).machine := by
  rcases instruction with ⟨word, operation⟩
  cases operation with
  | returnFromCall => exact returnFromCall_refused refused
  | random x mask => exact Or.inr (randomise_refused refused)
  | draw x y height => exact Or.inl (drawSprite_refused refused)
  | system _ | clearDisplay | setIndex _ => exact absurd rfl refused
  | unassigned _ => exact Or.inl rfl
  | _ => exact Or.inl (Step.attempt_refused refused)

/-- A late refusal is a refusal, and leaves the machine that it names. -/
theorem LateRefusal.execute {operation : Operation} {left : Machine}
    (late : machine.LateRefusal operation left) (word : Int) :
    (machine.execute ⟨word, operation⟩).fault ≠ none ∧
      (machine.execute ⟨word, operation⟩).machine = left := by
  cases late with
  | @returning newest older popped beyond =>
      have same : machine.execute ⟨word, .returnFromCall⟩ =
          machine.returnFromCall := rfl
      rw [same, machine.returnFromCall_of_popped popped,
        if_neg (Nat.not_le.mpr beyond)]
      exact ⟨Option.some_ne_none _, rfl⟩
  | @randomising x mask missing =>
      have same : machine.execute ⟨word, .random x mask⟩ =
          machine.randomise x mask := rfl
      cases found : Registers.slot x with
      | ok register =>
          exact absurd (Registers.slot_eq_ok_iff.mp ⟨register, found⟩) missing
      | error fault =>
          rw [same, machine.randomise_of_missing found]
          exact ⟨Option.some_ne_none _, rfl⟩

/-- The only late refusal in a cycle is that of a return. -/
theorem LateRefusal.of_fetches {fetched left : Machine} {operation : Operation}
    (late : machine.LateRefusal operation left)
    (fetches : fetched.Fetches operation) :
    operation = .returnFromCall ∧ ∃ newest older,
      machine.stack.pop = .ok (newest, older) ∧ 4094 < newest.toNat ∧
        left = { machine with stack := older } := by
  cases late with
  | returning popped beyond => exact ⟨rfl, _, _, popped, beyond, rfl⟩
  | randomising missing =>
      rcases exists_register _ fetches.fitsWord.x with ⟨register, same⟩
      refine absurd ?_ missing
      simp only [Operation.operands] at same
      omega

/-- A cycle that fails has counted the timers down and, if it could fetch,
moved the program counter.  Only a return loses an address besides. -/
theorem cycle_refused {now : Float}
    (refused : (machine.cycle now).fault ≠ none) :
    (¬ machine.CanFetch ∧
        (machine.cycle now).machine = machine.tick now) ∨
      (machine.CanFetch ∧
        (machine.cycle now).machine = machine.advanced now) ∨
      (machine.Fetches .returnFromCall ∧ ∃ newest older,
        machine.stack.pop = .ok (newest, older) ∧ 4094 < newest.toNat ∧
          (machine.cycle now).machine =
            { machine.advanced now with stack := older }) := by
  rcases machine.fetch_cases with
    outside | ⟨inside, rejected⟩ | ⟨operation, fetches⟩
  · rw [machine.cycle_of_unfetched now outside]
    exact Or.inl ⟨outside, rfl⟩
  · rw [machine.cycle_of_undecoded now inside rejected]
    exact Or.inr (Or.inl ⟨inside, rfl⟩)
  · have left := cycle_machine_of_fetches now fetches
    rw [if_neg refused] at left
    rw [cycle_fault_of_fetches now fetches] at refused
    rcases execute_refused refused with unchanged | late
    · exact Or.inr (Or.inl ⟨fetches.1, left.trans unchanged⟩)
    · rcases late.of_fetches fetches with
        ⟨rfl, newest, older, popped, beyond, same⟩
      have sameStack : (machine.advanced now).stack = machine.stack := by
        rw [advanced_eq]
      rw [sameStack] at popped
      exact Or.inr (Or.inr ⟨fetches, newest, older, popped, beyond,
        left.trans same⟩)

/-- A refused instruction leaves every part of the machine as it was, except
for the two late refusals, which are refused and leave what `LateRefusal` says.
A refused cycle leaves, besides, what the timers did, and the program counter
behind the word if one was fetched.  This holds in every state of a machine and
for every instruction, whether or not a word stands for it. -/
theorem failure_atomicity :
    (∀ (machine : Machine) (instruction : Instruction),
      (machine.execute instruction).fault ≠ none →
        (machine.execute instruction).machine = machine ∨
          machine.LateRefusal instruction.operation
            (machine.execute instruction).machine) ∧
      (∀ (machine left : Machine) (instruction : Instruction),
        machine.LateRefusal instruction.operation left →
          (machine.execute instruction).fault ≠ none ∧
            (machine.execute instruction).machine = left) ∧
      ∀ (machine : Machine) (now : Float),
        (machine.cycle now).fault ≠ none →
          let ticked :=
            { machine with
              timers := machine.timers.tick now
              tally.timerTicks := machine.tally.timerTicks +
                if machine.timers.due now then 1 else 0 }
          (¬ machine.CanFetch ∧ (machine.cycle now).machine = ticked) ∨
            (machine.CanFetch ∧
              (machine.cycle now).machine =
                { ticked with pc := machine.pc + 2 }) ∨
            (machine.Fetches .returnFromCall ∧ ∃ newest older,
              machine.stack.pop = .ok (newest, older) ∧
                4094 < newest.toNat ∧
                (machine.cycle now).machine =
                  { ticked with pc := machine.pc + 2, stack := older }) := by
  refine ⟨fun machine instruction refused => execute_refused refused,
    fun machine left instruction late => late.execute instruction.word, ?_⟩
  intro machine now refused ticked
  have advancedMachine :
      machine.advanced now = { ticked with pc := machine.pc + 2 } :=
    machine.advanced_eq now
  rcases cycle_refused refused with
    ⟨outside, left⟩ | ⟨inside, left⟩ |
      ⟨fetches, newest, older, popped, beyond, left⟩
  · exact Or.inl ⟨outside, left.trans (machine.tick_eq now)⟩
  · exact Or.inr (Or.inl ⟨inside, left.trans advancedMachine⟩)
  · rw [advancedMachine] at left
    exact Or.inr (Or.inr ⟨fetches, newest, older, popped, beyond, left⟩)

/-- A delay that no register holds is refused without a trace, a return to the
last byte of memory loses that address, and a cycle that finds no word leaves
the program counter where it is. -/
theorem refused_with_large_delay_and_last_byte :
    let rest := fresh .chipEight (.ofVariant .chipEight) 0 0
    let delayed := { rest with timers.delay := 300, index := -1 }
    let called := { rest with stack := ⟨16, [4095, 514], by decide⟩ }
    let behind := { rest with pc := 4096 }
    ((delayed.execute ⟨0xF007, .readDelay 0⟩).fault ≠ none ∧
        (delayed.execute ⟨0xF007, .readDelay 0⟩).machine = delayed) ∧
      ((called.execute ⟨0x00EE, .returnFromCall⟩).fault ≠ none ∧
        (called.execute ⟨0x00EE, .returnFromCall⟩).machine =
          { called with stack := ⟨16, [514], by decide⟩ }) ∧
      ((behind.cycle 1).fault ≠ none ∧
        (behind.cycle 1).machine.pc = 4096) := by
  intro rest delayed called behind
  refine ⟨?_, ?_, ?_⟩
  · have refused : (delayed.execute ⟨0xF007, .readDelay 0⟩).fault ≠ none := by
      decide
    refine ⟨refused, ?_⟩
    rcases failure_atomicity.1 delayed _ refused with unchanged | late
    · exact unchanged
    · cases late
  · exact failure_atomicity.2.1 called _ ⟨0x00EE, .returnFromCall⟩
      (.returning rfl (by decide))
  · have refused : (behind.cycle 1).fault ≠ none := by
      decide +kernel
    have outside : ¬ behind.CanFetch := by
      decide
    refine ⟨refused, ?_⟩
    rcases failure_atomicity.2.2 behind 1 refused with
      ⟨_, left⟩ | ⟨inside, _⟩ | ⟨fetches, _⟩
    · rw [left]
    · exact absurd inside outside
    · exact absurd fetches.1 outside

end Machine

end ChipEight
