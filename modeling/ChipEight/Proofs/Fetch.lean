import ChipEight.Machine.Cycle

namespace ChipEight

/-!
# The three ways of a cycle

A cycle fails to fetch, fetches a word that decodes to nothing, or executes the
operation that it fetched.  There is one statement for each of the three.
Execution starts from the machine whose timers were counted down and whose
program counter was moved behind the word, called the advanced machine here.
-/

namespace Instruction

/-- A decoded instruction remembers its word. -/
theorem decode?_word {word : Int} {instruction : Instruction}
    (decoded : decode? word = some instruction) : instruction.word = word := by
  unfold decode? at decoded
  split at decoded
  · rcases Option.map_eq_some_iff.mp decoded with ⟨operation, _, rfl⟩
    rfl
  · contradiction

end Instruction

namespace Machine

/-- The word at the program counter. -/
def word (machine : Machine) : Nat :=
  256 * (machine.memory.byteAt machine.pc.toNat).toNat +
    (machine.memory.byteAt (machine.pc.toNat + 1)).toNat

/-- The next cycle can fetch a word. -/
def CanFetch (machine : Machine) : Prop :=
  0 ≤ machine.pc ∧ machine.pc ≤ 4094

instance (machine : Machine) : Decidable machine.CanFetch :=
  inferInstanceAs (Decidable (_ ∧ _))

/-- The next cycle fetches a word that decodes to an operation. -/
def Fetches (machine : Machine) (operation : Operation) : Prop :=
  machine.CanFetch ∧
    Instruction.decode? machine.word = some ⟨machine.word, operation⟩

instance (machine : Machine) (operation : Operation) :
    Decidable (machine.Fetches operation) :=
  inferInstanceAs (Decidable (_ ∧ _))

/-- The machine from which the next cycle executes, if it gets so far. -/
def advanced (machine : Machine) (now : Float) : Machine :=
  { machine.tick now with pc := machine.pc + 2 }

variable (machine : Machine) (now : Float)

/-- Counting the timers down changes the timers and one counter. -/
theorem tick_eq :
    machine.tick now =
      { machine with
        timers := machine.timers.tick now
        tally.timerTicks := machine.tally.timerTicks +
          if machine.timers.due now then 1 else 0 } := by
  unfold tick Timers.tick
  split <;> rfl

theorem advanced_eq :
    machine.advanced now =
      { machine with
        pc := machine.pc + 2
        timers := machine.timers.tick now
        tally.timerTicks := machine.tally.timerTicks +
          if machine.timers.due now then 1 else 0 } := by
  rw [advanced, tick_eq]

theorem spans_pc : Memory.Spans machine.pc 2 ↔ machine.CanFetch := by
  unfold Memory.Spans memorySize CanFetch
  omega

theorem cycle_of_unfetched (outside : ¬ machine.CanFetch) :
    machine.cycle now =
      ⟨machine.tick now, [.fetchFailed machine.pc],
        some (.unmapped machine.pc 2)⟩ := by
  simp only [cycle, tick_eq, Memory.readWord, spans_pc, if_neg outside]
  rfl

theorem cycle_of_fetched (inside : machine.CanFetch) :
    machine.cycle now =
      ((machine.advanced now).perform machine.pc machine.word).after
        (.fetched machine.word machine.pc) := by
  simp only [cycle, tick_eq, Memory.readWord, spans_pc, if_pos inside, word,
    advanced]

theorem cycle_of_undecoded (inside : machine.CanFetch)
    (rejected : Instruction.decode? machine.word = none) :
    machine.cycle now =
      ⟨machine.advanced now,
        [.fetched machine.word machine.pc, .decodeFailed machine.word machine.pc],
        some (.unknownWord machine.word (some machine.pc))⟩ := by
  rw [cycle_of_fetched machine now inside]
  simp only [perform, rejected]
  rfl

section Execution

variable {machine} {operation : Operation} (fetches : machine.Fetches operation)

include fetches

theorem cycle_of_fetches :
    machine.cycle now =
      ((machine.advanced now).executeFrom machine.pc
        ⟨machine.word, operation⟩).after
          (.fetched machine.word machine.pc) := by
  rw [cycle_of_fetched machine now fetches.1]
  simp only [perform, fetches.2]

/-- A cycle that executes fails as the execution does. -/
theorem cycle_fault_of_fetches :
    (machine.cycle now).fault =
      ((machine.advanced now).execute ⟨machine.word, operation⟩).fault := by
  rw [cycle_of_fetches now fetches]
  simp only [executeFrom, Step.after]
  split
  · rfl
  · split <;> rfl

/-- A cycle that executes leaves what the execution leaves, and counts the
instruction if it was accepted. -/
theorem cycle_machine_of_fetches :
    (machine.cycle now).machine =
      if (machine.cycle now).fault = none then
        ((machine.advanced now).execute
          ⟨machine.word, operation⟩).machine.countInstruction
      else
        ((machine.advanced now).execute ⟨machine.word, operation⟩).machine := by
  rw [cycle_fault_of_fetches now fetches, cycle_of_fetches now fetches]
  simp only [executeFrom, Step.after]
  split
  · rename_i accepted
    rw [if_pos accepted]
  · rename_i fault refused
    rw [refused, if_neg (Option.some_ne_none fault)]
    split <;> rfl

/-- A cycle that executes leaves every part that counting does not touch as the
execution leaves it. -/
theorem cycle_part_of_fetches {Part : Type} (part : Machine → Part)
    (uncounted : ∀ left : Machine, part left.countInstruction = part left) :
    part (machine.cycle now).machine =
      part ((machine.advanced now).execute ⟨machine.word, operation⟩).machine := by
  rw [cycle_machine_of_fetches now fetches]
  split
  · exact uncounted _
  · rfl

end Execution

/-- The next cycle fetches at most one operation. -/
theorem Fetches.unique {machine : Machine} {first second : Operation}
    (one : machine.Fetches first) (other : machine.Fetches second) :
    first = second := by
  have same := one.2.symm.trans other.2
  cases same
  rfl

/-- A cycle fails to fetch, fetches what decodes to nothing, or executes. -/
theorem fetch_cases :
    ¬ machine.CanFetch ∨
      (machine.CanFetch ∧ Instruction.decode? machine.word = none) ∨
        ∃ operation, machine.Fetches operation := by
  by_cases inside : machine.CanFetch
  · cases decoded : Instruction.decode? machine.word with
    | none => exact Or.inr (Or.inl ⟨inside, rfl⟩)
    | some instruction =>
        have sameWord := Instruction.decode?_word decoded
        refine Or.inr (Or.inr ⟨instruction.operation, inside, ?_⟩)
        rw [decoded, ← sameWord]
  · exact Or.inl inside

/-- What holds behind the countdown, behind the fetch and behind every execution,
and does not depend on counting, holds behind the cycle. -/
theorem cycle_induction (Kept : Machine → Prop)
    (ticked : Kept (machine.tick now)) (fetched : Kept (machine.advanced now))
    (executed : ∀ operation, machine.Fetches operation →
      Kept ((machine.advanced now).execute ⟨machine.word, operation⟩).machine)
    (counted : ∀ left, Kept left → Kept left.countInstruction) :
    Kept (machine.cycle now).machine := by
  rcases machine.fetch_cases with
    outside | ⟨inside, rejected⟩ | ⟨operation, fetches⟩
  · rw [machine.cycle_of_unfetched now outside]
    exact ticked
  · rw [machine.cycle_of_undecoded now inside rejected]
    exact fetched
  · rw [cycle_machine_of_fetches now fetches]
    split
    · exact counted _ (executed operation fetches)
    · exact executed operation fetches

/-- The operation that the next cycle fetches, if it fetches one. -/
def fetched? (machine : Machine) : Option Operation :=
  if machine.CanFetch then
    (Instruction.decode? machine.word).map Instruction.operation
  else none

theorem fetched?_eq_some_iff {machine : Machine} {operation : Operation} :
    machine.fetched? = some operation ↔ machine.Fetches operation := by
  unfold fetched? Fetches
  constructor
  · intro found
    split at found
    · rename_i inside
      rcases Option.map_eq_some_iff.mp found with ⟨instruction, decoded, rfl⟩
      refine ⟨inside, ?_⟩
      rw [decoded, ← Instruction.decode?_word decoded]
    · contradiction
  · rintro ⟨inside, decoded⟩
    rw [if_pos inside, decoded]
    rfl

/-- A cycle that succeeds has executed an operation. -/
theorem fetches_of_accepted {machine : Machine} {now : Float}
    (accepted : (machine.cycle now).fault = none) :
    ∃ operation, machine.Fetches operation := by
  rcases machine.fetch_cases with outside | ⟨inside, rejected⟩ | executes
  · rw [machine.cycle_of_unfetched now outside] at accepted
    contradiction
  · rw [machine.cycle_of_undecoded now inside rejected] at accepted
    contradiction
  · exact executes

end Machine

end ChipEight
