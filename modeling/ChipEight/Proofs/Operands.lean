import ChipEight.Proofs.Fetch

namespace ChipEight

/-!
# Operands of decoded operations

An operation that was decoded from a word has operands that fit the digits of a
word: register numbers below sixteen, immediate values of one byte and
addresses of twelve bits.  None is unassigned.  Executions within a cycle only
meet such operations, and so none of the faults that depend on other operands.
-/

namespace Operation

/-- The operands have the size of the fields of a word, and the operation is
one that the machine has a rule for. -/
structure FitsWord (operation : Operation) : Prop where
  x : 0 ≤ operation.operands.x ∧ operation.operands.x < 16
  y : 0 ≤ operation.operands.y ∧ operation.operands.y < 16
  value : 0 ≤ operation.operands.value ∧ operation.operands.value < 256
  address : 0 ≤ operation.operands.address ∧ operation.operands.address < 4096
  assigned : ∀ name, operation ≠ .unassigned name

variable {word : Nat} {operation : Operation}

theorem ofSystemWord_fitsWord (decoded : ofSystemWord word = some operation) :
    operation.FitsWord := by
  unfold ofSystemWord at decoded
  split at decoded <;> cases decoded
  all_goals constructor <;> simp [operands] <;> omega

theorem ofRegisterWord_fitsWord
    (decoded : ofRegisterWord word = some operation) : operation.FitsWord := by
  unfold ofRegisterWord at decoded
  simp only at decoded
  split at decoded <;> cases decoded
  all_goals constructor <;> simp [operands] <;> omega

theorem ofKeyWord_fitsWord (decoded : ofKeyWord word = some operation) :
    operation.FitsWord := by
  unfold ofKeyWord at decoded
  simp only at decoded
  split at decoded <;> cases decoded
  all_goals
    constructor <;> simp [operands]
    all_goals omega

theorem ofDeviceWord_fitsWord (decoded : ofDeviceWord word = some operation) :
    operation.FitsWord := by
  unfold ofDeviceWord at decoded
  simp only at decoded
  split at decoded <;> cases decoded
  all_goals
    constructor <;> simp [operands]
    all_goals omega

/-- Two families check their last digit, four are decoded by a table of their
own, and every other leading digit stands for one operation. -/
theorem ofWord_fitsWord (decoded : ofWord word = some operation) :
    operation.FitsWord := by
  unfold ofWord at decoded
  simp only at decoded
  split at decoded
  case h_1 => exact ofSystemWord_fitsWord decoded
  case h_9 => exact ofRegisterWord_fitsWord decoded
  case h_15 => exact ofKeyWord_fitsWord decoded
  case h_16 => exact ofDeviceWord_fitsWord decoded
  case h_17 => contradiction
  case h_6 | h_10 =>
    split at decoded
    · cases decoded
      constructor <;> simp [operands] <;> omega
    · contradiction
  all_goals
    cases decoded
    constructor <;> simp [operands] <;> omega

end Operation

namespace Instruction

theorem decode?_fitsWord {word : Int} {instruction : Instruction}
    (decoded : decode? word = some instruction) :
    instruction.operation.FitsWord := by
  unfold decode? at decoded
  split at decoded
  · rcases Option.map_eq_some_iff.mp decoded with ⟨operation, found, rfl⟩
    exact Operation.ofWord_fitsWord found
  · contradiction

end Instruction

theorem Machine.Fetches.fitsWord {machine : Machine} {operation : Operation}
    (fetches : machine.Fetches operation) : operation.FitsWord :=
  Instruction.decode?_fitsWord fetches.2

/-- A register number that fits its field names one of the registers. -/
theorem exists_register (number : Int) (fits : 0 ≤ number ∧ number < 16) :
    ∃ register : Fin 16, number = (register.val : Int) :=
  ⟨⟨number.toNat, by omega⟩, by simp only; omega⟩

end ChipEight
