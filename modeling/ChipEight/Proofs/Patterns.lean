import ChipEight.Proofs.Operands

namespace ChipEight

/-!
# The patterns of instruction words

The instruction set is usually given as a table of patterns.  A pattern has one
symbol for each of the four digits of a word.  A digit stands for itself, `x`
and `y` stand for the numbers of registers, and every `n` for a digit of a
number that the operation carries, with the weight that it has in the word.

Decoding follows the table, except that it does not look at the second digit of
a clear or a return.  The words that it accepts beyond the table are the stray
ones.  All others can be recovered from the operation that they decode to.
-/

/-- A symbol of a pattern. -/
inductive PatternSymbol where
  | digit (value : Nat)
  | x
  | y
  | n
  deriving DecidableEq

namespace PatternSymbol

/-- A symbol admits a digit of a word. -/
@[simp] def Admits : PatternSymbol → Nat → Prop
  | .digit value, found => found = value
  | _, _ => True

/-- What a digit of a word adds to the number that the word carries. -/
@[simp] def part : PatternSymbol → Nat → Nat
  | .n, found => found
  | _, _ => 0

end PatternSymbol

/-- The pattern of the words of an operation. -/
structure Pattern where
  first : PatternSymbol
  second : PatternSymbol
  third : PatternSymbol
  fourth : PatternSymbol

namespace Pattern

/-- A word matches a pattern digit by digit. -/
def Matches (pattern : Pattern) (word : Nat) : Prop :=
  pattern.first.Admits (word / 4096) ∧
    pattern.second.Admits (word / 256 % 16) ∧
    pattern.third.Admits (word / 16 % 16) ∧ pattern.fourth.Admits (word % 16)

/-- The number that a word carries. -/
@[simp] def number (pattern : Pattern) (word : Nat) : Nat :=
  256 * pattern.second.part (word / 256 % 16) +
    16 * pattern.third.part (word / 16 % 16) + pattern.fourth.part (word % 16)

/-- The operand fields of a word that matches a pattern.  The number is an
address if it begins at the second digit, and otherwise a value.  A field that
the pattern does not use is zero. -/
def operands (pattern : Pattern) (word : Nat) : Operands where
  x := if pattern.second = .x then (word / 256 % 16 : Nat) else 0
  y := if pattern.third = .y then (word / 16 % 16 : Nat) else 0
  value := if pattern.second = .n then 0 else (pattern.number word : Nat)
  address := if pattern.second = .n then (pattern.number word : Nat) else 0

end Pattern

namespace Operation

section Table

open PatternSymbol

/-- The pattern of each operation.  An unassigned operation has none. -/
def pattern? : Operation → Option Pattern
  | .system _ => some ⟨digit 0x0, n, digit 0x0, digit 0x0⟩
  | .clearDisplay => some ⟨digit 0x0, digit 0x0, digit 0xE, digit 0x0⟩
  | .returnFromCall => some ⟨digit 0x0, digit 0x0, digit 0xE, digit 0xE⟩
  | .jump _ => some ⟨digit 0x1, n, n, n⟩
  | .call _ => some ⟨digit 0x2, n, n, n⟩
  | .skipIfEqual _ _ => some ⟨digit 0x3, x, n, n⟩
  | .skipIfNotEqual _ _ => some ⟨digit 0x4, x, n, n⟩
  | .skipIfSame _ _ => some ⟨digit 0x5, x, y, digit 0x0⟩
  | .load _ _ => some ⟨digit 0x6, x, n, n⟩
  | .add _ _ => some ⟨digit 0x7, x, n, n⟩
  | .copy _ _ => some ⟨digit 0x8, x, y, digit 0x0⟩
  | .or _ _ => some ⟨digit 0x8, x, y, digit 0x1⟩
  | .and _ _ => some ⟨digit 0x8, x, y, digit 0x2⟩
  | .xor _ _ => some ⟨digit 0x8, x, y, digit 0x3⟩
  | .addRegister _ _ => some ⟨digit 0x8, x, y, digit 0x4⟩
  | .subtract _ _ => some ⟨digit 0x8, x, y, digit 0x5⟩
  | .shiftRight _ _ => some ⟨digit 0x8, x, y, digit 0x6⟩
  | .subtractFrom _ _ => some ⟨digit 0x8, x, y, digit 0x7⟩
  | .shiftLeft _ _ => some ⟨digit 0x8, x, y, digit 0xE⟩
  | .skipIfDifferent _ _ => some ⟨digit 0x9, x, y, digit 0x0⟩
  | .setIndex _ => some ⟨digit 0xA, n, n, n⟩
  | .jumpOffset _ => some ⟨digit 0xB, n, n, n⟩
  | .random _ _ => some ⟨digit 0xC, x, n, n⟩
  | .draw _ _ _ => some ⟨digit 0xD, x, y, n⟩
  | .skipIfKey _ => some ⟨digit 0xE, x, digit 0x9, digit 0xE⟩
  | .skipIfNoKey _ => some ⟨digit 0xE, x, digit 0xA, digit 0x1⟩
  | .readDelay _ => some ⟨digit 0xF, x, digit 0x0, digit 0x7⟩
  | .awaitKey _ => some ⟨digit 0xF, x, digit 0x0, digit 0xA⟩
  | .setDelay _ => some ⟨digit 0xF, x, digit 0x1, digit 0x5⟩
  | .setSound _ => some ⟨digit 0xF, x, digit 0x1, digit 0x8⟩
  | .addIndex _ => some ⟨digit 0xF, x, digit 0x1, digit 0xE⟩
  | .setIndexToGlyph _ => some ⟨digit 0xF, x, digit 0x2, digit 0x9⟩
  | .storeDecimal _ => some ⟨digit 0xF, x, digit 0x3, digit 0x3⟩
  | .storeRegisters _ => some ⟨digit 0xF, x, digit 0x5, digit 0x5⟩
  | .loadRegisters _ => some ⟨digit 0xF, x, digit 0x6, digit 0x5⟩
  | .unassigned _ => none

end Table

/-- A word matches the pattern of an operation and carries its operands. -/
def Spells (operation : Operation) (word : Nat) : Prop :=
  ∃ pattern, operation.pattern? = some pattern ∧ pattern.Matches word ∧
    operation.operands = pattern.operands word

variable {word : Nat} {operation : Operation}

/-- A spelled word is the one that encoding gives. -/
theorem encode_of_spells (spells : operation.Spells word) :
    operation.encode = some (word : Int) := by
  rcases spells with ⟨pattern, found, matched, fields⟩
  -- In each row of the table, the digits that stand for themselves are known, and
  -- the others are in the fields.
  cases operation <;> cases found <;>
    simp only [Pattern.Matches, PatternSymbol.Admits, true_and, and_true]
      at matched <;>
    simp [operands, Pattern.operands] at fields <;>
    simp only [encode, Option.some.injEq] <;> omega

/-- Decoding selects by the digits and by the last byte, which is composed of
the last two. -/
theorem ofWord_of_spells (spells : operation.Spells word) :
    ofWord word = some operation := by
  rcases spells with ⟨pattern, found, matched, fields⟩
  have lastByte : word % 256 = 16 * (word / 16 % 16) + word % 16 := by omega
  have tail : word % 4096 = 256 * (word / 256 % 16) + word % 256 := by omega
  cases operation <;> cases found <;>
    simp only [Pattern.Matches, PatternSymbol.Admits, true_and, and_true]
      at matched <;>
    simp [operands, Pattern.operands] at fields <;>
    simp [ofWord, ofSystemWord, ofRegisterWord, ofKeyWord, ofDeviceWord, *] <;>
    omega

/-! The families whose last digit or byte selects the operation are read back
one by one.  The leading digit is known from the family. -/

theorem spells_of_ofRegisterWord (family : word / 4096 = 0x8)
    (decoded : ofRegisterWord word = some operation) :
    operation.Spells word := by
  unfold ofRegisterWord at decoded
  simp only at decoded
  split at decoded <;> cases decoded
  all_goals
    refine ⟨_, rfl, ?_, ?_⟩
    · simp [Pattern.Matches, *]
    · simp [operands, Pattern.operands]

theorem spells_of_ofKeyWord (family : word / 4096 = 0xE)
    (decoded : ofKeyWord word = some operation) : operation.Spells word := by
  unfold ofKeyWord at decoded
  simp only at decoded
  split at decoded <;> cases decoded
  all_goals
    refine ⟨_, rfl, ?_, ?_⟩
    · simp [Pattern.Matches, family]; omega
    · simp [operands, Pattern.operands]

theorem spells_of_ofDeviceWord (family : word / 4096 = 0xF)
    (decoded : ofDeviceWord word = some operation) :
    operation.Spells word := by
  unfold ofDeviceWord at decoded
  simp only at decoded
  split at decoded <;> cases decoded
  all_goals
    refine ⟨_, rfl, ?_, ?_⟩
    · simp [Pattern.Matches, family]; omega
    · simp [operands, Pattern.operands]

end Operation

/-- The words of the system family that end like a clear or a return, but have
another second digit than zero. -/
def IsStray (word : Int) : Prop :=
  0x0100 ≤ word ∧ word ≤ 0x0FFF ∧ (word % 256 = 0xE0 ∨ word % 256 = 0xEE)

instance (word : Int) : Decidable (IsStray word) :=
  inferInstanceAs (Decidable (_ ∧ _))

namespace Operation

variable {word : Nat} {operation : Operation}

/-- The operation that a stray word decodes to. -/
def ofStray (word : Int) : Operation :=
  if word % 256 = 0xE0 then .clearDisplay else .returnFromCall

theorem spells_or_isStray_of_ofSystemWord (family : word / 4096 = 0x0)
    (decoded : ofSystemWord word = some operation) :
    operation.Spells word ∨
      IsStray word ∧ operation = ofStray word := by
  unfold ofSystemWord at decoded
  split at decoded
  case h_1 lastByte | h_2 lastByte =>
    cases decoded
    -- The second digit decides whether the word is in the table.
    by_cases inTable : word / 256 % 16 = 0
    · refine .inl ⟨_, rfl, ?_, rfl⟩
      simp [Pattern.Matches, family, inTable]; omega
    · refine .inr ⟨?_, ?_⟩
      · unfold IsStray; omega
      · unfold ofStray; split <;> first | rfl | omega
  case h_3 lastByte =>
    cases decoded
    refine .inl ⟨_, rfl, ?_, ?_⟩
    · simp [Pattern.Matches, family]; omega
    · simp [operands, Pattern.operands]; omega
  case h_4 => contradiction

theorem spells_or_isStray_of_ofWord (decoded : ofWord word = some operation) :
    operation.Spells word ∨
      IsStray word ∧ operation = ofStray word := by
  unfold ofWord at decoded
  simp only at decoded
  split at decoded
  case h_1 family => exact spells_or_isStray_of_ofSystemWord family decoded
  case h_9 family => exact .inl (spells_of_ofRegisterWord family decoded)
  case h_15 family => exact .inl (spells_of_ofKeyWord family decoded)
  case h_16 family => exact .inl (spells_of_ofDeviceWord family decoded)
  case h_17 => contradiction
  case h_6 | h_10 =>
    split at decoded
    · cases decoded
      refine .inl ⟨_, rfl, ?_, ?_⟩
      · simp [Pattern.Matches, *]
      · simp [operands, Pattern.operands]
    · contradiction
  case h_14 =>
    cases decoded
    refine .inl ⟨_, rfl, ?_, ?_⟩
    · simp [Pattern.Matches, *]
    · simp [operands, Pattern.operands]
  all_goals
    cases decoded
    refine .inl ⟨_, rfl, ?_, ?_⟩
    · simp [Pattern.Matches, *]
    · simp [operands, Pattern.operands]; omega

theorem ofWord_of_isStray (stray : IsStray word) :
    ofWord word = some (ofStray word) := by
  rcases stray with ⟨lower, upper, lastByte⟩
  have family : word / 4096 = 0 := by omega
  rcases lastByte with cleared | returned
  · have last : word % 256 = 0xE0 := by omega
    simp [ofWord, family, ofSystemWord, last, ofStray, cleared]
  · have last : word % 256 = 0xEE := by omega
    simp [ofWord, family, ofSystemWord, last, ofStray, returned]

/-- No pattern admits a stray word, because a stray word is not the one that its
operation is encoded as. -/
theorem not_isStray_of_spells (spells : operation.Spells word) :
    ¬IsStray word := by
  intro stray
  have same : operation = ofStray word := Option.some.inj
    ((ofWord_of_spells spells).symm.trans (ofWord_of_isStray stray))
  have encoded := encode_of_spells spells
  rw [same, ofStray] at encoded
  have lower := stray.1
  split at encoded <;> cases encoded <;> contradiction

/-- Decoding accepts the words of the table, and the stray ones. -/
theorem ofWord_eq_some : ofWord word = some operation ↔
    operation.Spells word ∨ IsStray word ∧ operation = ofStray word := by
  constructor
  · exact spells_or_isStray_of_ofWord
  · rintro (spells | ⟨stray, rfl⟩)
    · exact ofWord_of_spells spells
    · exact ofWord_of_isStray stray

/-- The name and the operand fields of an operation say which one it is. -/
theorem ofName_name_operands (assigned : ∀ name, operation ≠ .unassigned name) :
    ofName operation.name operation.operands = operation := by
  cases operation
  case unassigned name => exact absurd rfl (assigned name)
  all_goals rfl

end Operation

namespace Instruction

variable {word : Int} {instruction : Instruction}

theorem decode?_eq_some : decode? word = some instruction ↔
    instruction.word = word ∧ 0 ≤ word ∧ word ≤ 0xFFFF ∧
      Operation.ofWord word.toNat = some instruction.operation := by
  unfold decode?
  constructor
  · intro decoded
    split at decoded
    case isTrue range =>
      rcases Option.map_eq_some_iff.mp decoded with ⟨operation, found, rfl⟩
      exact ⟨rfl, range.1, range.2, found⟩
    case isFalse => contradiction
  · rintro ⟨rfl, lower, upper, found⟩
    rw [if_pos ⟨lower, upper⟩, found]
    rfl

/-- A decoded word that is not stray is the one that its operation is encoded
as. -/
theorem encode_of_decode? (decoded : decode? word = some instruction)
    (regular : ¬IsStray word) : instruction.operation.encode = some word := by
  rcases decode?_eq_some.mp decoded with ⟨-, lower, -, found⟩
  obtain ⟨number, rfl⟩ := Int.eq_ofNat_of_zero_le lower
  rcases Operation.ofWord_eq_some.mp found with spells | ⟨stray, -⟩
  · exact Operation.encode_of_spells spells
  · exact absurd stray regular

/-- A word decodes if and only if it matches the pattern of an operation, or is
a stray one.  The two exclude each other.  A word that matches a pattern is
given back by the name and the operand fields of its operation. -/
theorem decoding_by_pattern (word : Int) (instruction : Instruction) :
    (decode? word = some instruction ↔
      instruction.word = word ∧ 0 ≤ word ∧ word ≤ 0xFFFF ∧
        (instruction.operation.Spells word.toNat ∨
          IsStray word ∧ instruction.operation = Operation.ofStray word)) ∧
    (instruction.operation.Spells word.toNat → ¬IsStray word) ∧
    (decode? word = some instruction → ¬IsStray word →
      (Operation.ofName instruction.operation.name
        instruction.operation.operands).encode = some word) := by
  refine ⟨?_, ?_, ?_⟩
  · rw [decode?_eq_some]
    refine and_congr_right fun _ => and_congr_right fun lower => ?_
    obtain ⟨number, rfl⟩ := Int.eq_ofNat_of_zero_le lower
    rw [Int.toNat_natCast, Operation.ofWord_eq_some]
  · intro spells stray
    have lower : 0 ≤ word := by have := stray.1; omega
    obtain ⟨number, rfl⟩ := Int.eq_ofNat_of_zero_le lower
    exact Operation.not_isStray_of_spells spells stray
  · intro decoded regular
    rw [Operation.ofName_name_operands (decode?_fitsWord decoded).assigned]
    exact encode_of_decode? decoded regular

/-- The word `0x01E0` clears the display, though no pattern admits it.  Its
operation is that of `0x00E0`. -/
theorem stray_clear_decoded :
    decode? 0x01E0 = some ⟨0x01E0, .clearDisplay⟩ ∧
      decode? 0x00E0 = some ⟨0x00E0, .clearDisplay⟩ ∧
      ∀ operation : Operation, ¬operation.Spells 0x01E0 := by
  refine ⟨rfl, rfl, fun operation spells => ?_⟩
  exact Operation.not_isStray_of_spells spells (by decide)

end Instruction

end ChipEight
