import ChipEight.Disassembly
import ChipEight.Proofs.Numerals
import ChipEight.Proofs.Patterns

namespace ChipEight

/-!
# Assembling a disassembly

A disassembly loses nothing.  Its mnemonics and operands alone can be assembled
again, without the addresses, the words and the descriptions, and give back the
bytes.  The exceptions are the stray words, whose second digit is not shown.

Some mnemonics stand for several operations.  The kinds of the operands tell
them apart, and each kind is marked by how it is written.
-/

/-- What an operand of a line refers to. -/
inductive Operand where
  | register (index : Int)
  | immediate (value : Int)
  | target (address : Int)
  | index
  | block
  | delay
  | sound
  | key
  | glyph
  | decimal
  deriving DecidableEq

namespace Operand

/-- The operand that a text without blanks and commas denotes. -/
def read? : List Char → Option Operand
  | ['D', 'T'] => some .delay
  | ['S', 'T'] => some .sound
  | ['K'] => some .key
  | ['F'] => some .glyph
  | ['B'] => some .decimal
  | ['I'] => some .index
  | ['[', 'I', ']'] => some .block
  | 'V' :: digits => some (.register (Text.hexValue digits))
  | '#' :: digits => some (.immediate (Text.hexValue digits))
  | '$' :: digits => some (.target (Text.hexValue digits))
  | _ => none

/-- The operands that a text lists.  Blanks do not matter. -/
def readList (text : String) : List Operand :=
  ((text.toList.filter (· ≠ ' ')).splitOn ',').filterMap read?

/-- A text shows an operand if it reads as that operand and can stand in a
list. -/
structure Shown (operand : Operand) (text : String) : Prop where
  reads : read? text.toList = some operand
  solid : ' ' ∉ text.toList
  single : ',' ∉ text.toList

section Lists

variable {operand : Operand} {text : String}

theorem Shown.filter_eq (shown : operand.Shown text) :
    text.toList.filter (· ≠ ' ') = text.toList := by
  refine List.filter_eq_self.mpr fun char member => ?_
  have visible : char ≠ ' ' := fun blank => shown.solid (by rwa [← blank])
  simpa using visible

theorem readList_of_shown (shown : operand.Shown text) :
    readList text = [operand] := by
  rw [readList, shown.filter_eq, List.splitOn_eq_singleton shown.single]
  simp [shown.reads]

theorem readList_append (shown : operand.Shown text) (rest : String) :
    readList (text ++ ", " ++ rest) = operand :: readList rest := by
  have chars : (text ++ ", " ++ rest).toList.filter (· ≠ ' ') =
      text.toList ++ ',' :: rest.toList.filter (· ≠ ' ') := by
    simp only [String.toList_append, List.filter_append, shown.filter_eq,
      List.append_assoc]
    rfl
  rw [readList, chars, List.splitOn_append_cons_self_of_not_mem shown.single]
  simp [shown.reads, readList]

theorem readList_pair {first second : Operand} {left right listed : String}
    (firstShown : first.Shown left) (secondShown : second.Shown right)
    (shape : left ++ ", " ++ right = listed) :
    readList listed = [first, second] := by
  rw [← shape, readList_append firstShown, readList_of_shown secondShown]

end Lists

section Written

variable {number : Int}

/-- A mark and the numeral behind it show the operand that the mark stands
for. -/
theorem shown_marked {mark : Char} {sign : String}
    (signed : sign.toList = [mark]) {kind : Int → Operand}
    (reads : ∀ digits,
      read? (mark :: digits) = some (kind (Text.hexValue digits)))
    (visible : mark ≠ ' ' ∧ mark ≠ ',') (nonneg : 0 ≤ number) (width : Nat) :
    Shown (kind number) (sign ++ Text.hex width number) := by
  have chars : (sign ++ Text.hex width number).toList =
      mark :: Text.hexChars width number := by
    simp [Text.hex, signed]
  refine ⟨?_, ?_, ?_⟩
  · rw [chars, reads, Text.hexValue_hexChars nonneg]
  · rw [chars]
    exact List.not_mem_cons_of_ne_of_not_mem visible.1.symm
      (Text.not_mem_hexChars (by decide) nonneg width)
  · rw [chars]
    exact List.not_mem_cons_of_ne_of_not_mem visible.2.symm
      (Text.not_mem_hexChars (by decide) nonneg width)

theorem shown_register (nonneg : 0 ≤ number) :
    Shown (.register number) (Assembly.register number) :=
  shown_marked rfl (fun _ => rfl) (by decide) nonneg 1

/-- The offset of a jump is always in the first register. -/
theorem shown_zero : Shown (.register 0) "V0" := ⟨rfl, by decide, by decide⟩

/-- The height of a sprite is written with one digit, other values with two. -/
theorem shown_immediate (nonneg : 0 ≤ number) (width : Nat) :
    Shown (.immediate number) ("#" ++ Text.hex width number) :=
  shown_marked rfl (fun _ => rfl) (by decide) nonneg width

/-- An address is written with three digits, a data word with four, and a data
byte with two. -/
theorem shown_target (nonneg : 0 ≤ number) (width : Nat) :
    Shown (.target number) ("$" ++ Text.hex width number) :=
  shown_marked rfl (fun _ => rfl) (by decide) nonneg width

theorem shown_delay : Shown .delay "DT" := ⟨rfl, by decide, by decide⟩
theorem shown_sound : Shown .sound "ST" := ⟨rfl, by decide, by decide⟩
theorem shown_key : Shown .key "K" := ⟨rfl, by decide, by decide⟩
theorem shown_glyph : Shown .glyph "F" := ⟨rfl, by decide, by decide⟩
theorem shown_decimal : Shown .decimal "B" := ⟨rfl, by decide, by decide⟩
theorem shown_index : Shown .index "I" := ⟨rfl, by decide, by decide⟩
theorem shown_block : Shown .block "[I]" := ⟨rfl, by decide, by decide⟩

end Written

end Operand

/-- The two bytes of a word, the high one first. -/
def bytesOfWord (word : Int) : List UInt8 :=
  [UInt8.ofNat (word.toNat / 256), UInt8.ofNat (word.toNat % 256)]

/-- The bytes of the word of an operation. -/
def Operation.bytes? (operation : Operation) : Option (List UInt8) :=
  operation.encode.map bytesOfWord

namespace Assembly

/-- The bytes that a line stands for. -/
def bytes? : String → List Operand → Option (List UInt8)
  | "DW", [.target word] => some (bytesOfWord word)
  | "DB", [.target byte] => some [UInt8.ofNat byte.toNat]
  | "SYS", [.target address] => (Operation.system address).bytes?
  | "CLS", [] => Operation.clearDisplay.bytes?
  | "RET", [] => Operation.returnFromCall.bytes?
  | "JP", [.target address] => (Operation.jump address).bytes?
  | "JP", [.register 0, .target address] =>
      (Operation.jumpOffset address).bytes?
  | "CALL", [.target address] => (Operation.call address).bytes?
  | "SE", [.register x, .immediate value] =>
      (Operation.skipIfEqual x value).bytes?
  | "SE", [.register x, .register y] => (Operation.skipIfSame x y).bytes?
  | "SNE", [.register x, .immediate value] =>
      (Operation.skipIfNotEqual x value).bytes?
  | "SNE", [.register x, .register y] =>
      (Operation.skipIfDifferent x y).bytes?
  | "LD", [.register x, .immediate value] => (Operation.load x value).bytes?
  | "LD", [.register x, .register y] => (Operation.copy x y).bytes?
  | "LD", [.index, .target address] => (Operation.setIndex address).bytes?
  | "LD", [.register x, .delay] => (Operation.readDelay x).bytes?
  | "LD", [.register x, .key] => (Operation.awaitKey x).bytes?
  | "LD", [.delay, .register x] => (Operation.setDelay x).bytes?
  | "LD", [.sound, .register x] => (Operation.setSound x).bytes?
  | "LD", [.glyph, .register x] => (Operation.setIndexToGlyph x).bytes?
  | "LD", [.decimal, .register x] => (Operation.storeDecimal x).bytes?
  | "LD", [.block, .register x] => (Operation.storeRegisters x).bytes?
  | "LD", [.register x, .block] => (Operation.loadRegisters x).bytes?
  | "ADD", [.register x, .immediate value] => (Operation.add x value).bytes?
  | "ADD", [.register x, .register y] => (Operation.addRegister x y).bytes?
  | "ADD", [.index, .register x] => (Operation.addIndex x).bytes?
  | "OR", [.register x, .register y] => (Operation.or x y).bytes?
  | "AND", [.register x, .register y] => (Operation.and x y).bytes?
  | "XOR", [.register x, .register y] => (Operation.xor x y).bytes?
  | "SUB", [.register x, .register y] => (Operation.subtract x y).bytes?
  | "SHR", [.register x, .register y] => (Operation.shiftRight x y).bytes?
  | "SUBN", [.register x, .register y] => (Operation.subtractFrom x y).bytes?
  | "SHL", [.register x, .register y] => (Operation.shiftLeft x y).bytes?
  | "RND", [.register x, .immediate value] =>
      (Operation.random x value).bytes?
  | "DRW", [.register x, .register y, .immediate value] =>
      (Operation.draw x y value).bytes?
  | "SKP", [.register x] => (Operation.skipIfKey x).bytes?
  | "SKNP", [.register x] => (Operation.skipIfNoKey x).bytes?
  | _, _ => none

open Operand

/-- The operands of a drawing are the only ones that are three. -/
theorem draw_operands (x y value : Int) :
    (ofOperation (.draw x y value)).operands =
      register x ++ ", " ++
        (register y ++ ", " ++ ("#" ++ Text.hex 1 value)) := by
  have mark : ", #" = ", " ++ "#" := rfl
  simp only [ofOperation, registers, mark, String.append_assoc]

/-- A line of an operation stands for the bytes of its word. -/
theorem bytes?_ofOperation {operation : Operation} (fits : operation.FitsWord) :
    bytes? (ofOperation operation).mnemonic
      (readList (ofOperation operation).operands) = operation.bytes? := by
  rcases fits with ⟨⟨x, -⟩, ⟨y, -⟩, ⟨value, -⟩, ⟨address, -⟩, assigned⟩
  cases operation <;> simp only [Operation.operands] at x y value address
  case unassigned name => exact absurd rfl (assigned name)
  -- The operations whose operands are of the same kinds are read alike.
  case clearDisplay | returnFromCall => rfl
  case system | jump | call =>
    exact congrArg (bytes? _) (readList_of_shown (shown_target address 3))
  case skipIfKey | skipIfNoKey =>
    exact congrArg (bytes? _) (readList_of_shown (shown_register x))
  case skipIfEqual | skipIfNotEqual | load | add | random =>
    exact congrArg (bytes? _)
      (readList_pair (shown_register x) (shown_immediate value 2) rfl)
  case skipIfSame | skipIfDifferent | copy | or | and | xor | addRegister |
      subtract | shiftRight | subtractFrom | shiftLeft =>
    exact congrArg (bytes? _)
      (readList_pair (shown_register x) (shown_register y) rfl)
  case setIndex =>
    exact congrArg (bytes? _)
      (readList_pair shown_index (shown_target address 3) rfl)
  case jumpOffset =>
    exact congrArg (bytes? _)
      (readList_pair shown_zero (shown_target address 3) rfl)
  case addIndex =>
    exact congrArg (bytes? _) (readList_pair shown_index (shown_register x) rfl)
  case setDelay =>
    exact congrArg (bytes? _) (readList_pair shown_delay (shown_register x) rfl)
  case setSound =>
    exact congrArg (bytes? _) (readList_pair shown_sound (shown_register x) rfl)
  case setIndexToGlyph =>
    exact congrArg (bytes? _) (readList_pair shown_glyph (shown_register x) rfl)
  case storeDecimal =>
    exact congrArg (bytes? _)
      (readList_pair shown_decimal (shown_register x) rfl)
  case storeRegisters =>
    exact congrArg (bytes? _) (readList_pair shown_block (shown_register x) rfl)
  -- The comma is written together with the second operand here.
  case readDelay =>
    exact congrArg (bytes? _)
      (readList_pair (shown_register x) shown_delay String.append_assoc)
  case awaitKey =>
    exact congrArg (bytes? _)
      (readList_pair (shown_register x) shown_key String.append_assoc)
  case loadRegisters =>
    exact congrArg (bytes? _)
      (readList_pair (shown_register x) shown_block String.append_assoc)
  case draw =>
    rw [draw_operands, readList_append (shown_register x),
      readList_pair (shown_register y) (shown_immediate value 1) rfl]
    rfl

/-- A line of a regular word gives back the bytes of the word. -/
theorem bytes?_ofWord {word : Nat} (regular : ¬IsStray word) :
    bytes? (ofWord word).mnemonic (readList (ofWord word).operands) =
      some (bytesOfWord word) := by
  unfold ofWord
  cases decoded : Instruction.decode? word with
  | none =>
    exact congrArg (bytes? _)
      (readList_of_shown (shown_target (Int.natCast_nonneg word) 4))
  | some instruction =>
    simp only
    rw [bytes?_ofOperation (Instruction.decode?_fitsWord decoded),
      Operation.bytes?, Instruction.encode_of_decode? decoded regular]
    rfl

/-- A stray word is shown like the word of its last byte, so it cannot be
recovered. -/
theorem ofWord_of_isStray {word : Int} (stray : IsStray word) :
    ofWord word = ofWord (word % 256) := by
  obtain ⟨number, rfl⟩ := Int.eq_ofNat_of_zero_le
    (show 0 ≤ word by have := stray.1; omega)
  have decoded : Instruction.decode? number =
      some ⟨number, Operation.ofStray number⟩ :=
    Instruction.decode?_eq_some.mpr ⟨rfl, Int.natCast_nonneg number,
      by have := stray.2.1; omega, Operation.ofWord_of_isStray stray⟩
  rcases stray.2.2 with cleared | returned
  · have operation : Operation.ofStray number = .clearDisplay := by
      rw [Operation.ofStray, if_pos cleared]
    rw [ofWord, decoded, operation, cleared]
    rfl
  · have operation : Operation.ofStray number = .returnFromCall := by
      rw [Operation.ofStray, if_neg (by omega)]
    rw [ofWord, decoded, operation, returned]
    rfl

theorem bytes?_ofByte (byte : UInt8) :
    bytes? (ofByte byte.toNat).mnemonic
      (readList (ofByte byte.toNat).operands) = some [byte] := by
  have read : readList (ofByte byte.toNat).operands = [.target byte.toNat] :=
    readList_of_shown (shown_target (Int.natCast_nonneg byte.toNat) 2)
  have line : bytes? "DB" [.target byte.toNat] =
      some [UInt8.ofNat (byte.toNat : Int).toNat] := rfl
  rw [read]
  exact line.trans (by simp)

end Assembly

theorem bytesOfWord_wordOfBytes (high low : UInt8) :
    bytesOfWord (wordOfBytes high low) = [high, low] := by
  have bound := low.toNat_lt
  have upper : wordOfBytes high low / 256 = high.toNat := by
    unfold wordOfBytes; omega
  have lower : wordOfBytes high low % 256 = low.toNat := by
    unfold wordOfBytes; omega
  simp [bytesOfWord, upper, lower]

/-- No word at an even offset of a byte string is stray. -/
def FreeOfStrays (bytes : List UInt8) : Prop :=
  ∀ index, (bound : index < bytes.length / 2) →
    ¬IsStray (wordOfBytes bytes[2 * index] bytes[2 * index + 1])

instance (bytes : List UInt8) : Decidable (FreeOfStrays bytes) :=
  inferInstanceAs (Decidable (∀ index, (bound : index < bytes.length / 2) →
    ¬IsStray (wordOfBytes bytes[2 * index] bytes[2 * index + 1])))

theorem FreeOfStrays.cons_cons {high low : UInt8} {rest : List UInt8}
    (free : FreeOfStrays (high :: low :: rest)) :
    ¬IsStray (wordOfBytes high low) ∧ FreeOfStrays rest := by
  refine ⟨free 0 (by simp), fun index bound => ?_⟩
  exact free (index + 1) (by simp only [List.length_cons]; omega)

/-- What a row shows of its word. -/
def Row.columns (row : Row) : String × String :=
  (row.assembly.mnemonic, row.assembly.operands)

/-- Assemble lines of mnemonics and operands. -/
def assemble : List (String × String) → Option (List UInt8)
  | [] => some []
  | (mnemonic, operands) :: rest => do
      let bytes ← Assembly.bytes? mnemonic (Operand.readList operands)
      let others ← assemble rest
      return bytes ++ others

/-- The columns of a disassembly are assembled to what was disassembled, row
by row. -/
theorem assemble_disassemble (address : Int) {bytes : List UInt8}
    (free : FreeOfStrays bytes) :
    assemble ((disassemble address bytes).map Row.columns) = some bytes := by
  induction address, bytes using disassemble.induct with
  | case1 address => rfl
  | case2 address last =>
    simp [disassemble, assemble, Row.columns, Assembly.bytes?_ofByte]
  | case3 address high low rest inductionHypothesis =>
    rcases free.cons_cons with ⟨regular, restFree⟩
    have line := Assembly.bytes?_ofWord regular
    simp [disassemble, assemble, Row.columns, line,
      inductionHypothesis restFree, bytesOfWord_wordOfBytes]

/-- The mnemonics and operands of a disassembly determine the bytes, wherever
they stand. -/
theorem bytes_determined_by_columns {first second : List UInt8}
    (firstFree : FreeOfStrays first) (secondFree : FreeOfStrays second)
    (firstAddress secondAddress : Int)
    (same : (disassemble firstAddress first).map Row.columns =
      (disassemble secondAddress second).map Row.columns) :
    first = second := by
  have assembled : some first = some second := by
    calc some first
      _ = assemble ((disassemble firstAddress first).map Row.columns) :=
        (assemble_disassemble firstAddress firstFree).symm
      _ = assemble ((disassemble secondAddress second).map Row.columns) := by
        rw [same]
      _ = some second := assemble_disassemble secondAddress secondFree
  exact Option.some.inj assembled

/-- An instruction, a data word and a data byte, loaded as a program and
listed from the start of memory. -/
theorem loaded_and_unloaded_alike :
    FreeOfStrays [0x60, 0x0A, 0x01, 0x23, 0xFF] ∧
      (disassemble 0x200 [0x60, 0x0A, 0x01, 0x23, 0xFF]).map Row.columns =
        (disassemble 0 (bytesOfWord 0x600A ++ bytesOfWord 0x0123 ++ [0xFF])).map
          Row.columns ∧
      [0x60, 0x0A, 0x01, 0x23, 0xFF] =
        bytesOfWord 0x600A ++ bytesOfWord 0x0123 ++ [0xFF] :=
  ⟨by decide, rfl,
    bytes_determined_by_columns (by decide) (by decide) 0x200 0 rfl⟩

end ChipEight
