import ChipEight.Instruction.Decode

namespace ChipEight

/-!
# Disassembly

A disassembly reads a byte string as a row of words, two bytes each with the
high one first.  A word that decodes is shown as its instruction, any other as
a data word, and an odd byte at the end as a data byte.  A row also carries the
address of its word and a description of its effect.
-/

/-- One line of assembly: a mnemonic, its operands, and a description. -/
structure Assembly where
  mnemonic : String
  operands : String
  description : String
  deriving DecidableEq, Repr

namespace Assembly

/-- A register as an operand. -/
def register (index : Int) : String :=
  "V" ++ Text.hex 1 index

/-- An immediate byte as an operand. -/
def immediate (value : Int) : String :=
  "#" ++ Text.hex 2 value

/-- An address as an operand. -/
def target (address : Int) : String :=
  "$" ++ Text.hex 3 address

/-- Two registers as operands. -/
def registers (x y : Int) : String :=
  register x ++ ", " ++ register y

/-- The assembly of an operation. -/
def ofOperation : Operation → Assembly
  | .system address => ⟨"SYS", target address, "no-op system word"⟩
  | .clearDisplay => ⟨"CLS", "", "screen := blank"⟩
  | .returnFromCall => ⟨"RET", "", "PC := pop()"⟩
  | .jump address => ⟨"JP", target address, "PC := " ++ Text.hex 3 address⟩
  | .call address =>
      ⟨"CALL", target address, "push(PC); PC := " ++ Text.hex 3 address⟩
  | .skipIfEqual x value =>
      ⟨"SE", register x ++ ", " ++ immediate value,
        "skip next when " ++ register x ++ " = " ++ Text.hex 2 value⟩
  | .skipIfNotEqual x value =>
      ⟨"SNE", register x ++ ", " ++ immediate value,
        "skip next when " ++ register x ++ " <> " ++ Text.hex 2 value⟩
  | .skipIfSame x y =>
      ⟨"SE", registers x y,
        "skip next when " ++ register x ++ " = " ++ register y⟩
  | .skipIfDifferent x y =>
      ⟨"SNE", registers x y,
        "skip next when " ++ register x ++ " <> " ++ register y⟩
  | .load x value =>
      ⟨"LD", register x ++ ", " ++ immediate value,
        register x ++ " := " ++ Text.hex 2 value⟩
  | .add x value =>
      ⟨"ADD", register x ++ ", " ++ immediate value,
        register x ++ " := " ++ register x ++ " + " ++ Text.hex 2 value ++
          ", flag untouched"⟩
  | .copy x y => ⟨"LD", registers x y, register x ++ " := " ++ register y⟩
  | .or x y =>
      ⟨"OR", registers x y,
        register x ++ " := " ++ register x ++ " | " ++ register y⟩
  | .and x y =>
      ⟨"AND", registers x y,
        register x ++ " := " ++ register x ++ " & " ++ register y⟩
  | .xor x y =>
      ⟨"XOR", registers x y,
        register x ++ " := " ++ register x ++ " ^ " ++ register y⟩
  | .addRegister x y =>
      ⟨"ADD", registers x y,
        register x ++ " := " ++ register x ++ " + " ++ register y ++
          "; VF := carry"⟩
  | .subtract x y =>
      ⟨"SUB", registers x y,
        register x ++ " := " ++ register x ++ " - " ++ register y ++
          "; VF := no borrow"⟩
  | .shiftRight x y =>
      ⟨"SHR", registers x y, register x ++ " := source >> 1; VF := bit 0"⟩
  | .subtractFrom x y =>
      ⟨"SUBN", registers x y,
        register x ++ " := " ++ register y ++ " - " ++ register x ++
          "; VF := no borrow"⟩
  | .shiftLeft x y =>
      ⟨"SHL", registers x y, register x ++ " := source << 1; VF := bit 7"⟩
  | .setIndex address =>
      ⟨"LD", "I, " ++ target address, "I := " ++ Text.hex 3 address⟩
  | .jumpOffset address =>
      ⟨"JP", "V0, " ++ target address,
        "PC := " ++ Text.hex 3 address ++ " + V0"⟩
  | .random x value =>
      ⟨"RND", register x ++ ", " ++ immediate value,
        register x ++ " := rand() & " ++ Text.hex 2 value⟩
  | .draw x y value =>
      ⟨"DRW", registers x y ++ ", #" ++ Text.hex 1 value,
        "sprite[I..I+" ++ Text.decimal value ++ "] at (" ++ registers x y ++
          "); VF := collision"⟩
  | .skipIfKey x =>
      ⟨"SKP", register x, "skip next when key[" ++ register x ++ "] down"⟩
  | .skipIfNoKey x =>
      ⟨"SKNP", register x, "skip next when key[" ++ register x ++ "] up"⟩
  | .readDelay x =>
      ⟨"LD", register x ++ ", DT", register x ++ " := delay timer"⟩
  | .awaitKey x =>
      ⟨"LD", register x ++ ", K",
        register x ++ " := next key down (repeats until one is)"⟩
  | .setDelay x => ⟨"LD", "DT, " ++ register x, "delay timer := " ++ register x⟩
  | .setSound x => ⟨"LD", "ST, " ++ register x, "sound timer := " ++ register x⟩
  | .addIndex x => ⟨"ADD", "I, " ++ register x, "I := I + " ++ register x⟩
  | .setIndexToGlyph x =>
      ⟨"LD", "F, " ++ register x, "I := font glyph of " ++ register x⟩
  | .storeDecimal x =>
      ⟨"LD", "B, " ++ register x,
        "mem[I..I+2] := decimal digits of " ++ register x⟩
  | .storeRegisters x =>
      ⟨"LD", "[I], " ++ register x, "mem[I..] := V0.." ++ register x⟩
  | .loadRegisters x =>
      ⟨"LD", register x ++ ", [I]", "V0.." ++ register x ++ " := mem[I..]"⟩
  | .unassigned name => ⟨name, "", ""⟩

/-- The assembly of a word: its instruction if it has one, and else data. -/
def ofWord (word : Int) : Assembly :=
  match Instruction.decode? word with
  | some instruction => ofOperation instruction.operation
  | none => ⟨"DW", "$" ++ Text.hex 4 word, "data word"⟩

/-- The assembly of a byte that has no partner. -/
def ofByte (byte : Int) : Assembly :=
  ⟨"DB", "$" ++ Text.hex 2 byte, "data byte"⟩

end Assembly

/-- One row of a disassembly. -/
structure Row where
  address : Int
  word : Int
  assembly : Assembly
  deriving DecidableEq, Repr

/-- The word that two bytes form, the high one first. -/
def wordOfBytes (high low : UInt8) : Nat :=
  256 * high.toNat + low.toNat

namespace Row

/-- A row as a line of the listing. -/
def line (row : Row) : String :=
  "$" ++ Text.hex 3 row.address ++ "    $" ++ Text.hex 4 row.word ++ "   " ++
    Text.column 8 row.assembly.mnemonic ++ " " ++
    Text.column 15 row.assembly.operands ++ " ; " ++ row.assembly.description

end Row

/-- The rows of a byte string whose first byte stands at `address`. -/
def disassemble (address : Int) : List UInt8 → List Row
  | [] => []
  | [last] => [⟨address, last.toNat, Assembly.ofByte last.toNat⟩]
  | high :: low :: rest =>
      let word : Int := wordOfBytes high low
      ⟨address, word, Assembly.ofWord word⟩ :: disassemble (address + 2) rest

/-- The header of a listing. -/
def listingHeader : String :=
  "Address  Opcode  Mnemonic Operands        Description"

/-- A disassembly as text: the header and one line for each row. -/
def listing (rows : List Row) : String :=
  "\n".intercalate (listingHeader :: rows.map Row.line)

end ChipEight
