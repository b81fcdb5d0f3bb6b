import ChipEight.Text.Numeral

namespace ChipEight

/-!
# Instructions

An operation names what the machine is to do and carries exactly the operands
that it uses.  Operands are unbounded integers: the decoder only produces
register numbers below sixteen, bytes and twelve-bit addresses, but a host may
build any instruction, and the machine then says what it makes of it.

An instruction is an operation together with the word it was read from, which
is shown whenever the instruction is named in a message.
-/

/-- What one instruction does.  `x` and `y` are register numbers, `value` is an
immediate operand and `address` a place in memory. -/
inductive Operation where
  | system (address : Int)
  | clearDisplay
  | returnFromCall
  | jump (address : Int)
  | call (address : Int)
  | skipIfEqual (x value : Int)
  | skipIfNotEqual (x value : Int)
  | skipIfSame (x y : Int)
  | load (x value : Int)
  | add (x value : Int)
  | copy (x y : Int)
  | or (x y : Int)
  | and (x y : Int)
  | xor (x y : Int)
  | addRegister (x y : Int)
  | subtract (x y : Int)
  | shiftRight (x y : Int)
  | subtractFrom (x y : Int)
  | shiftLeft (x y : Int)
  | skipIfDifferent (x y : Int)
  | setIndex (address : Int)
  | jumpOffset (address : Int)
  | random (x value : Int)
  | draw (x y value : Int)
  | skipIfKey (x : Int)
  | skipIfNoKey (x : Int)
  | readDelay (x : Int)
  | awaitKey (x : Int)
  | setDelay (x : Int)
  | setSound (x : Int)
  | addIndex (x : Int)
  | setIndexToGlyph (x : Int)
  | storeDecimal (x : Int)
  | storeRegisters (x : Int)
  | loadRegisters (x : Int)
  /-- An operation that no rule of the machine covers. -/
  | unassigned (name : String)
  deriving DecidableEq, Repr

/-- The four operand fields that an instruction word can hold.  A field that an
operation does not use is zero. -/
structure Operands where
  x : Int := 0
  y : Int := 0
  value : Int := 0
  address : Int := 0
  deriving DecidableEq, Repr

namespace Operation

/-- The name under which an operation appears in messages. -/
def name : Operation → String
  | .system _ => "IGNORED"
  | .clearDisplay => "CLEAR_DISPLAY"
  | .returnFromCall => "RETURN"
  | .jump _ => "JUMP"
  | .call _ => "CALL"
  | .skipIfEqual _ _ => "SKIP_IF_EQ"
  | .skipIfNotEqual _ _ => "SKIP_IF_NE"
  | .skipIfSame _ _ => "SKIP_IF_REGISTERS_EQ"
  | .load _ _ => "SET_REGISTER"
  | .add _ _ => "ADD"
  | .copy _ _ => "SET_REGISTER_TO_REGISTER"
  | .or _ _ => "OR"
  | .and _ _ => "AND"
  | .xor _ _ => "XOR"
  | .addRegister _ _ => "ADD_REGISTERS"
  | .subtract _ _ => "SUB_REGISTERS"
  | .shiftRight _ _ => "SHIFT_RIGHT"
  | .subtractFrom _ _ => "SUB_REGISTERS_REVERSE"
  | .shiftLeft _ _ => "SHIFT_LEFT"
  | .skipIfDifferent _ _ => "SKIP_IF_REGISTERS_NE"
  | .setIndex _ => "SET_ADDRESS_REGISTER"
  | .jumpOffset _ => "JUMP_PLUS_REGISTER"
  | .random _ _ => "RANDOM"
  | .draw _ _ _ => "DRAW"
  | .skipIfKey _ => "SKIP_IF_KEY_PRESSED"
  | .skipIfNoKey _ => "SKIP_IF_KEY_NOT_PRESSED"
  | .readDelay _ => "SET_REGISTER_TO_DELAY_TIMER"
  | .awaitKey _ => "WAIT_FOR_KEY_PRESS"
  | .setDelay _ => "SET_DELAY_TIMER"
  | .setSound _ => "SET_SOUND_TIMER"
  | .addIndex _ => "ADD_TO_ADDRESS_REGISTER"
  | .setIndexToGlyph _ => "SET_ADDRESS_REGISTER_TO_SPRITE"
  | .storeDecimal _ => "STORE_BCD"
  | .storeRegisters _ => "STORE_REGISTERS"
  | .loadRegisters _ => "READ_REGISTERS"
  | .unassigned name => name

/-- The operand fields of an operation. -/
def operands : Operation → Operands
  | .system address | .jump address | .call address | .setIndex address
  | .jumpOffset address => ⟨0, 0, 0, address⟩
  | .skipIfEqual x value | .skipIfNotEqual x value | .load x value
  | .add x value | .random x value => ⟨x, 0, value, 0⟩
  | .skipIfSame x y | .copy x y | .or x y | .and x y | .xor x y
  | .addRegister x y | .subtract x y | .shiftRight x y | .subtractFrom x y
  | .shiftLeft x y | .skipIfDifferent x y => ⟨x, y, 0, 0⟩
  | .draw x y value => ⟨x, y, value, 0⟩
  | .skipIfKey x | .skipIfNoKey x | .readDelay x | .awaitKey x | .setDelay x
  | .setSound x | .addIndex x | .setIndexToGlyph x | .storeDecimal x
  | .storeRegisters x | .loadRegisters x => ⟨x, 0, 0, 0⟩
  | .clearDisplay | .returnFromCall | .unassigned _ => ⟨0, 0, 0, 0⟩

/-- The operation of a given name, with its operands taken from the fields it
uses.  A name that belongs to no rule gives an unassigned operation. -/
def ofName (name : String) (fields : Operands) : Operation :=
  match name with
  | "IGNORED" => .system fields.address
  | "CLEAR_DISPLAY" => .clearDisplay
  | "RETURN" => .returnFromCall
  | "JUMP" => .jump fields.address
  | "CALL" => .call fields.address
  | "SKIP_IF_EQ" => .skipIfEqual fields.x fields.value
  | "SKIP_IF_NE" => .skipIfNotEqual fields.x fields.value
  | "SKIP_IF_REGISTERS_EQ" => .skipIfSame fields.x fields.y
  | "SET_REGISTER" => .load fields.x fields.value
  | "ADD" => .add fields.x fields.value
  | "SET_REGISTER_TO_REGISTER" => .copy fields.x fields.y
  | "OR" => .or fields.x fields.y
  | "AND" => .and fields.x fields.y
  | "XOR" => .xor fields.x fields.y
  | "ADD_REGISTERS" => .addRegister fields.x fields.y
  | "SUB_REGISTERS" => .subtract fields.x fields.y
  | "SHIFT_RIGHT" => .shiftRight fields.x fields.y
  | "SUB_REGISTERS_REVERSE" => .subtractFrom fields.x fields.y
  | "SHIFT_LEFT" => .shiftLeft fields.x fields.y
  | "SKIP_IF_REGISTERS_NE" => .skipIfDifferent fields.x fields.y
  | "SET_ADDRESS_REGISTER" => .setIndex fields.address
  | "JUMP_PLUS_REGISTER" => .jumpOffset fields.address
  | "RANDOM" => .random fields.x fields.value
  | "DRAW" => .draw fields.x fields.y fields.value
  | "SKIP_IF_KEY_PRESSED" => .skipIfKey fields.x
  | "SKIP_IF_KEY_NOT_PRESSED" => .skipIfNoKey fields.x
  | "SET_REGISTER_TO_DELAY_TIMER" => .readDelay fields.x
  | "WAIT_FOR_KEY_PRESS" => .awaitKey fields.x
  | "SET_DELAY_TIMER" => .setDelay fields.x
  | "SET_SOUND_TIMER" => .setSound fields.x
  | "ADD_TO_ADDRESS_REGISTER" => .addIndex fields.x
  | "SET_ADDRESS_REGISTER_TO_SPRITE" => .setIndexToGlyph fields.x
  | "STORE_BCD" => .storeDecimal fields.x
  | "STORE_REGISTERS" => .storeRegisters fields.x
  | "READ_REGISTERS" => .loadRegisters fields.x
  | other => .unassigned other

end Operation

/-- An operation and the word it stands for. -/
structure Instruction where
  word : Int
  operation : Operation
  deriving DecidableEq, Repr

/-- How an instruction is named in messages: its operation and its word. -/
def Instruction.label (instruction : Instruction) : String :=
  instruction.operation.name ++ "(0x" ++ Text.hex 4 instruction.word ++ ")"

end ChipEight
