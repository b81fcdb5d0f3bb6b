import ChipEight.Instruction
import ChipEight.Text.Quantity

namespace ChipEight

/-!
# Faults

A fault says why an operation on the machine, or on one of its parts, was
refused.  The first group can stop a program.  The second group can only be
caused by a host that hands a part a value outside its domain; no program that
was loaded and then run from its start reaches it.
-/

/-- The width of a cell that integers are stored in. -/
inductive CellWidth where
  | byte
  | double
  deriving DecidableEq, Repr

namespace CellWidth

/-- The number of bits of a cell. -/
def bits : CellWidth → Nat
  | .byte => 8
  | .double => 16

/-- The number of bytes of a cell. -/
def bytes : CellWidth → Nat
  | .byte => 1
  | .double => 2

/-- The number of values of a cell. -/
def values : CellWidth → Nat
  | .byte => 0x100
  | .double => 0x10000

/-- The integers that fit in a cell. -/
def Holds (width : CellWidth) (value : Int) : Prop :=
  0 ≤ value ∧ value < width.values

instance (width : CellWidth) (value : Int) : Decidable (width.Holds value) :=
  inferInstanceAs (Decidable (_ ∧ _))

end CellWidth

/-- The height and width of a rectangle of pixels. -/
structure Extent where
  height : Nat
  width : Nat
  deriving DecidableEq, Repr

/-- An extent as it is written in messages. -/
def Extent.text (extent : Extent) : String :=
  "(" ++ toString extent.height ++ "," ++ toString extent.width ++ ")"

/-- The reasons for which an operation is refused. -/
inductive Fault where
  /-- A word that decodes to no instruction, and where it was fetched. -/
  | unknownWord (word : Int) (location : Option Int)
  /-- An instruction that the machine has no rule for. -/
  | unassigned (instruction : Instruction)
  /-- A call that finds every slot of the stack in use. -/
  | stackFull (address : Int) (depth : Nat)
  /-- A return that finds no slot of the stack in use. -/
  | stackEmpty
  /-- An access of `length` bytes at `address` that leaves memory. -/
  | unmapped (address length : Int)
  /-- A register number outside the register file. -/
  | noRegister (index : Int)
  /-- A register number that no 64 bits hold, with a sign or without. -/
  | noNumber (index : Int)
  /-- A number that 64 bits hold only without a sign, or not at all. -/
  | tooWide (value : Int)
  /-- An integer that does not fit in the cell it should be stored in. -/
  | unrepresentable (value : Int) (width : CellWidth)
  /-- A block of registers that is loaded from another number of bytes. -/
  | blockMismatch (given wanted : Nat)
  /-- A sprite whose extent cannot be stretched over the area it falls on. -/
  | patternMismatch (area pattern : Extent)
  /-- A sprite that stretches beyond the area it falls on. -/
  | areaMismatch (area stretched : Extent)
  /-- A key number outside the keypad. -/
  | noKey (key : Int)
  /-- An array that would have fewer than no elements. -/
  | negativeExtent
  /-- An array whose number of elements 64 bits with a sign cannot hold. -/
  | excessiveExtent
  /-- An array whose number of bytes 64 bits with a sign cannot hold. -/
  | excessiveSize
  /-- An array that there is no room for. -/
  | noStorage (extents : List Nat) (width : CellWidth)
  /-- An array that is written beyond its end.  The system does not go on. -/
  | overrun
  /-- An array that no image can be set up on. -/
  | noFrame (width height : Nat)
  /-- An image whose pixels would have no extent. -/
  | scaleTooSmall (scale : Int)
  deriving DecidableEq, Repr

namespace Fault

/-- Whether a fault belongs to the group that can stop a program. -/
def stopsPrograms : Fault → Bool
  | .unknownWord _ _ | .unassigned _ | .stackFull _ _ | .stackEmpty
  | .unmapped _ _ => true
  | _ => false

/-- The bound of the integers of 64 bits with a sign. -/
def wideBound : Int := 0x8000000000000000

/-- An integer that 64 bits with a sign hold. -/
def IsWide (value : Int) : Prop :=
  -wideBound ≤ value ∧ value < wideBound

instance (value : Int) : Decidable (IsWide value) :=
  inferInstanceAs (Decidable (_ ∧ _))

/-- The text that reports a number which 64 bits with a sign cannot hold. -/
def tooWideMessage : String := "Python int too large to convert to C long"

/-- The name of a kind of cell in messages. -/
def cellName (width : CellWidth) : String :=
  "uint" ++ toString width.bits

/-- The text that reports a value which does not fit in a cell.  A value that
64 bits cannot hold is not shown. -/
def unrepresentableMessage (value : Int) (width : CellWidth) : String :=
  if IsWide value then
    "Python integer " ++ Text.decimal value ++ " out of bounds for " ++
      cellName width
  else tooWideMessage

/-- The extents of an array as they are written in messages. -/
def extentsText : List Nat → String
  | [single] => "(" ++ toString single ++ ",)"
  | extents => "(" ++ ", ".intercalate (extents.map toString) ++ ")"

/-- Whether every number of a fault may be written in its message. -/
def isWritable : Fault → Bool
  | .unmapped _ length => Text.isWritable length
  | _ => true

/-- The text that reports a fault. -/
def message : Fault → String
  | .unknownWord word none => "Unknown opcode 0x" ++ Text.hex 4 word
  | .unknownWord word (some location) =>
      "Unknown opcode 0x" ++ Text.hex 4 word ++ " at PC=0x" ++
        Text.hex 3 location
  | .unassigned instruction =>
      "Unimplemented instruction: " ++ instruction.label
  | .stackFull address depth =>
      "Stack overflow pushing 0x" ++ Text.hex 3 address ++ " (depth " ++
        toString depth ++ ")"
  | .stackEmpty => "Return with empty stack"
  | .unmapped address length =>
      if Text.isWritable length then
        "Memory access out of range: 0x" ++ Text.hex 4 address ++ " (+" ++
          Text.decimal length ++ ")"
      else Text.digitLimitMessage
  | .noRegister index =>
      "index " ++ Text.decimal index ++
        " is out of bounds for axis 0 with size 16"
  | .noNumber _ =>
      "only integers, slices (`:`), ellipsis (`...`), numpy.newaxis (`None`)" ++
        " and integer or boolean arrays are valid indices"
  | .tooWide _ => tooWideMessage
  | .unrepresentable value width => unrepresentableMessage value width
  | .blockMismatch given wanted =>
      "could not broadcast input array from shape (" ++ toString given ++
        ",) into shape (" ++ toString wanted ++ ",)"
  | .patternMismatch area pattern =>
      "operands could not be broadcast together with shapes " ++ area.text ++
        " " ++ pattern.text ++ " "
  | .areaMismatch area stretched =>
      "non-broadcastable output operand with shape " ++ area.text ++
        " doesn't match the broadcast shape " ++ stretched.text
  | .noKey key => "Key index out of range: " ++ Text.decimal key
  | .negativeExtent => "negative dimensions are not allowed"
  | .excessiveExtent => "Maximum allowed dimension exceeded"
  | .excessiveSize =>
      "array is too big; `arr.size * arr.dtype.itemsize` is larger than the" ++
        " maximum possible size."
  | .noStorage extents width =>
      let size := extents.foldl (fun total extent => total * extent) width.bytes
      "Unable to allocate " ++ Text.binarySize size ++
        " for an array with shape " ++ extentsText extents ++
        " and data type " ++ cellName width
  | .overrun => "array written beyond its end"
  | .noFrame width height =>
      "unable to set up an image of " ++ toString width ++ " by " ++
        toString height ++ " pixels"
  | .scaleTooSmall scale =>
      "scale must be at least 1, got " ++ Text.decimal scale

end Fault

end ChipEight
