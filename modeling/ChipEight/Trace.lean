import ChipEight.Instruction
import ChipEight.Variant

namespace ChipEight

/-!
# The trace

A machine leaves a record of what it does.  The records of loading are plain
information, those of fetching and drawing serve to follow a program, and a
cycle that fails leaves one error.
-/

/-- The importance of a record. -/
inductive Level where
  | debug
  | info
  | error
  deriving DecidableEq, Repr

/-- The name of a level. -/
def Level.name : Level → String
  | .debug => "DEBUG"
  | .info => "INFO"
  | .error => "ERROR"

/-- What a machine records. -/
inductive Record where
  | loaded (length : Nat) (variant : Variant)
  | firstWord (word : Int)
  | fetched (word location : Int)
  | drawing (x y : Nat) (height : Int)
  | fetchFailed (location : Int)
  | decodeFailed (word location : Int)
  | executeFailed (instruction : Instruction) (location : Int)
  deriving DecidableEq, Repr

namespace Record

/-- The importance of a record. -/
def level : Record → Level
  | .loaded _ _ | .firstWord _ => .info
  | .fetched _ _ | .drawing _ _ _ => .debug
  | .fetchFailed _ | .decodeFailed _ _ | .executeFailed _ _ => .error

/-- A record as text. -/
def message : Record → String
  | .loaded length variant =>
      "Loaded ROM: " ++ toString length ++ " bytes, variant " ++ variant.name
  | .firstWord word => "First instruction: 0x" ++ Text.hex 4 word
  | .fetched word location =>
      "Fetched 0x" ++ Text.hex 4 word ++ " at PC=0x" ++ Text.hex 3 location
  | .drawing x y height =>
      "Drawing sprite at (" ++ toString x ++ ", " ++ toString y ++
        "), height: " ++ Text.decimal height
  | .fetchFailed location =>
      "Error fetching opcode at PC=0x" ++ Text.hex 3 location
  | .decodeFailed word location =>
      "Error decoding opcode 0x" ++ Text.hex 4 word ++ " at PC=0x" ++
        Text.hex 3 location
  | .executeFailed instruction location =>
      "Error executing " ++ instruction.label ++ " at PC=0x" ++
        Text.hex 3 location

end Record

end ChipEight
