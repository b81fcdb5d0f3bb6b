import ChipEight.Files.Fault
import ChipEight.Memory

namespace ChipEight

/-!
# Programs

A program is a byte string that is not empty and fits between the start of
programs and the end of memory.  It can be given as bytes, as integers, as the
cells of 64 bits of an array, or as the path of a file.  Integers have to be
bytes, whereas only the low eight bits of a cell count.
-/

/-- A program that can be loaded. -/
structure Rom where
  bytes : List UInt8
  nonempty : bytes ≠ []
  fits : bytes.length ≤ programLimit

/-- Where a program comes from. -/
inductive RomSource where
  | bytes (content : List UInt8)
  | integers (values : List Int)
  | cells (values : List Int64)
  | file (path : String)

/-- Why there is no program. -/
inductive RomFault where
  | unreadable (path : String) (fault : FileFault)
  | notBytes
  | empty
  | tooLarge (length : Nat)
  deriving DecidableEq, Repr

namespace RomFault

/-- The text that reports the lack of a program. -/
def message : RomFault → String
  | .unreadable _ .zeroInPath => FileFault.zeroInPathMessage
  | .unreadable path (.system code reason) =>
      FileFault.systemMessage code ("Cannot read ROM " ++ path ++ ": " ++ reason)
  | .notBytes => "bytes must be in range(0, 256)"
  | .empty => "ROM is empty"
  | .tooLarge length =>
      "ROM too large: " ++ toString length ++ " bytes, max " ++
        toString programLimit

end RomFault

namespace Rom

/-- Accept a byte string of a fitting length. -/
def ofBytes (bytes : List UInt8) : Except RomFault Rom :=
  if empty : bytes = [] then .error .empty
  else if fits : bytes.length ≤ programLimit then .ok ⟨bytes, empty, fits⟩
  else .error (.tooLarge bytes.length)

end Rom

namespace RomSource

/-- The byte string that a source stands for, where `lookup` reads files. -/
def content (lookup : String → Except FileFault (List UInt8)) :
    RomSource → Except RomFault (List UInt8)
  | .bytes content => .ok content
  | .integers values => (bytesOf values).mapError fun _ => .notBytes
  | .cells values =>
      .ok (values.map fun value => value.toUInt64.toUInt8)
  | .file path => (lookup path).mapError (.unreadable path)

/-- The program that a source stands for. -/
def read (lookup : String → Except FileFault (List UInt8))
    (source : RomSource) : Except RomFault Rom :=
  match source.content lookup with
  | .error fault => .error fault
  | .ok found => Rom.ofBytes found

end RomSource

end ChipEight
