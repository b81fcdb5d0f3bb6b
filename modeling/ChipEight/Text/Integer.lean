import ChipEight.Text.Numeral

namespace ChipEight
namespace Text

/-!
# Reading integers

An integer is an optional sign and decimal digits, with blanks allowed around
the whole.  A single underscore may stand between two digits.  Digits of every
script count, blanks are those of the table below, and a numeral with too many
digits is refused.
-/

/-- The code points of the zeros of the scripts that have decimal digits, as of
version 14 of the Unicode character database.  The other nine digits follow
each zero in order. -/
def digitZeros : List Nat :=
  [48, 1632, 1776, 1984, 2406, 2534, 2662, 2790, 2918, 3046, 3174, 3302, 3430,
    3558, 3664, 3792, 3872, 4160, 4240, 6112, 6160, 6470, 6608, 6784, 6800,
    6992, 7088, 7232, 7248, 42528, 43216, 43264, 43472, 43504, 43600, 44016,
    65296, 66720, 68912, 69734, 69872, 69942, 70096, 70384, 70736, 70864,
    71248, 71360, 71472, 71904, 72016, 72784, 73040, 73120, 92768, 92864,
    93008, 120782, 120792, 120802, 120812, 120822, 123200, 123632, 125264,
    130032]

/-- The value of a decimal digit of any script. -/
def digitValue? (char : Char) : Option Nat :=
  (digitZeros.find? fun base => base ≤ char.toNat && char.toNat < base + 10).map
    (char.toNat - ·)

/-- Whether a character is a decimal digit of some script. -/
def isDigit (char : Char) : Bool :=
  (digitValue? char).isSome

/-- The characters that may surround a numeral. -/
def isBlank (char : Char) : Bool :=
  let code := char.toNat
  (9 ≤ code && code ≤ 13) || code == 0x20 || code == 0x85 || code == 0xA0 ||
    code == 0x1680 || (0x2000 ≤ code && code ≤ 0x200A) || code == 0x2028 ||
    code == 0x2029 || code == 0x202F || code == 0x205F || code == 0x3000

/-- The digit values of a numeral whose underscores stand between digits. -/
def digitValues? : List Char → Option (List Nat)
  | [] => none
  | [last] => (digitValue? last).map ([·])
  | first :: '_' :: rest => do
      let value ← digitValue? first
      let values ← digitValues? rest
      pure (value :: values)
  | first :: rest => do
      let value ← digitValue? first
      let values ← digitValues? rest
      pure (value :: values)

/-- The number that decimal digits stand for, most significant first. -/
def ofDigits (values : List Nat) : Nat :=
  values.foldl (fun total value => 10 * total + value) 0

/-- Read an unsigned numeral. -/
def natural? (chars : List Char) : Option Nat := do
  let values ← digitValues? chars
  if values.length ≤ digitLimit then some (ofDigits values) else none

/-- Drop the blanks at both ends. -/
def trimBlanks (chars : List Char) : List Char :=
  ((chars.dropWhile isBlank).reverse.dropWhile isBlank).reverse

/-- Read a signed integer. -/
def integer? (text : String) : Option Int :=
  match trimBlanks text.toList with
  | '-' :: rest => (natural? rest).map fun value => -(value : Int)
  | '+' :: rest => (natural? rest).map Int.ofNat
  | rest => (natural? rest).map Int.ofNat

end Text
end ChipEight
