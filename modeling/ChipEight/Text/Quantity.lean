import ChipEight.Text.Numeral

namespace ChipEight
namespace Text

/-!
# Quantities of storage

A number of bytes is written in the largest binary unit of which it has at
least one, with three significant digits.  It is rounded twice, to 53 binary
digits and then to what can be written.  Rounding goes to the nearest number,
and a half goes to the even neighbour.
-/

/-- Divide and round to the nearest integer, a half to the even one. -/
def roundedQuotient (value divisor : Nat) : Nat :=
  let quotient := value / divisor
  let twice := 2 * (value % divisor)
  if divisor < twice ∨ (twice = divisor ∧ quotient % 2 = 1) then quotient + 1
  else quotient

/-- A number rounded to its leading 53 binary digits. -/
def leadingBits (value : Nat) : Nat :=
  let dropped := value.log2 + 1 - 53
  roundedQuotient value (1 <<< dropped) <<< dropped

/-- A quotient with three significant digits, or with all digits before the
point if there are more. -/
def threeDigits (value divisor : Nat) : String :=
  let hundredths := roundedQuotient (100 * value) divisor
  let tenths := roundedQuotient (10 * value) divisor
  if hundredths < 1000 then
    toString (hundredths / 100) ++ "." ++ toString (hundredths / 10 % 10) ++
      toString (hundredths % 10)
  else if tenths < 1000 then
    toString (tenths / 10) ++ "." ++ toString (tenths % 10)
  else toString (roundedQuotient value divisor) ++ "."

/-- A number of bytes in the first of several units, each 1024 times the one
before, of which it does not have 1024. -/
def sizeIn (unit size : Nat) : List String → String
  | [] => toString size
  | [last] => threeDigits size unit ++ " " ++ last
  | name :: larger =>
      if roundedQuotient size unit < 1024 then
        threeDigits size unit ++ " " ++ name
      else sizeIn (1024 * unit) size larger

/-- A number of bytes as text. -/
def binarySize (size : Nat) : String :=
  if size < 1024 then toString size ++ " bytes"
  else sizeIn 1024 (leadingBits size) ["KiB", "MiB", "GiB", "TiB", "PiB", "EiB"]

end Text
end ChipEight
