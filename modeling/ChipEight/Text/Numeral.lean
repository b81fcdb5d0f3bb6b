namespace ChipEight
namespace Text

/-!
# Numerals and padded columns

Addresses and words are written in upper-case hexadecimal.  A numeral has a
least width: shorter ones are filled with zeros between the sign and the first
digit, so the sign counts towards the width, and longer ones are never cut.
Decimal numerals are not read, and not written in messages, if they have more
digits than an interpreter allows.
-/

/-- The upper-case hexadecimal digit of a value below sixteen. -/
def hexDigit (value : Nat) : Char :=
  if value < 10 then Char.ofNat (48 + value) else Char.ofNat (55 + value)

/-- The hexadecimal digits of a natural number, most significant first.  Zero
has the single digit `0`. -/
def hexDigits (value : Nat) : List Char :=
  if value < 16 then [hexDigit value]
  else hexDigits (value / 16) ++ [hexDigit (value % 16)]
termination_by value
decreasing_by omega

/-- A run of `count` copies of one character. -/
def fill (count : Nat) (char : Char) : List Char :=
  List.replicate count char

/-- The hexadecimal numeral of `value` with at least `width` characters. -/
def hexChars (width : Nat) (value : Int) : List Char :=
  let digits := hexDigits value.natAbs
  if value < 0 then
    '-' :: (fill (width - 1 - digits.length) '0' ++ digits)
  else
    fill (width - digits.length) '0' ++ digits

/-- The hexadecimal numeral of `value` as text. -/
def hex (width : Nat) (value : Int) : String :=
  String.ofList (hexChars width value)

/-- Extend a text on the right with blanks to at least `width` characters. -/
def column (width : Nat) (text : String) : String :=
  text ++ String.ofList (fill (width - text.length) ' ')

/-- The decimal numeral of an integer. -/
def decimal (value : Int) : String :=
  toString value

/-- The largest number of digits of a decimal numeral.  This is what the interpreter
of a program allows by default.  One that was set to another limit, or to none, is
not modelled. -/
def digitLimit : Nat := 4300

/-- Whether the decimal numeral of an integer may be written in a message. -/
def isWritable (value : Int) : Bool :=
  (toString value.natAbs).length ≤ digitLimit

/-- The least number whose decimal numeral has too many digits. -/
def digitBound : Nat := Nat.pow 10 digitLimit

theorem isWritable_eq_true_iff {value : Int} :
    isWritable value = true ↔ value.natAbs < digitBound := by
  unfold isWritable digitBound
  -- The power is too large to be computed, so the limit becomes a variable.
  have positive : 0 < digitLimit := by decide
  generalize digitLimit = limit at positive
  rw [decide_eq_true_iff]
  exact Nat.length_repr_le_iff positive

theorem lt_digitBound {number : Nat} (small : number < 10000) :
    number < digitBound := by
  unfold digitBound
  have long : 4 ≤ digitLimit := by decide
  generalize digitLimit = limit at long
  have grows : 10 ^ 4 ≤ 10 ^ limit := Nat.pow_le_pow_right (by decide) long
  exact Nat.lt_of_lt_of_le small grows

/-- The text that reports a numeral which may not be written. -/
def digitLimitMessage : String :=
  "Exceeds the limit (" ++ toString digitLimit ++
    " digits) for integer string conversion; use" ++
    " sys.set_int_max_str_digits() to increase the limit"

end Text
end ChipEight
