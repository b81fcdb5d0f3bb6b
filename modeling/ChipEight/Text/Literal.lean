import ChipEight.Text.Numeral
import ChipEight.Text.Printable

namespace ChipEight
namespace Text

/-!
# Quoted literals

A message shows a text that somebody else supplied as a quoted literal, so that
blanks and invisible characters can be seen.  The quote is the single one,
unless the text holds single quotes and no double ones.
-/

/-- The quote that surrounds the literal of a text. -/
def quoteOf (chars : List Char) : Char :=
  if '\'' ∈ chars ∧ '"' ∉ chars then '"' else '\''

/-- A lower-case hexadecimal escape with a fixed number of digits. -/
def hexEscape (letter : Char) (width code : Nat) : List Char :=
  '\\' :: letter :: (hexChars width code).map Char.toLower

/-- The spelling of one character inside a literal. -/
def literalChar (quote char : Char) : List Char :=
  if char = quote ∨ char = '\\' then ['\\', char]
  else if char = '\n' then ['\\', 'n']
  else if char = '\r' then ['\\', 'r']
  else if char = '\t' then ['\\', 't']
  else if isPrintable char then [char]
  else if char.toNat ≤ 0xFF then hexEscape 'x' 2 char.toNat
  else if char.toNat ≤ 0xFFFF then hexEscape 'u' 4 char.toNat
  else hexEscape 'U' 8 char.toNat

/-- The quoted literal of a text. -/
def literal (text : String) : String :=
  let quote := quoteOf text.toList
  String.ofList (quote :: (text.toList.flatMap (literalChar quote) ++ [quote]))

end Text
end ChipEight
