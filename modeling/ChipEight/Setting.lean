import ChipEight.Text.Literal

namespace ChipEight

/-!
# Settings

A setting is a value that a host writes when it asks for a machine: the name of
a variant, or a switch of its behaviour.  Switches may be written with any
value.  What counts is whether the value is on, but the value itself is kept,
since a host may ask for it again.
-/

/-- A value as a host wrote it. -/
inductive Setting where
  | null
  | flag (on : Bool)
  | number (value : Int)
  | text (value : String)
  | list (items : List Setting)
  | table (entries : List (String × Setting))
  deriving Inhabited

namespace Setting

/-- Whether a value switches something on.  The empty values do not. -/
def isOn : Setting → Bool
  | .null => false
  | .flag on => on
  | .number value => value ≠ 0
  | .text value => value ≠ ""
  | .list items => !items.isEmpty
  | .table entries => !entries.isEmpty

mutual

/-- A value as it is written in messages. -/
def spelling : Setting → String
  | .null => "None"
  | .flag true => "True"
  | .flag false => "False"
  | .number value => Text.decimal value
  | .text value => Text.literal value
  | .list items => "[" ++ ", ".intercalate (spellings items) ++ "]"
  | .table entries =>
      "\x7b" ++ ", ".intercalate (entrySpellings entries) ++ "\x7d"

/-- The values of a list as they are written in messages. -/
def spellings : List Setting → List String
  | [] => []
  | item :: rest => item.spelling :: spellings rest

/-- The entries of a table as they are written in messages. -/
def entrySpellings : List (String × Setting) → List String
  | [] => []
  | (key, item) :: rest =>
      (Text.literal key ++ ": " ++ item.spelling) :: entrySpellings rest

end

end Setting

end ChipEight
