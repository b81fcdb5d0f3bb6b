import ChipEight.Setting

namespace ChipEight

/-!
# Variants of the machine

Two variants of the machine differ in three switches of their behaviour.  A
host picks a variant by its label and may override switches one by one.
-/

/-- The variants of the machine. -/
inductive Variant where
  | chipEight
  | superChip
  deriving DecidableEq, Repr

namespace Variant

/-- Every variant. -/
def all : List Variant := [.chipEight, .superChip]

/-- The label by which a host picks a variant. -/
def label : Variant → String
  | .chipEight => "chip8"
  | .superChip => "schip"

/-- The name under which a variant appears in records. -/
def name : Variant → String
  | .chipEight => "CHIP8"
  | .superChip => "SUPER_CHIP"

/-- The variant with a label. -/
def ofLabel? (label : String) : Option Variant :=
  all.find? fun variant => variant.label == label

/-- The variant that a setting picks, if it is the label of one. -/
def ofSetting? : Setting → Option Variant
  | .text label => ofLabel? label
  | _ => none

end Variant

/-- The switches of a machine's behaviour. -/
structure Behaviour where
  /-- The bitwise operations clear the flag. -/
  logic : Setting
  /-- The shifts take their operand from the second register. -/
  shifting : Setting
  /-- Storing and loading registers moves the index behind the block. -/
  memory : Setting

namespace Behaviour

/-- The behaviour with every switch set alike. -/
def uniform (setting : Setting) : Behaviour :=
  ⟨setting, setting, setting⟩

/-- The behaviour of a variant. -/
def ofVariant : Variant → Behaviour
  | .chipEight => uniform (.flag true)
  | .superChip => uniform (.flag false)

/-- The names of the switches. -/
def switches : List String := ["logic", "shifting", "memory"]

/-- The switches with their settings. -/
def entries (behaviour : Behaviour) : List (String × Setting) :=
  [("logic", behaviour.logic), ("shifting", behaviour.shifting),
    ("memory", behaviour.memory)]

/-- Set one switch.  A name that is no switch changes nothing. -/
def set (behaviour : Behaviour) (switch : String) (setting : Setting) :
    Behaviour :=
  if switch = "logic" then { behaviour with logic := setting }
  else if switch = "shifting" then { behaviour with shifting := setting }
  else if switch = "memory" then { behaviour with memory := setting }
  else behaviour

/-- Set several switches in order. -/
def override (behaviour : Behaviour) (overrides : List (String × Setting)) :
    Behaviour :=
  overrides.foldl (fun current entry => current.set entry.1 entry.2) behaviour

/-- The overridden names that are no switches, in increasing order. -/
def unknownSwitches (overrides : List (String × Setting)) : List String :=
  ((overrides.map Prod.fst).filter fun name => !switches.contains name).mergeSort
    fun first second => !(decide (second < first))

@[simp] theorem unknownSwitches_nil : unknownSwitches [] = [] := by
  simp [unknownSwitches]

end Behaviour

end ChipEight
