import ChipEight.Fault

namespace ChipEight

/-!
# The keypad

The keypad has sixteen keys, each up or down.  Only the host moves them.
-/

/-- Which keys are down. -/
structure Keypad where
  down : Vector Bool 16

namespace Keypad

/-- A keypad with every key up. -/
def released : Keypad :=
  ⟨Vector.replicate 16 false⟩

/-- Whether a key is down. -/
def isDown (keypad : Keypad) (key : Fin 16) : Bool :=
  keypad.down.get key

theorem key_lt {key : Int} (inside : 0 ≤ key ∧ key < 16) : key.toNat < 16 := by
  omega

/-- Move one key. -/
def set (keypad : Keypad) (key : Int) (pressed : Bool) : Except Fault Keypad :=
  if inside : 0 ≤ key ∧ key < 16 then
    .ok ⟨keypad.down.set key.toNat pressed (key_lt inside)⟩
  else .error (.noKey key)

/-- The smallest key that is down. -/
def firstDown? (keypad : Keypad) : Option (Fin 16) :=
  (List.finRange 16).find? keypad.isDown

end Keypad

end ChipEight
