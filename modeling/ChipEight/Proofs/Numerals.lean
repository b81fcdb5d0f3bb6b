import ChipEight.Text.Numeral

namespace ChipEight
namespace Text

/-!
# Reading hexadecimal numerals

A hexadecimal numeral that is not negative consists of digits only, and those
give back the number.  The zeros that fill a numeral up to its width do not
change what is read, so the width need not be known.
-/

/-- The value of an upper-case hexadecimal digit. -/
def digitValue (char : Char) : Nat :=
  if char.toNat < 58 then char.toNat - 48 else char.toNat - 55

/-- The number that hexadecimal digits write, most significant first. -/
def hexValue (digits : List Char) : Nat :=
  digits.foldl (fun total char => 16 * total + digitValue char) 0

theorem digitValue_hexDigit :
    ∀ value < 16, digitValue (hexDigit value) = value := by decide

theorem hexValue_append_singleton (digits : List Char) (char : Char) :
    hexValue (digits ++ [char]) = 16 * hexValue digits + digitValue char := by
  simp [hexValue, List.foldl_append]

/-- A zero in front does not count. -/
theorem hexValue_fill_append (count : Nat) (digits : List Char) :
    hexValue (fill count '0' ++ digits) = hexValue digits := by
  induction count with
  | zero => rfl
  | succ count ih => exact ih

theorem hexValue_hexDigits (value : Nat) :
    hexValue (hexDigits value) = value := by
  induction value using hexDigits.induct with
  | case1 value small =>
    rw [hexDigits, if_pos small]
    simpa [hexValue] using digitValue_hexDigit value small
  | case2 value large ih =>
    rw [hexDigits, if_neg large, hexValue_append_singleton, ih,
      digitValue_hexDigit _ (Nat.mod_lt _ (by decide))]
    omega

variable {value : Int}

theorem hexChars_of_nonneg (nonneg : 0 ≤ value) (width : Nat) :
    hexChars width value =
      fill (width - (hexDigits value.toNat).length) '0' ++
        hexDigits value.toNat := by
  have magnitude : value.natAbs = value.toNat := by omega
  rw [hexChars, if_neg (by omega), magnitude]

theorem hexValue_hexChars (nonneg : 0 ≤ value) (width : Nat) :
    (hexValue (hexChars width value) : Int) = value := by
  rw [hexChars_of_nonneg nonneg, hexValue_fill_append, hexValue_hexDigits]
  omega

theorem mem_hexDigits {number : Nat} {char : Char}
    (member : char ∈ hexDigits number) :
    ∃ digit < 16, char = hexDigit digit := by
  induction number using hexDigits.induct with
  | case1 number small =>
    rw [hexDigits, if_pos small] at member
    exact ⟨number, small, List.mem_singleton.mp member⟩
  | case2 number large ih =>
    rw [hexDigits, if_neg large] at member
    rcases List.mem_append.mp member with higher | last
    · exact ih higher
    · exact ⟨_, Nat.mod_lt _ (by decide), List.mem_singleton.mp last⟩

/-- Every character of a numeral that is not negative is a digit. -/
theorem mem_hexChars {width : Nat} {char : Char} (nonneg : 0 ≤ value)
    (member : char ∈ hexChars width value) :
    ∃ digit < 16, char = hexDigit digit := by
  rw [hexChars_of_nonneg nonneg] at member
  rcases List.mem_append.mp member with filling | digits
  · exact ⟨0, by decide, (List.mem_replicate.mp filling).2⟩
  · exact mem_hexDigits digits

theorem not_mem_hexChars {char : Char}
    (noDigit : ∀ digit < 16, hexDigit digit ≠ char) (nonneg : 0 ≤ value)
    (width : Nat) : char ∉ hexChars width value := by
  intro member
  rcases mem_hexChars nonneg member with ⟨digit, small, rfl⟩
  exact noDigit digit small rfl

end Text
end ChipEight
