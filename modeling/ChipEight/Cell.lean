import ChipEight.Fault

namespace ChipEight

/-!
# Storing integers in cells

Registers, sprites and memory hold bytes, and the call stack holds double
bytes.  An integer is stored only if it fits; it is never cut to size.  A list
is converted as a whole, and its first misfit is the one that is reported.
-/

/-- Convert an integer to a byte. -/
def byteOf (value : Int) : Except Fault UInt8 :=
  if CellWidth.byte.Holds value then
    .ok (UInt8.ofNat value.toNat)
  else
    .error (.unrepresentable value .byte)

/-- Convert a list of integers to bytes. -/
def bytesOf : List Int → Except Fault (List UInt8)
  | [] => .ok []
  | value :: values =>
      match byteOf value with
      | .error fault => .error fault
      | .ok byte =>
          match bytesOf values with
          | .error fault => .error fault
          | .ok bytes => .ok (byte :: bytes)

/-- Convert an integer to a double byte. -/
def doubleOf (value : Int) : Except Fault UInt16 :=
  if CellWidth.double.Holds value then
    .ok (UInt16.ofNat value.toNat)
  else
    .error (.unrepresentable value .double)

theorem byteOf_eq_ok (value : Int) (fits : CellWidth.byte.Holds value) :
    byteOf value = .ok (UInt8.ofNat value.toNat) :=
  if_pos fits

theorem CellWidth.holds_toNat (byte : UInt8) :
    CellWidth.byte.Holds (byte.toNat : Int) :=
  ⟨Int.natCast_nonneg _, Int.ofNat_lt.mpr byte.toNat_lt⟩

@[simp] theorem byteOf_toNat (byte : UInt8) :
    byteOf (byte.toNat : Int) = .ok byte := by
  rw [byteOf_eq_ok _ (CellWidth.holds_toNat byte), Int.toNat_natCast,
    UInt8.ofNat_toNat]

/-- The values of bytes convert to those bytes. -/
theorem bytesOf_toNat (bytes : List UInt8) :
    bytesOf (bytes.map fun byte => (byte.toNat : Int)) = .ok bytes := by
  induction bytes with
  | nil => rfl
  | cons byte rest inductionHypothesis =>
      simp only [List.map_cons, bytesOf, byteOf_toNat, inductionHypothesis]

theorem byteOf_eq_ok_iff {value : Int} {byte : UInt8} :
    byteOf value = .ok byte ↔ value = byte.toNat := by
  constructor
  · intro converted
    unfold byteOf at converted
    split at converted
    · rename_i fits
      cases converted
      have within : value.toNat < 256 := by
        have small : value < 256 := fits.2
        omega
      rw [UInt8.toNat_ofNat_of_lt' within, Int.toNat_of_nonneg fits.1]
    · contradiction
  · rintro rfl
    exact byteOf_toNat byte

/-- A list of integers converts to the bytes that have these values. -/
theorem bytesOf_eq_ok_iff {values : List Int} {bytes : List UInt8} :
    bytesOf values = .ok bytes ↔
      values = bytes.map fun byte => (byte.toNat : Int) := by
  constructor
  · intro converted
    induction values generalizing bytes with
    | nil =>
      cases converted
      rfl
    | cons value rest inductionHypothesis =>
      simp only [bytesOf] at converted
      split at converted
      · contradiction
      · rename_i byte first
        split at converted
        · contradiction
        · rename_i later others
          cases converted
          rw [List.map_cons, ← inductionHypothesis others,
            ← byteOf_eq_ok_iff.mp first]
  · rintro rfl
    exact bytesOf_toNat bytes

/-- The first integer of a list that is no byte. -/
def firstMisfit? (values : List Int) : Option Int :=
  values.find? fun value => ¬ CellWidth.byte.Holds value

theorem firstMisfit?_eq_none_iff {values : List Int} :
    firstMisfit? values = none ↔ ∀ value ∈ values, CellWidth.byte.Holds value := by
  simp [firstMisfit?, List.find?_eq_none]

/-- A list of integers is refused for its first misfit.  Without one, every integer
is converted. -/
theorem bytesOf_eq (values : List Int) :
    bytesOf values =
      match firstMisfit? values with
      | some misfit => .error (.unrepresentable misfit .byte)
      | none => .ok (values.map fun value => UInt8.ofNat value.toNat) := by
  induction values with
  | nil => rfl
  | cons value rest inductionHypothesis =>
      by_cases fits : CellWidth.byte.Holds value
      · have same : firstMisfit? (value :: rest) = firstMisfit? rest := by
          simp [firstMisfit?, fits]
        rw [bytesOf, byteOf_eq_ok value fits, same, inductionHypothesis]
        cases firstMisfit? rest <;> rfl
      · have first : firstMisfit? (value :: rest) = some value := by
          simp [firstMisfit?, fits]
        rw [bytesOf, byteOf, if_neg fits, first]

end ChipEight
