import ChipEight.Fault

namespace ChipEight

/-!
# Storage

A stack and an image are arrays.  How much room there is for arrays is up to the
system, and so it is a parameter of whatever makes one: nothing is assumed about
what is granted.  An array is refused if an extent is negative, if 64 bits with a
sign cannot hold its number of bytes, or if the system has no room for it, in this
order.
-/

/-- What the system grants. -/
structure Storage where
  /-- There is room for an array of so many bytes beside those that are kept, of
  which the numbers of bytes are given. -/
  room : (kept : List Nat) → (size : Nat) → Bool
  /-- An image can be set up on an array with so many columns and rows. -/
  frames : (width height : Nat) → Bool

namespace Storage

/-- A system that has a fixed number of bytes for all arrays together. -/
def upTo (limit : Nat) : Storage where
  room kept size := kept.foldl (· + ·) size ≤ limit
  frames _ _ := true

@[simp] theorem room_upTo {limit : Nat} {kept : List Nat} {size : Nat} :
    (upTo limit).room kept size = true ↔ kept.foldl (· + ·) size ≤ limit :=
  decide_eq_true_iff

/-- The number of bytes of an array, or why it is refused.  `size` is the
number of bytes of one element. -/
def sizeOf (size : Nat) : List Int → Except Fault Nat
  | [] => .ok size
  | extent :: rest =>
      if extent < 0 then .error .negativeExtent
      else
        let total := size * extent.toNat
        if Fault.IsWide total then sizeOf total rest
        else .error .excessiveSize

/-- Why an array is refused, if it is. -/
def refusal? (storage : Storage) (kept : List Nat) (extents : List Int)
    (width : CellWidth) : Option Fault :=
  match sizeOf width.bytes extents with
  | .error fault => some fault
  | .ok size =>
      if storage.room kept size then none
      else some (.noStorage (extents.map Int.toNat) width)

/-- A natural extent multiplies the number of bytes, if that can be held. -/
theorem sizeOf_cons (size extent : Nat) (rest : List Int) :
    sizeOf size ((extent : Int) :: rest) =
      if Fault.IsWide ((size * extent : Nat) : Int) then
        sizeOf (size * extent) rest
      else .error .excessiveSize := by
  simp only [sizeOf, Int.toNat_natCast, Int.not_lt.mpr (Int.natCast_nonneg _),
    if_false]

theorem sizeOf_fault {size : Nat} {extents : List Int} {fault : Fault}
    (refused : sizeOf size extents = .error fault) :
    fault = .negativeExtent ∨ fault = .excessiveSize := by
  induction extents generalizing size with
  | nil => contradiction
  | cons extent rest inductionHypothesis =>
      simp only [sizeOf] at refused
      split at refused
      · exact .inl (Except.error.inj refused).symm
      · split at refused
        · exact inductionHypothesis refused
        · exact .inr (Except.error.inj refused).symm

variable {storage : Storage} {kept : List Nat} {extents : List Int}
  {width : CellWidth}

/-- An array is refused for its extents, its size or want of room only. -/
theorem refusal?_fault {fault : Fault}
    (refused : storage.refusal? kept extents width = some fault) :
    fault = .negativeExtent ∨ fault = .excessiveSize ∨
      fault = .noStorage (extents.map Int.toNat) width := by
  unfold refusal? at refused
  split at refused
  · rename_i error
    rw [← Option.some.inj refused]
    exact (sizeOf_fault error).imp_right .inl
  · split at refused
    · contradiction
    · exact .inr (.inr (Option.some.inj refused).symm)

/-- An array is granted if its size can be held and there is room for it. -/
theorem refusal?_eq_none_iff :
    storage.refusal? kept extents width = none ↔
      ∃ size, sizeOf width.bytes extents = .ok size ∧
        storage.room kept size = true := by
  unfold refusal?
  cases sizeOf width.bytes extents with
  | error fault => simp
  | ok size => simp

end Storage

end ChipEight
