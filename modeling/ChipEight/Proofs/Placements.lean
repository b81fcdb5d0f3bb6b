import ChipEight.Display.Placement

namespace ChipEight

/-!
# Sprites at arbitrary coordinates

A coordinate matters only through the place on an axis that it stands for, and
through the length of the area that begins there.  On one axis there are two kinds
of places where the area has the length of the pattern: those on the display, and
negative ones from which the pattern ends before it comes to zero.  The latter
count from behind the edge, so they stand for their remainder.  Anywhere else the
area is shorter than the pattern.  Only a pattern of length one can be stretched
over it, and then it has no length at all.

Hence a drawing is refused, or leaves the display, or is one at the remainders.
-/

namespace Display

/-! ## One axis -/

section Axis

variable {size length : Nat} {start : Int}

theorem axisLength_of_inside (natural : 0 ≤ start)
    (inside : start + length ≤ size) :
    axisLength size start (start + length) = length := by
  unfold axisLength axisPlace
  split <;> split <;> omega

theorem axisLength_le (size length : Nat) (start : Int) :
    axisLength size start (start + length) ≤ length := by
  unfold axisLength axisPlace
  split <;> split <;> omega

/-- A pattern that keeps its length lies on the display, or behind its edge. -/
theorem inside_of_axisLength (filled : 0 < length)
    (kept : axisLength size start (start + length) = length) :
    (0 ≤ start ∧ start + length ≤ size) ∨ (-size ≤ start ∧ start + length < 0) := by
  unfold axisLength axisPlace at kept
  split at kept <;> split at kept <;> omega

/-- A coordinate of a pattern that keeps its length stands for its remainder, and
from there the pattern lies on the display. -/
theorem axisPlace_of_axisLength (filled : 0 < length)
    (kept : axisLength size start (start + length) = length) :
    (axisPlace size start : Int) = start % size ∧
      start % size + length ≤ size := by
  rcases inside_of_axisLength filled kept with ⟨natural, ends⟩ | ⟨near, ends⟩
  · have below : start < size := by
      omega
    rw [Int.emod_eq_of_lt natural below]
    refine ⟨?_, ends⟩
    unfold axisPlace
    split <;> omega
  · have shifted : start % size = start + size := by
      rw [← Int.add_emod_right]
      exact Int.emod_eq_of_lt (by omega) (by omega)
    rw [shifted]
    refine ⟨?_, by omega⟩
    unfold axisPlace
    split <;> omega

theorem axisPlace_of_inside (natural : 0 ≤ start) (inside : start ≤ size) :
    (axisPlace size start : Int) = start := by
  unfold axisPlace
  split <;> omega

/-- An area over which a pattern can be stretched without becoming larger has the
length of the pattern, or none. -/
theorem eq_or_empty_of_stretchAxis
    (stretched : stretchAxis (axisLength size start (start + length)) length =
      some (axisLength size start (start + length))) :
    axisLength size start (start + length) = length ∨
      axisLength size start (start + length) = 0 := by
  have shorter := axisLength_le size length start
  unfold stretchAxis at stretched
  split at stretched
  · exact .inl (by assumption)
  · split at stretched
    · rename_i single
      exact .inl (Option.some.inj stretched).symm
    · split at stretched
      · exact .inr (by omega)
      · contradiction

end Axis

/-! ## Extents -/

section Extents

variable {x y : Int} {pattern : Extent}

@[simp] theorem stretch_self (extent : Extent) :
    extent.stretch extent = some extent := by
  simp [Extent.stretch, stretchAxis]

theorem visibleExtent_eq_some_iff {rows : Nat} :
    visibleExtent x y rows = some pattern ↔
      (0 < pattern.height ∧ (pattern.height : Int) = min (rows : Int) (32 - y)) ∧
        (0 < pattern.width ∧ (pattern.width : Int) = min 8 (64 - x)) := by
  rcases pattern with ⟨height, width⟩
  simp only [visibleExtent]
  split
  · rename_i beyond
    simp only [displayHeight, displayWidth, spriteWidth] at beyond
    simp only [reduceCtorEq, false_iff]
    omega
  · simp only [Option.some.injEq, Extent.mk.injEq, displayHeight, displayWidth,
      spriteWidth] at *
    omega

/-- The area of a pattern has the extent of the pattern. -/
def Fits (x y : Int) (pattern : Extent) : Prop :=
  areaExtent x y pattern = pattern

theorem fits_iff :
    Fits x y pattern ↔
      axisLength displayHeight y (y + pattern.height) = pattern.height ∧
        axisLength displayWidth x (x + pattern.width) = pattern.width := by
  rcases pattern with ⟨height, width⟩
  simp only [Fits, areaExtent, Extent.mk.injEq]

/-- A visible pattern that fits is visible and fits at the remainders as well, and
the same places stand for its corner. -/
theorem fits_at_remainders {rows : Nat} (fits : Fits x y pattern)
    (visible : visibleExtent x y rows = some pattern) :
    visibleExtent (x % 64) (y % 32) rows = some pattern ∧
      Fits (x % 64) (y % 32) pattern ∧
      axisPlace displayHeight (y % 32) = axisPlace displayHeight y ∧
      axisPlace displayWidth (x % 64) = axisPlace displayWidth x := by
  rcases visibleExtent_eq_some_iff.mp visible with
    ⟨⟨tall, height⟩, ⟨wide, width⟩⟩
  rcases fits_iff.mp fits with ⟨vertical, horizontal⟩
  obtain ⟨top, bottom⟩ := axisPlace_of_axisLength tall vertical
  obtain ⟨left, right⟩ := axisPlace_of_axisLength wide horizontal
  have below := inside_of_axisLength tall vertical
  have beside := inside_of_axisLength wide horizontal
  simp only [displayHeight, displayWidth] at *
  refine ⟨?_, ?_, ?_, ?_⟩
  · rw [visibleExtent_eq_some_iff]
    omega
  · rw [fits_iff]
    exact ⟨axisLength_of_inside (Int.emod_nonneg y (by decide)) bottom,
      axisLength_of_inside (Int.emod_nonneg x (by decide)) right⟩
  · have same := axisPlace_of_inside (Int.emod_nonneg y (by decide))
      (by omega : y % 32 ≤ (32 : Nat))
    omega
  · have same := axisPlace_of_inside (Int.emod_nonneg x (by decide))
      (by omega : x % 64 ≤ (64 : Nat))
    omega

/-- At natural coordinates every visible pattern fits. -/
theorem fits_of_natural {rows : Nat} (right : 0 ≤ x) (below : 0 ≤ y)
    (visible : visibleExtent x y rows = some pattern) : Fits x y pattern := by
  rcases visibleExtent_eq_some_iff.mp visible with ⟨⟨_, height⟩, ⟨_, width⟩⟩
  rw [fits_iff]
  exact ⟨axisLength_of_inside below (by simp only [displayHeight]; omega),
    axisLength_of_inside right (by simp only [displayWidth]; omega)⟩

/-- An area that a pattern can be stretched over without fitting is empty. -/
theorem empty_of_stretch (stretched :
      (areaExtent x y pattern).stretch pattern = some (areaExtent x y pattern))
    (different : ¬ Fits x y pattern) :
    (areaExtent x y pattern).height = 0 ∨ (areaExtent x y pattern).width = 0 := by
  simp only [Extent.stretch] at stretched
  split at stretched
  · rename_i height width vertical horizontal
    cases Option.some.inj stretched
    rcases eq_or_empty_of_stretchAxis vertical with high | high
    · rcases eq_or_empty_of_stretchAxis horizontal with broad | broad
      · exact absurd (fits_iff.mpr ⟨high, broad⟩) different
      · exact .inr broad
    · exact .inl high
  · contradiction

end Extents

/-! ## Masks -/

theorem areaMask_of_empty {x y : Int} {pattern : Extent} {sprite : List UInt8}
    (empty : (areaExtent x y pattern).height = 0 ∨
      (areaExtent x y pattern).width = 0) :
    areaMask x y pattern sprite = fun _ _ => false := by
  funext row column
  apply if_neg
  rintro ⟨rows, columns⟩
  omega

theorem flip_nothing (display : Display) :
    display.flip (fun _ _ => false) = display := by
  ext row column
  rw [flip, pixel_ofPixels, Bool.xor_false]

theorem meets_nothing (display : Display) :
    display.meets (fun _ _ => false) = false := by
  rw [meets, Bool.eq_false_iff, ne_eq, anyPixel_eq_true]
  rintro ⟨row, column, hit⟩
  rw [Bool.and_false] at hit
  contradiction

/-- A mask meets the display exactly if flipping it turns a pixel off. -/
theorem meets_iff (display : Display) (mask : Nat → Nat → Bool) :
    display.meets mask = true ↔
      ∃ row column, display.pixel row column = true ∧
        (display.flip mask).pixel row column = false := by
  rw [meets, anyPixel_eq_true]
  refine exists_congr fun row => exists_congr fun column => ?_
  rw [flip, pixel_ofPixels]
  cases display.pixel row column <;> cases mask row column <;> decide

theorem stretchedPlace_of_lt {length place : Nat} (inside : place < length) :
    stretchedPlace length place = place := by
  unfold stretchedPlace
  split <;> omega

/-- At natural coordinates the mask is the sprite, cut off at the edges. -/
theorem areaMask_of_natural {x y : Nat} {pattern : Extent} {sprite : List UInt8}
    (visible : visibleExtent x y sprite.length = some pattern) (row : Fin 32)
    (column : Fin 64) :
    areaMask x y pattern sprite row column = covers x y sprite row column := by
  have fits := fits_of_natural (Int.natCast_nonneg x) (Int.natCast_nonneg y) visible
  rcases visibleExtent_eq_some_iff.mp visible with
    ⟨⟨tall, height⟩, ⟨wide, width⟩⟩
  have top : axisPlace displayHeight (y : Int) = y := by
    have onDisplay : (y : Int) ≤ displayHeight := by
      simp only [displayHeight]
      omega
    exact Int.ofNat_inj.mp (axisPlace_of_inside (Int.natCast_nonneg y) onDisplay)
  have left : axisPlace displayWidth (x : Int) = x := by
    have onDisplay : (x : Int) ≤ displayWidth := by
      simp only [displayWidth]
      omega
    exact Int.ofNat_inj.mp (axisPlace_of_inside (Int.natCast_nonneg x) onDisplay)
  have rowLimit := row.isLt
  have columnLimit := column.isLt
  rw [Fits] at fits
  simp only [areaMask, covers, fits, top, left]
  by_cases under : (y ≤ row.val ∧ row.val < y + pattern.height) ∧
      (x ≤ column.val ∧ column.val < x + pattern.width)
  · have near : y ≤ row.val ∧ x ≤ column.val ∧
        column.val < x + spriteWidth := by
      simp only [spriteWidth]
      omega
    rw [if_pos under, if_pos near, stretchedPlace_of_lt (by omega),
      stretchedPlace_of_lt (by omega)]
  · rw [if_neg under]
    split
    · rename_i near
      simp only [spriteWidth] at near
      -- The columns of the sprite end at the edge, so the place lies below its
      -- last row.
      have behind : sprite.length ≤ row.val - y := by
        omega
      rw [List.getElem?_eq_none behind]
      simp
    · rfl

/-! ## One drawing -/

/-- A fault that reports the extents of an area and of a pattern for it. -/
def ReportsExtents (fault : Fault) (area pattern : Extent) : Prop :=
  fault = .patternMismatch area pattern ∨
    ∃ stretched, fault = .areaMismatch area stretched

section Drawing

variable (display : Display) (x y : Int) (sprite : List UInt8)

theorem drawBytesInto_of_fits {pattern : Extent}
    (visible : visibleExtent x y sprite.length = some pattern)
    (fits : Fits x y pattern) :
    display.drawBytesInto x y sprite =
      (.ok (display.meets (areaMask x y pattern sprite)),
        display.flip (areaMask x y pattern sprite)) := by
  rw [Fits] at fits
  simp only [drawBytesInto, visible, fits, stretch_self, ne_eq, not_true_eq_false,
    if_false]

/-- A drawing leaves the display, without or with a fault, or flips the pixels
under a pattern that fits. -/
theorem drawBytesInto_cases :
    display.drawBytesInto x y sprite = (.ok false, display) ∨
      (∃ pattern fault, visibleExtent x y sprite.length = some pattern ∧
        ¬ Fits x y pattern ∧
        ReportsExtents fault (areaExtent x y pattern) pattern ∧
        display.drawBytesInto x y sprite = (.error fault, display)) ∨
      ∃ pattern, visibleExtent x y sprite.length = some pattern ∧
        Fits x y pattern := by
  cases visible : visibleExtent x y sprite.length with
  | none =>
      left
      rw [drawBytesInto, visible]
  | some pattern =>
      by_cases fits : Fits x y pattern
      · exact .inr (.inr ⟨pattern, rfl, fits⟩)
      · simp only [drawBytesInto, visible]
        cases common : (areaExtent x y pattern).stretch pattern with
        | none => exact .inr (.inl ⟨pattern, _, rfl, fits, .inl rfl, rfl⟩)
        | some stretched =>
            by_cases larger : stretched = areaExtent x y pattern
            · subst larger
              left
              have nothing : areaMask x y pattern sprite = fun _ _ => false :=
                areaMask_of_empty (empty_of_stretch common fits)
              simp only [ne_eq, not_true_eq_false, if_false, nothing,
                meets_nothing, flip_nothing]
            · exact .inr (.inl ⟨pattern, _, rfl, fits, .inr ⟨stretched, rfl⟩,
                if_pos larger⟩)

/-- A drawing of a pattern that fits is the one at the remainders. -/
theorem drawBytesInto_remainders {pattern : Extent}
    (visible : visibleExtent x y sprite.length = some pattern)
    (fits : Fits x y pattern) :
    display.drawBytesInto (x % 64) (y % 32) sprite =
      display.drawBytesInto x y sprite := by
  rcases fits_at_remainders fits visible with
    ⟨visibleThere, fitsThere, sameRow, sameColumn⟩
  have sameMask : areaMask (x % 64) (y % 32) pattern sprite =
      areaMask x y pattern sprite := by
    rw [Fits] at fits fitsThere
    funext row column
    simp only [areaMask, fits, fitsThere, sameRow, sameColumn]
  rw [display.drawBytesInto_of_fits x y sprite visible fits,
    display.drawBytesInto_of_fits _ _ sprite visibleThere fitsThere, sameMask]

end Drawing

section Answers

variable (display : Display) {x y : Int} {sprite : List UInt8}

/-- A drawing of bytes is refused only for a pattern that does not fit. -/
theorem drawBytesInto_error {fault : Fault}
    (refused : (display.drawBytesInto x y sprite).1 = .error fault) :
    (display.drawBytesInto x y sprite).2 = display ∧
      ∃ pattern, visibleExtent x y sprite.length = some pattern ∧
        ¬ Fits x y pattern ∧
        ReportsExtents fault (areaExtent x y pattern) pattern := by
  rcases display.drawBytesInto_cases x y sprite with
    nothing | ⟨pattern, reported, visible, misfits, extents, left⟩ |
      ⟨pattern, visible, fits⟩
  · rw [nothing] at refused
    contradiction
  · rw [left] at refused ⊢
    cases refused
    exact ⟨rfl, pattern, visible, misfits, extents⟩
  · rw [display.drawBytesInto_of_fits x y sprite visible fits] at refused
    contradiction

/-- A drawing of bytes that is not refused collides exactly if it turns a pixel off,
and draws nothing or is the one at the remainders. -/
theorem drawBytesInto_ok {collided : Bool}
    (accepted : (display.drawBytesInto x y sprite).1 = .ok collided) :
    let drawn := (display.drawBytesInto x y sprite).2
    (collided = true ↔ ∃ row column, display.pixel row column = true ∧
      drawn.pixel row column = false) ∧
    ((drawn = display ∧ collided = false) ∨
      display.drawBytesInto (x % 64) (y % 32) sprite = (.ok collided, drawn)) := by
  rcases display.drawBytesInto_cases x y sprite with
    nothing | ⟨pattern, fault, _, _, _, refused⟩ | ⟨pattern, visible, fits⟩
  · rw [nothing] at accepted ⊢
    cases accepted
    refine ⟨?_, .inl ⟨rfl, rfl⟩⟩
    simp only [Bool.false_eq_true, false_iff]
    rintro ⟨row, column, on, off⟩
    rw [on] at off
    contradiction
  · rw [refused] at accepted
    contradiction
  · rw [display.drawBytesInto_remainders x y sprite visible fits]
    rw [display.drawBytesInto_of_fits x y sprite visible fits] at accepted ⊢
    cases accepted
    exact ⟨display.meets_iff _, .inr rfl⟩

theorem drawBytesInto_accepted (right : 0 ≤ x) (below : 0 ≤ y) :
    ∃ collided, (display.drawBytesInto x y sprite).1 = .ok collided := by
  cases visible : visibleExtent x y sprite.length with
  | none => exact ⟨false, by rw [drawBytesInto, visible]⟩
  | some pattern =>
      have fits := fits_of_natural right below visible
      rw [display.drawBytesInto_of_fits x y sprite visible fits]
      exact ⟨_, rfl⟩

end Answers

/-! ## All drawings -/

section Integers

variable (display : Display) {sprite : List Int}

theorem drawInto_of_misfit {misfit : Int}
    (found : firstMisfit? sprite = some misfit) (x y : Int) :
    display.drawInto x y sprite =
      (.error (.unrepresentable misfit .byte), display) := by
  simp only [drawInto, bytesOf_eq, found]

theorem drawInto_of_bytes (bytes : firstMisfit? sprite = none) (x y : Int) :
    display.drawInto x y sprite = display.drawBytesInto x y
      (sprite.map fun value => UInt8.ofNat value.toNat) := by
  simp only [drawInto, bytesOf_eq, bytes]

end Integers

/-- A host may draw any integers at any coordinates.

If the drawing is refused, then for the first integer that is no byte, or else for
the extents of a visible pattern that does not fit, and every pixel is left.  If it
is not refused, then it collides exactly if it turned a pixel off.  Either it left
the display and did not collide, or the display and the answer are those of a
drawing at the remainders of the coordinates.  Bytes at natural coordinates are
never refused. -/
theorem drawing_at_any_coordinates (display : Display) (x y : Int)
    (sprite : List Int) :
    let answer := (display.drawInto x y sprite).1
    let drawn := (display.drawInto x y sprite).2
    (∀ fault, answer = .error fault →
      drawn = display ∧
        ((∃ misfit, firstMisfit? sprite = some misfit ∧
            fault = .unrepresentable misfit .byte) ∨
          (firstMisfit? sprite = none ∧
            ∃ pattern, visibleExtent x y sprite.length = some pattern ∧
              ¬ Fits x y pattern ∧
              ReportsExtents fault (areaExtent x y pattern) pattern))) ∧
    (∀ collided, answer = .ok collided →
      (collided = true ↔ ∃ row column, display.pixel row column = true ∧
        drawn.pixel row column = false) ∧
      ((drawn = display ∧ collided = false) ∨
        display.drawInto (x % 64) (y % 32) sprite = (.ok collided, drawn))) ∧
    (0 ≤ x → 0 ≤ y → (∀ value ∈ sprite, 0 ≤ value ∧ value ≤ 255) →
      ∃ collided, answer = .ok collided) := by
  intro answer drawn
  cases found : firstMisfit? sprite with
  | some misfit =>
      have refused := display.drawInto_of_misfit found
      have answered : answer = .error (.unrepresentable misfit .byte) :=
        congrArg Prod.fst (refused x y)
      rw [answered]
      refine ⟨?_, ?_, ?_⟩
      · intro fault same
        cases same
        exact ⟨congrArg Prod.snd (refused x y), .inl ⟨misfit, rfl, rfl⟩⟩
      · intro collided accepted
        contradiction
      · intro _ _ bytes
        have none : firstMisfit? sprite = none := by
          rw [firstMisfit?_eq_none_iff]
          intro value member
          rcases bytes value member with ⟨natural, small⟩
          exact ⟨natural, Int.lt_add_one_of_le small⟩
        rw [found] at none
        contradiction
  | none =>
      have same := display.drawInto_of_bytes found
      simp only [answer, drawn, same]
      refine ⟨?_, fun collided accepted => display.drawBytesInto_ok accepted,
        fun right below _ => display.drawBytesInto_accepted right below⟩
      intro fault refused
      rcases display.drawBytesInto_error refused with
        ⟨left, pattern, visible, misfits, extents⟩
      rw [List.length_map] at visible
      exact ⟨left, .inr ⟨trivial, pattern, visible, misfits, extents⟩⟩

/-- A sprite at negative coordinates, which ends before both edges, is drawn as one
that counts from the other side.  Where it does not end before an edge, it is
refused.  Beyond the bottom edge it is accepted. -/
theorem sprite_from_behind_the_edges :
    (∃ collided drawn, blank.drawInto (-20) (-5) [60, 255] = (.ok collided, drawn) ∧
      drawn.pixel 27 46 = true ∧
      blank.drawInto 44 27 [60, 255] = (.ok collided, drawn)) ∧
    (∃ fault, (blank.drawInto (-3) 0 [60, 255]).1 = .error fault ∧
      (blank.drawInto (-3) 0 [60, 255]).2 = blank) ∧
    ∃ collided, (blank.drawInto 60 200 [60, 255]).1 = .ok collided := by
  refine ⟨?_, ?_, ?_⟩
  · let mask := areaMask (-20) (-5) ⟨2, 8⟩ [60, 255]
    have outcome : blank.drawInto (-20) (-5) [60, 255] =
        (.ok (blank.meets mask), blank.flip mask) := rfl
    have on : (blank.flip mask).pixel 27 46 = true := by
      rw [flip, pixel_ofPixels, pixel_blank]
      decide
    rcases ((drawing_at_any_coordinates blank (-20) (-5) [60, 255]).2.1 _
      (congrArg Prod.fst outcome)).2 with ⟨unchanged, _⟩ | remainders
    · have same : blank.flip mask = blank :=
        (congrArg Prod.snd outcome).symm.trans unchanged
      rw [same, pixel_blank] at on
      contradiction
    · rw [congrArg Prod.snd outcome] at remainders
      exact ⟨_, _, outcome, on, remainders⟩
  · refine ⟨.patternMismatch ⟨2, 0⟩ ⟨2, 8⟩, rfl, ?_⟩
    exact ((drawing_at_any_coordinates blank (-3) 0 [60, 255]).1 _ rfl).1
  · exact (drawing_at_any_coordinates blank 60 200 [60, 255]).2.2 (by decide)
      (by decide) (by decide)

end Display

end ChipEight
