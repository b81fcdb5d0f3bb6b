import ChipEight.Proofs.Placements
import Mathlib.Data.List.Induction
import Mathlib.Data.List.Perm.Basic

namespace ChipEight

/-!
# Superposed drawings

A host clears a display and draws sprites on it, at any natural coordinates.
None of this is ever refused.  What the display shows in the end is the pixelwise
exclusive or of the drawings since the last clear, each cut off at the right and
the bottom edge.  Hence the order of these drawings does not matter, and two
equal ones cancel.

Drawing is defined pixel by pixel for coordinates on the display, but a host
reaches it through the areas and extents of `drawAt`.  The first part shows that
the two agree at natural coordinates, including those beyond the edges, where
nothing may be drawn.  After that only the masks of the sprites matter.
-/

/-- A sprite and the column and the row of its top left corner. -/
structure Stamp where
  x : Nat
  y : Nat
  rows : List UInt8

/-- What a host does to a display. -/
inductive DisplayCommand where
  | clear
  | draw (stamp : Stamp)

namespace Stamp

/-- The rows as a host hands them over. -/
def values (stamp : Stamp) : List Int :=
  stamp.rows.map fun byte => (byte.toNat : Int)

/-- The part of a stamp that lies on the display. -/
def mask (stamp : Stamp) (row : Fin 32) (column : Fin 64) : Bool :=
  Display.covers stamp.x stamp.y stamp.rows row column

/-- The exclusive or of the masks of several stamps. -/
def superpose (stamps : List Stamp) (row : Fin 32) (column : Fin 64) : Bool :=
  stamps.foldr (fun stamp on => stamp.mask row column ^^ on) false

end Stamp

namespace DisplayCommand

/-- The stamps that count after one more command. -/
def keep (stamps : List Stamp) : DisplayCommand → List Stamp
  | .clear => []
  | .draw stamp => stamps ++ [stamp]

/-- The stamps that were drawn since the last clear. -/
def sinceClear (commands : List DisplayCommand) : List Stamp :=
  commands.foldl keep []

end DisplayCommand

namespace Display

/-- Carry out one command. -/
def perform (display : Display) : DisplayCommand → Except Fault Display
  | .clear => .ok blank
  | .draw stamp =>
      (display.drawAt stamp.x stamp.y stamp.values).map Prod.fst

/-- Carry out commands in order. -/
def performAll (display : Display) (commands : List DisplayCommand) :
    Except Fault Display :=
  commands.foldlM perform display

/-! ## The mask of a sprite -/

/-- A mask consists of the ones of the sprite.  The leading bit of its first row
is in its corner. -/
theorem covers_eq_true_iff (x y : Nat) (sprite : List UInt8) (row column : Nat) :
    covers x y sprite row column = true ↔
      ∃ line bit byte, bit < spriteWidth ∧ row = y + line ∧ column = x + bit ∧
        sprite[line]? = some byte ∧ byte.toNat.testBit (7 - bit) = true := by
  unfold covers
  constructor
  · intro covered
    split at covered
    · rename_i near
      rcases near with ⟨below, right, close⟩
      cases found : sprite[row - y]? with
      | none =>
          rw [found] at covered
          simp at covered
      | some byte =>
          rw [found] at covered
          have narrow : column - x < 8 := by
            unfold spriteWidth at close
            omega
          refine ⟨row - y, column - x, byte, narrow, by omega, by omega, found, ?_⟩
          simpa [BitVec.getMsbD, BitVec.getLsbD, narrow] using covered
    · contradiction
  · rintro ⟨line, bit, byte, narrow, rfl, rfl, found, one⟩
    have near : y ≤ y + line ∧ x ≤ x + bit ∧ x + bit < x + spriteWidth := by
      omega
    have small : bit < 8 := narrow
    rw [if_pos near, Nat.add_sub_cancel_left, Nat.add_sub_cancel_left, found]
    simpa [BitVec.getMsbD, BitVec.getLsbD, small] using one

/-- A sprite without a one on the display leaves it as it is. -/
theorem draw_of_uncovered (display : Display) {x y : Nat} {sprite : List UInt8}
    (uncovered : ∀ (row : Fin 32) (column : Fin 64),
      covers x y sprite row column = false) :
    display.draw x y sprite = display ∧ display.collides x y sprite = false := by
  constructor
  · ext row column
    rw [pixel_draw, uncovered, Bool.xor_false]
  · rw [collides, Bool.eq_false_iff, ne_eq, anyPixel_eq_true]
    rintro ⟨row, column, hit⟩
    rw [uncovered, Bool.and_false] at hit
    contradiction

/-! ## Drawing at natural coordinates -/

section Natural

variable {x y : Nat} {sprite : List UInt8}

/-- Nothing of the sprite is on the display, because it has no rows or begins
beyond an edge. -/
theorem covers_of_invisible
    (invisible : visibleExtent x y sprite.length = none)
    (row : Fin 32) (column : Fin 64) : covers x y sprite row column = false := by
  rw [Bool.eq_false_iff, ne_eq, covers_eq_true_iff]
  rintro ⟨line, bit, byte, narrow, below, right, found, _⟩
  have inside : line < sprite.length := (List.getElem?_eq_some_iff.mp found).1
  have rowLimit := row.isLt
  have columnLimit := column.isLt
  unfold visibleExtent displayHeight displayWidth spriteWidth at invisible
  simp only at invisible
  split at invisible
  · omega
  · contradiction

/-- At natural coordinates the area of the visible part is that part, so no
stretching and no wrapping around takes place. -/
theorem drawBytesInto_natural (display : Display) :
    display.drawBytesInto x y sprite =
      (.ok (display.collides x y sprite), display.draw x y sprite) := by
  cases visible : visibleExtent x y sprite.length with
  | none =>
      have unchanged := display.draw_of_uncovered (covers_of_invisible visible)
      rw [drawBytesInto, visible, unchanged.1, unchanged.2]
  | some pattern =>
      have fits := fits_of_natural (Int.natCast_nonneg x) (Int.natCast_nonneg y)
        visible
      rw [display.drawBytesInto_of_fits x y sprite visible fits]
      simp only [meets, flip, areaMask_of_natural visible]
      rfl

end Natural

/-! ## Stamps -/

/-- Draw a stamp. -/
def put (display : Display) (stamp : Stamp) : Display :=
  display.draw stamp.x stamp.y stamp.rows

/-- Whether drawing a stamp turns some pixel off. -/
def hits (display : Display) (stamp : Stamp) : Bool :=
  display.collides stamp.x stamp.y stamp.rows

theorem drawAt_stamp (display : Display) (stamp : Stamp) :
    display.drawAt stamp.x stamp.y stamp.values =
      .ok (display.put stamp, display.hits stamp) := by
  simp only [drawAt, drawInto, Stamp.values, bytesOf_toNat, drawBytesInto_natural,
    put, hits]
  rfl

@[simp] theorem pixel_put (display : Display) (stamp : Stamp) (row : Fin 32)
    (column : Fin 64) :
    (display.put stamp).pixel row column =
      (display.pixel row column ^^ stamp.mask row column) :=
  display.pixel_draw stamp.x stamp.y stamp.rows row column

/-- A stamp that is drawn twice in a row leaves no trace. -/
theorem put_put (display : Display) (stamp : Stamp) :
    (display.put stamp).put stamp = display := by
  ext row column
  rw [pixel_put, pixel_put, Bool.xor_assoc, Bool.xor_self, Bool.xor_false]

theorem put_comm (display : Display) (first second : Stamp) :
    (display.put first).put second = (display.put second).put first := by
  ext row column
  simp only [pixel_put]
  rw [Bool.xor_assoc, Bool.xor_comm (first.mask row column), ← Bool.xor_assoc]

instance : RightCommutative put :=
  ⟨put_comm⟩

/-- The second of two equal drawings collides where the stamp has a one over a
pixel that was off before the first. -/
theorem hits_put (display : Display) (stamp : Stamp) :
    (display.put stamp).hits stamp = true ↔
      ∃ row column, stamp.mask row column = true ∧
        display.pixel row column = false := by
  rw [hits, collides, anyPixel_eq_true]
  refine exists_congr fun row => exists_congr fun column => ?_
  rw [pixel_put]
  change ((display.pixel row column ^^ stamp.mask row column) &&
    stamp.mask row column) = true ↔ _
  cases display.pixel row column <;> cases stamp.mask row column <;> simp

theorem pixel_putAll (display : Display) (stamps : List Stamp) (row : Fin 32)
    (column : Fin 64) :
    (stamps.foldl put display).pixel row column =
      (display.pixel row column ^^ Stamp.superpose stamps row column) := by
  induction stamps generalizing display with
  | nil => simp [Stamp.superpose]
  | cons stamp rest inductionHypothesis =>
      rw [List.foldl_cons, inductionHypothesis, pixel_put, Bool.xor_assoc]
      rfl

/-- Two equal stamps cancel, whatever was drawn between them. -/
theorem putAll_cancel (display : Display) (stamp : Stamp)
    (before between behind : List Stamp) :
    (before ++ stamp :: between ++ stamp :: behind).foldl put display =
      (before ++ between ++ behind).foldl put display := by
  have toFront :
      (before ++ stamp :: between ++ stamp :: behind).Perm
        (stamp :: stamp :: (before ++ between ++ behind)) := by
    refine List.perm_middle.trans (List.Perm.cons stamp ?_)
    rw [List.append_assoc, List.append_assoc]
    exact List.perm_middle
  rw [toFront.foldl_eq, List.foldl_cons, List.foldl_cons, put_put]

/-! ## Commands -/

/-- The display that a command leaves. -/
def after (display : Display) : DisplayCommand → Display
  | .clear => blank
  | .draw stamp => display.put stamp

theorem performAll_eq (display : Display) (commands : List DisplayCommand) :
    display.performAll commands = .ok (commands.foldl after display) := by
  induction commands generalizing display with
  | nil => rfl
  | cons command rest inductionHypothesis =>
      have performed : display.perform command = .ok (display.after command) := by
        cases command with
        | clear => rfl
        | draw stamp => rw [perform, drawAt_stamp]; rfl
      rw [performAll, List.foldlM_cons, performed]
      exact inductionHypothesis (display.after command)

theorem foldl_after_draw (display : Display) (stamps : List Stamp) :
    (stamps.map DisplayCommand.draw).foldl after display =
      stamps.foldl put display := by
  rw [List.foldl_map]
  rfl

/-- From a blank display, only the stamps since the last clear count. -/
theorem foldl_after_blank (commands : List DisplayCommand) :
    commands.foldl after blank =
      (DisplayCommand.sinceClear commands).foldl put blank := by
  -- A clear makes all that precedes it irrelevant, so the last command is taken
  -- off and not the first.
  induction commands using List.reverseRecOn with
  | nil => rfl
  | append_singleton commands last inductionHypothesis =>
      have kept : DisplayCommand.sinceClear (commands ++ [last]) =
          DisplayCommand.keep (DisplayCommand.sinceClear commands) last :=
        List.foldl_concat ..
      rw [List.foldl_concat, inductionHypothesis, kept]
      cases last with
      | clear => rfl
      | draw stamp =>
          rw [DisplayCommand.keep, List.foldl_concat]
          rfl

/-- Blocks of drawings that have the same effect may replace each other between
any commands. -/
theorem performAll_congr (display : Display) {first second : List Stamp}
    (same : ∀ before : Display, first.foldl put before = second.foldl put before)
    (earlier later : List DisplayCommand) :
    display.performAll (earlier ++ first.map .draw ++ later) =
      display.performAll (earlier ++ second.map .draw ++ later) := by
  simp only [performAll_eq, List.foldl_append, foldl_after_draw, same]

/-- The masks are the ones of the sprites, cut off at the edges.  Commands are
never refused, and starting from a blank display the pixels are the exclusive or
of the masks since the last clear.  Whatever the display was before, drawings
between other commands may be permuted, and a pair of equal ones left out.
Drawing a stamp twice in a row gives the display back, and the second drawing
collides exactly if the stamp has a one over a pixel that was off. -/
theorem drawings_superpose :
    (∀ (stamp : Stamp) (row : Fin 32) (column : Fin 64),
      stamp.mask row column = true ↔
        ∃ line bit byte, bit < 8 ∧ row.val = stamp.y + line ∧
          column.val = stamp.x + bit ∧ stamp.rows[line]? = some byte ∧
            byte.toNat.testBit (7 - bit) = true) ∧
      (∀ commands, ∃ final, blank.performAll commands = .ok final ∧
        ∀ row column, final.pixel row column =
          Stamp.superpose (DisplayCommand.sinceClear commands) row column) ∧
      (∀ (display : Display) (earlier later : List DisplayCommand)
        (first second : List Stamp), first.Perm second →
          display.performAll (earlier ++ first.map .draw ++ later) =
            display.performAll (earlier ++ second.map .draw ++ later)) ∧
      (∀ (display : Display) (earlier later : List DisplayCommand) (stamp : Stamp)
        (before between behind : List Stamp),
          display.performAll (earlier ++
              (before ++ stamp :: between ++ stamp :: behind).map .draw ++ later) =
            display.performAll (earlier ++
              (before ++ between ++ behind).map .draw ++ later)) ∧
      ∀ (display : Display) (stamp : Stamp), ∃ drawn first second,
        display.drawAt stamp.x stamp.y stamp.values = .ok (drawn, first) ∧
          drawn.drawAt stamp.x stamp.y stamp.values = .ok (display, second) ∧
          (second = true ↔ ∃ row column, stamp.mask row column = true ∧
            display.pixel row column = false) := by
  refine ⟨fun stamp row column => covers_eq_true_iff _ _ _ _ _, ?_, ?_, ?_, ?_⟩
  · intro commands
    refine ⟨_, performAll_eq blank commands, fun row column => ?_⟩
    rw [foldl_after_blank, pixel_putAll, pixel_blank, Bool.false_xor]
  · intro display earlier later first second permuted
    exact display.performAll_congr (fun before => permuted.foldl_eq before)
      earlier later
  · intro display earlier later stamp before between behind
    exact display.performAll_congr
      (fun start => start.putAll_cancel stamp before between behind)
      earlier later
  · intro display stamp
    refine ⟨display.put stamp, display.hits stamp, (display.put stamp).hits stamp,
      display.drawAt_stamp stamp, ?_, display.hits_put stamp⟩
    rw [drawAt_stamp, put_put]

/-- Two stamps that overlap at the right edge may be exchanged behind a clear. -/
theorem exchange_behind_clear :
    let corner : Stamp := ⟨60, 30, [0xFF, 0x81, 0xFF]⟩
    let bar : Stamp := ⟨56, 31, [0x3C]⟩
    [corner, bar].Perm [bar, corner] ∧
      blank.performAll [.draw bar, .clear, .draw corner, .draw bar] =
        blank.performAll [.draw bar, .clear, .draw bar, .draw corner] := by
  intro corner bar
  have permuted : [corner, bar].Perm [bar, corner] := List.Perm.swap bar corner []
  exact ⟨permuted, drawings_superpose.2.2.1 blank [.draw bar, .clear] []
    [corner, bar] [bar, corner] permuted⟩

end Display

end ChipEight
