namespace ChipEight

/-!
# The display

The display is a grid of 32 rows and 64 columns of pixels, each on or off.  A
sprite is a column of bytes, one for each row, whose leading bit is the leftmost
pixel.  Drawing flips the pixels where the sprite has a one.  What would fall
beyond the right or the bottom edge is dropped.  A drawing collides if it turns
some pixel off.
-/

/-- The number of rows of the display. -/
def displayHeight : Nat := 32

/-- The number of columns of the display. -/
def displayWidth : Nat := 64

/-- The number of columns of a sprite. -/
def spriteWidth : Nat := 8

/-- The pixels of the display, by rows. -/
structure Display where
  rows : Vector (Vector Bool 64) 32
  deriving DecidableEq

namespace Display

/-- The pixel in a row and a column. -/
def pixel (display : Display) (row : Fin 32) (column : Fin 64) : Bool :=
  (display.rows[row])[column]

/-- The display with given pixels. -/
def ofPixels (pixel : Fin 32 → Fin 64 → Bool) : Display :=
  ⟨Vector.ofFn fun row => Vector.ofFn fun column => pixel row column⟩

/-- A display with every pixel off. -/
def blank : Display :=
  ofPixels fun _ _ => false

/-- Whether a sprite whose top left corner is in column `x` and row `y` has a
one over a place. -/
def covers (x y : Nat) (sprite : List UInt8) (row column : Nat) : Bool :=
  if y ≤ row ∧ x ≤ column ∧ column < x + spriteWidth then
    (sprite[row - y]?.getD 0).toBitVec.getMsbD (column - x)
  else false

/-- Whether some pixel satisfies a test. -/
def anyPixel (test : Fin 32 → Fin 64 → Bool) : Bool :=
  (List.finRange 32).any fun row => (List.finRange 64).any (test row)

/-- Whether drawing a sprite turns some pixel off. -/
def collides (display : Display) (x y : Nat) (sprite : List UInt8) : Bool :=
  anyPixel fun row column =>
    display.pixel row column && covers x y sprite row column

/-- Draw a sprite. -/
def draw (display : Display) (x y : Nat) (sprite : List UInt8) : Display :=
  ofPixels fun row column =>
    display.pixel row column ^^ covers x y sprite row column

@[simp] theorem pixel_ofPixels (pixel : Fin 32 → Fin 64 → Bool)
    (row : Fin 32) (column : Fin 64) :
    (ofPixels pixel).pixel row column = pixel row column := by
  simp [Display.pixel, ofPixels]

@[simp] theorem pixel_blank (row : Fin 32) (column : Fin 64) :
    blank.pixel row column = false :=
  pixel_ofPixels _ row column

/-- Displays with the same pixels are the same. -/
@[ext] theorem ext {first second : Display}
    (same : ∀ row column, first.pixel row column = second.pixel row column) :
    first = second := by
  cases first with
  | mk firstRows =>
  cases second with
  | mk secondRows =>
  congr 1
  apply Vector.ext
  intro row rowInside
  apply Vector.ext
  intro column columnInside
  exact same ⟨row, rowInside⟩ ⟨column, columnInside⟩

theorem pixel_draw (display : Display) (x y : Nat) (sprite : List UInt8)
    (row : Fin 32) (column : Fin 64) :
    (display.draw x y sprite).pixel row column =
      (display.pixel row column ^^ covers x y sprite row column) :=
  pixel_ofPixels _ row column

theorem anyPixel_eq_true (test : Fin 32 → Fin 64 → Bool) :
    anyPixel test = true ↔ ∃ row column, test row column = true := by
  simp [anyPixel]

end Display

end ChipEight
