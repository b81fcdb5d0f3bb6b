import ChipEight.Cell
import ChipEight.Display

namespace ChipEight

/-!
# Drawing at arbitrary coordinates

A host may ask for a sprite at any integers.  A coordinate beyond the right or
the bottom edge leaves the display as it is.  A negative coordinate counts from
behind the edge, as far as the display reaches, and there the area that the
sprite falls on can differ from the sprite's own extent.  A single row or column of
the sprite is stretched over the area, which may also be empty.  If the extents
still differ, then the sprite is refused.
-/

namespace Display

/-- The place on an axis that a bound stands for.  A negative bound counts from
behind the end, and every bound is moved onto the axis. -/
def axisPlace (size : Nat) (bound : Int) : Nat :=
  if bound < 0 then (bound + size).toNat else min bound.toNat size

/-- The number of places on an axis from one bound up to another. -/
def axisLength (size : Nat) (start stop : Int) : Nat :=
  axisPlace size stop - axisPlace size start

/-- The common length of two axes, one of which is stretched if it has length
one. -/
def stretchAxis (first second : Nat) : Option Nat :=
  if first = second then some first
  else if first = 1 then some second
  else if second = 1 then some first
  else none

end Display

/-- The common extent of two rectangles, after stretching. -/
def Extent.stretch (first second : Extent) : Option Extent :=
  match Display.stretchAxis first.height second.height,
      Display.stretchAxis first.width second.width with
  | some height, some width => some ⟨height, width⟩
  | _, _ => none

namespace Display

/-- The extent of the part of a sprite that lies before the right and the
bottom edge, or nothing if no part of it does. -/
def visibleExtent (x y : Int) (rows : Nat) : Option Extent :=
  let height := min (rows : Int) (displayHeight - y)
  let width := min (spriteWidth : Int) (displayWidth - x)
  if height ≤ 0 ∨ width ≤ 0 then none
  else some ⟨height.toNat, width.toNat⟩

/-- The extent of the area of the display that a pattern falls on. -/
def areaExtent (x y : Int) (pattern : Extent) : Extent :=
  ⟨axisLength displayHeight y (y + pattern.height),
    axisLength displayWidth x (x + pattern.width)⟩

/-- The place on the axis of a pattern that falls on a place on the axis of an
area, if the pattern is stretched over it. -/
def stretchedPlace (length place : Nat) : Nat :=
  if length = 1 then 0 else place

/-- Whether a pattern that is stretched over its area has a one over a place. -/
def areaMask (x y : Int) (pattern : Extent) (sprite : List UInt8)
    (row column : Nat) : Bool :=
  let area := areaExtent x y pattern
  let top := axisPlace displayHeight y
  let left := axisPlace displayWidth x
  if (top ≤ row ∧ row < top + area.height) ∧
      (left ≤ column ∧ column < left + area.width) then
    (sprite[stretchedPlace pattern.height (row - top)]?.getD 0).toBitVec.getMsbD
      (stretchedPlace pattern.width (column - left))
  else false

/-- Flip the pixels under a mask. -/
def flip (display : Display) (mask : Nat → Nat → Bool) : Display :=
  ofPixels fun row column => display.pixel row column ^^ mask row column

/-- Whether a mask lies over a pixel that is on. -/
def meets (display : Display) (mask : Nat → Nat → Bool) : Bool :=
  anyPixel fun row column => display.pixel row column && mask row column

/-- Draw a sprite of bytes into a display at any coordinates.  The answer tells
whether it collides, and the display is the one that is left, also behind a
fault. -/
def drawBytesInto (display : Display) (x y : Int) (sprite : List UInt8) :
    Except Fault Bool × Display :=
  match visibleExtent x y sprite.length with
  | none => (.ok false, display)
  | some pattern =>
      let area := areaExtent x y pattern
      match area.stretch pattern with
      | none => (.error (.patternMismatch area pattern), display)
      | some stretched =>
          if stretched ≠ area then (.error (.areaMismatch area stretched), display)
          else
            let mask := areaMask x y pattern sprite
            (.ok (display.meets mask), display.flip mask)

/-- Draw a sprite of integers, each of which has to be a byte, into a display at any
coordinates. -/
def drawInto (display : Display) (x y : Int) (sprite : List Int) :
    Except Fault Bool × Display :=
  match bytesOf sprite with
  | .error fault => (.error fault, display)
  | .ok bytes => display.drawBytesInto x y bytes

/-- The display with a sprite, and whether the sprite collides. -/
def drawAt (display : Display) (x y : Int) (sprite : List Int) :
    Except Fault (Display × Bool) :=
  let outcome := display.drawInto x y sprite
  outcome.1.map fun collided => (outcome.2, collided)

end Display

end ChipEight
