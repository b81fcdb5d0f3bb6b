import ChipEight.Display
import ChipEight.Storage

namespace ChipEight

/-!
# Exports of the display

The display can be written as text, one cell of text for each pixel, and as a
grayscale image, one square of pixels for each pixel of the display.
-/

/-- A grayscale image, by rows. -/
structure Image where
  width : Nat
  height : Nat
  rows : List (List UInt8)
  deriving DecidableEq

namespace Display

/-- The pixels of one row, from the left. -/
def rowPixels (display : Display) (row : Fin 32) : List Bool :=
  (List.finRange 64).map (display.pixel row)

/-- The pixels of every row, from the top. -/
def grid (display : Display) : List (List Bool) :=
  (List.finRange 32).map display.rowPixels

@[simp] theorem length_rowPixels (display : Display) (row : Fin 32) :
    (display.rowPixels row).length = 64 := by
  rw [rowPixels, List.length_map, List.length_finRange]

@[simp] theorem length_grid (display : Display) : display.grid.length = 32 := by
  rw [grid, List.length_map, List.length_finRange]

theorem getElem?_rowPixels (display : Display) (row : Fin 32)
    (column : Fin 64) :
    (display.rowPixels row)[column.val]? = some (display.pixel row column) := by
  simp [rowPixels]

theorem getElem?_grid (display : Display) (row : Fin 32) :
    display.grid[row.val]? = some (display.rowPixels row) := by
  simp [grid]

/-- The display as text: a line for each row and a cell for each pixel. -/
def text (display : Display) (on off : String) : String :=
  "\n".intercalate (display.grid.map fun row =>
    String.join (row.map fun lit => if lit then on else off))

/-- The cell of a lit pixel unless the caller chooses another. -/
def litCell : String := "██"

/-- The cell of a dark pixel unless the caller chooses another. -/
def darkCell : String := "  "

/-- The image scale unless the caller chooses another. -/
def defaultScale : Int := 8

/-- The brightness of a pixel in an image. -/
def brightness (lit : Bool) : UInt8 :=
  if lit then 255 else 0

theorem toNat_brightness (lit : Bool) :
    (brightness lit).toNat = 255 * lit.toNat := by
  cases lit <;> rfl

/-- Repeat every element of a list in place. -/
def stretchBy (scale : Nat) (items : List α) : List α :=
  items.flatMap (List.replicate scale)

/-- The signed value of the low 64 bits of an integer. -/
def lowWide (value : Int) : Int :=
  (value + Fault.wideBound) % (2 * Fault.wideBound) - Fault.wideBound

/-- Why the rows cannot be stretched, if they cannot.  An array is asked for with
the low 64 bits of their number, but all of them are written. -/
def rowsRefusal? (storage : Storage) (scale : Int) : Option Fault :=
  let height := displayHeight * scale
  match storage.refusal? [] [lowWide height, displayWidth] .byte with
  | some fault => some fault
  | none => if Fault.IsWide height then none else some .overrun

/-- Why one of the arrays with all the pixels of an image is refused, if one is.
The pixels are stretched while the stretched rows are kept, are multiplied by the
greatest brightness, and that product is copied while the pixels themselves are
kept. -/
def pixelsRefusal? (storage : Storage) (scale : Int) : Option Fault :=
  let side := scale.toNat
  let rows := displayHeight * side * displayWidth
  let whole := displayHeight * side * (displayWidth * side)
  [[rows], [whole], [whole, whole]].findSome? fun kept =>
    storage.refusal? kept [displayHeight * scale, displayWidth * scale] .byte

/-- Why no image can be set up on an array of its pixels, if none can. -/
def frameRefusal? (storage : Storage) (scale : Int) : Option Fault :=
  let width := displayWidth * scale.toNat
  let height := displayHeight * scale.toNat
  if storage.frames width height then none else some (.noFrame width height)

/-- Why a scale is refused, if it is.  The rows are stretched before the
columns. -/
def scaleRefusal? (storage : Storage) (scale : Int) : Option Fault :=
  if scale < 1 then some (.scaleTooSmall scale)
  else if Fault.IsWide scale then
    (rowsRefusal? storage scale).or
      ((pixelsRefusal? storage scale).or (frameRefusal? storage scale))
  else some (.tooWide scale)

/-- The display as an image in which every pixel is a square of the given side.
A side below one is refused, and so is one whose image the system does not
grant. -/
def image (display : Display) (storage : Storage) (scale : Int) :
    Except Fault Image :=
  match scaleRefusal? storage scale with
  | some fault => .error fault
  | none =>
      let side := scale.toNat
      .ok ⟨displayWidth * side, displayHeight * side,
        stretchBy side (display.grid.map fun row =>
          stretchBy side (row.map brightness))⟩

end Display

end ChipEight
