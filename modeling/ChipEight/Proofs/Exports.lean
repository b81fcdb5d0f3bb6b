import ChipEight.Display.Export
import Mathlib.Logic.Equiv.Fin.Basic

namespace ChipEight

/-!
# What the exports show

An image repeats every row of the display and every pixel of a row, and a text
joins cells to lines and lines to a text.  Both are read back here.  The pixel of
an image at a place is the one of the display at the quotients of the place by
the side, and the pixel of a text is the cell that begins at a multiple of the
width of the cells.  So either export determines the display, and an image and a
text show the same display exactly if they were made from the same one.

In both cases every element of a list contributes equally many elements, which
stand one behind another.  The first part says which of them stands where.

An image is made of four arrays, one behind the other.  It exists exactly if 64
bits with a sign can hold the number of its bytes and the system grants all of
these.
-/

/-! ## Elements of equal extent -/

section Extents

variable {Item Part : Type} {parts : Item → List Part} {extent : Nat}

theorem length_flatMap_of_uniform (uniform : ∀ item, (parts item).length = extent)
    (items : List Item) :
    (items.flatMap parts).length = items.length * extent := by
  induction items with
  | nil => exact (Nat.zero_mul _).symm
  | cons item rest inductionHypothesis =>
      rw [List.flatMap_cons, List.length_append, uniform, inductionHypothesis,
        List.length_cons, Nat.succ_mul, Nat.add_comm]

/-- What stands at a place belongs to the element at the quotient, and is as far
behind its first part as the remainder says. -/
theorem getElem?_flatMap_of_uniform (uniform : ∀ item, (parts item).length = extent)
    (positive : 0 < extent) (items : List Item) (place : Nat) :
    (items.flatMap parts)[place]? =
      items[place / extent]?.bind fun item => (parts item)[place % extent]? := by
  induction items generalizing place with
  | nil => rfl
  | cons item rest inductionHypothesis =>
      rw [List.flatMap_cons]
      by_cases within : place < extent
      · rw [List.getElem?_append_left (by rwa [uniform]), Nat.div_eq_of_lt within,
          Nat.mod_eq_of_lt within]
        rfl
      · have behind : extent ≤ place := Nat.not_lt.mp within
        rw [List.getElem?_append_right (by rwa [uniform]), uniform, inductionHypothesis,
          Nat.div_eq_sub_div positive behind, Nat.mod_eq_sub_mod behind]
        rfl

/-- The parts of one element are cut out again. -/
theorem take_drop_flatMap_of_uniform (uniform : ∀ item, (parts item).length = extent)
    {items : List Item} {place : Nat} {item : Item}
    (found : items[place]? = some item) :
    ((items.flatMap parts).drop (place * extent)).take extent = parts item := by
  apply List.ext_getElem?
  intro offset
  rw [List.getElem?_take, List.getElem?_drop]
  by_cases within : offset < extent
  · have quotient : (place * extent + offset) / extent = place := by
      rw [Nat.mul_comm, Nat.mul_add_div (Nat.zero_lt_of_lt within),
        Nat.div_eq_of_lt within, Nat.add_zero]
    have remainder : (place * extent + offset) % extent = offset := by
      rw [Nat.mul_add_mod_self_right, Nat.mod_eq_of_lt within]
    rw [if_pos within, getElem?_flatMap_of_uniform uniform (Nat.zero_lt_of_lt within),
      quotient, remainder, found]
    rfl
  · rw [if_neg within, List.getElem?_eq_none]
    rw [uniform]
    exact Nat.not_lt.mp within

end Extents

/-! ## Room for an image -/

namespace Storage

/-- The number of bytes of an array of one byte for each element. -/
theorem sizeOf_pair {first second : Nat} (positive : 0 < second) :
    sizeOf 1 [(first : Int), (second : Int)] =
      if first * second < 0x8000000000000000 then .ok (first * second)
      else .error .excessiveSize := by
  have larger : first ≤ first * second := Nat.le_mul_of_pos_right first positive
  rw [sizeOf_cons, sizeOf_cons, Nat.one_mul, sizeOf]
  by_cases bounded : first * second < 0x8000000000000000
  · have outer : Fault.IsWide (first : Int) := by
      unfold Fault.IsWide Fault.wideBound
      omega
    have whole : Fault.IsWide ((first * second : Nat) : Int) := by
      unfold Fault.IsWide Fault.wideBound
      omega
    rw [if_pos outer, if_pos whole, if_pos bounded]
  · have beyond : ¬ Fault.IsWide ((first * second : Nat) : Int) := by
      unfold Fault.IsWide Fault.wideBound
      omega
    rw [if_neg beyond, if_neg bounded, ite_self]

/-- Such an array is granted exactly if the number of its bytes can be held and
there is room for them. -/
theorem refusal?_pair_eq_none_iff {storage : Storage} {kept : List Nat}
    {first second : Nat} (positive : 0 < second) :
    storage.refusal? kept [(first : Int), (second : Int)] .byte = none ↔
      first * second < 0x8000000000000000 ∧
        storage.room kept (first * second) = true := by
  rw [refusal?_eq_none_iff, CellWidth.bytes, sizeOf_pair positive]
  by_cases bounded : first * second < 0x8000000000000000
  · simp only [bounded, if_true, Except.ok.injEq, exists_eq_left', true_and]
  · simp only [bounded, if_false, reduceCtorEq, false_and, exists_false]

/-- The system grants what an image takes whose squares have a certain side: the
stretched rows, all pixels while the rows are kept, their brightnesses while the
pixels are kept, a copy while both are kept, and an image on that copy. -/
structure Grants (storage : Storage) (side : Nat) : Prop where
  rows : storage.room [] (32 * side * 64) = true
  pixels : storage.room [32 * side * 64] (32 * side * (64 * side)) = true
  brightnesses :
    storage.room [32 * side * (64 * side)] (32 * side * (64 * side)) = true
  copy : storage.room [32 * side * (64 * side), 32 * side * (64 * side)]
    (32 * side * (64 * side)) = true
  frame : storage.frames (64 * side) (32 * side) = true

/-- What an image takes at most at one time is three times its pixels. -/
theorem upTo_grants {limit side : Nat} (positive : 1 ≤ side)
    (enough : 3 * (32 * side * (64 * side)) ≤ limit) :
    (upTo limit).Grants side := by
  have stretched : 32 * side * 64 ≤ 32 * side * (64 * side) :=
    Nat.mul_le_mul_left _ (by omega)
  constructor
  case frame => rfl
  all_goals
    simp only [room_upTo, List.foldl_cons, List.foldl_nil]
    omega

end Storage

namespace Display

theorem lowWide_of_wide {value : Int} (wide : Fault.IsWide value) :
    lowWide value = value := by
  unfold Fault.IsWide Fault.wideBound at wide
  unfold lowWide Fault.wideBound
  omega

section Room

variable (storage : Storage) {side : Nat}

theorem height_eq : (displayHeight : Int) * side = ((32 * side : Nat) : Int) := by
  simp [displayHeight]

theorem width_eq : (displayWidth : Int) * side = ((64 * side : Nat) : Int) := by
  simp [displayWidth]

/-- The number of rows is not cut off if the number of their pixels can be
held. -/
theorem rowsRefusal?_eq_none_iff
    (bounded : 32 * side * 64 < 0x8000000000000000) :
    rowsRefusal? storage side = none ↔ storage.room [] (32 * side * 64) = true := by
  have held : Fault.IsWide ((32 * side : Nat) : Int) := by
    unfold Fault.IsWide Fault.wideBound
    omega
  have columns : ((displayWidth : Nat) : Int) = ((64 : Nat) : Int) := rfl
  have granted : storage.refusal? [] [((32 * side : Nat) : Int), ((64 : Nat) : Int)]
      .byte = none ↔ _ :=
    Storage.refusal?_pair_eq_none_iff (by decide)
  rw [rowsRefusal?, height_eq]
  simp only [lowWide_of_wide held, if_pos held, columns]
  cases refused : storage.refusal? [] [((32 * side : Nat) : Int), ((64 : Nat) : Int)]
    .byte with
  | none => simp only [true_iff]; exact (granted.mp refused).2
  | some fault =>
      rw [refused] at granted
      simpa only [reduceCtorEq, bounded, true_and] using granted

theorem pixelsRefusal?_eq_none_iff (positive : 1 ≤ side) :
    pixelsRefusal? storage side = none ↔
      32 * side * (64 * side) < 0x8000000000000000 ∧
        ∀ kept ∈ [[32 * side * 64], [32 * side * (64 * side)],
            [32 * side * (64 * side), 32 * side * (64 * side)]],
          storage.room kept (32 * side * (64 * side)) = true := by
  have widthPositive : 0 < 64 * side := by omega
  have rows : displayHeight * side * displayWidth = 32 * side * 64 := rfl
  have whole : displayHeight * side * (displayWidth * side) =
      32 * side * (64 * side) := rfl
  rw [pixelsRefusal?, height_eq, width_eq, Int.toNat_natCast, rows, whole,
    List.findSome?_eq_none_iff]
  simp only [Storage.refusal?_pair_eq_none_iff widthPositive]
  constructor
  · intro granted
    exact ⟨(granted _ List.mem_cons_self).1, fun kept listed =>
      (granted kept listed).2⟩
  · rintro ⟨bounded, granted⟩ kept listed
    exact ⟨bounded, granted kept listed⟩

theorem frameRefusal?_eq_none_iff :
    frameRefusal? storage side = none ↔
      storage.frames (64 * side) (32 * side) = true := by
  have width : displayWidth * side = 64 * side := rfl
  have height : displayHeight * side = 32 * side := rfl
  rw [frameRefusal?, Int.toNat_natCast, width, height]
  cases storage.frames (64 * side) (32 * side) <;>
    simp only [if_true, if_false, reduceCtorEq, Bool.false_eq_true]

/-- The display can be made into an image exactly if the number of its bytes can be
held and the system grants all that it takes. -/
theorem scaleRefusal?_eq_none_iff {scale : Int} (positive : 1 ≤ scale) :
    scaleRefusal? storage scale = none ↔
      64 * scale * (32 * scale) < 0x8000000000000000 ∧
        storage.Grants scale.toNat := by
  rcases Int.eq_ofNat_of_zero_le (Int.le_trans (by decide) positive) with
    ⟨side, rfl⟩
  have atLeastOne : 1 ≤ side := by omega
  have area : 64 * (side : Int) * (32 * side) =
      ((32 * side * (64 * side) : Nat) : Int) := by
    rw [Int.mul_comm]
    push_cast
    rfl
  have bytes : 64 * (side : Int) * (32 * side) < 0x8000000000000000 ↔
      32 * side * (64 * side) < 0x8000000000000000 := by
    rw [area]
    omega
  have rows : 32 * side * 64 ≤ 32 * side * (64 * side) :=
    Nat.mul_le_mul_left _ (by omega)
  rw [bytes, scaleRefusal?, if_neg (Int.not_lt.mpr positive), Int.toNat_natCast]
  constructor
  · intro accepted
    split at accepted
    · obtain ⟨first, rest⟩ := Option.or_eq_none_iff.mp accepted
      obtain ⟨second, third⟩ := Option.or_eq_none_iff.mp rest
      obtain ⟨bounded, granted⟩ :=
        (pixelsRefusal?_eq_none_iff storage atLeastOne).mp second
      exact ⟨bounded,
        { rows := (rowsRefusal?_eq_none_iff storage (by omega)).mp first
          pixels := granted _ (by simp)
          brightnesses := granted _ (by simp)
          copy := granted _ (by simp)
          frame := (frameRefusal?_eq_none_iff storage).mp third }⟩
    · exact absurd accepted (Option.some_ne_none _)
  · rintro ⟨bounded, granted⟩
    have held : Fault.IsWide (side : Int) := by
      unfold Fault.IsWide Fault.wideBound
      omega
    rw [if_pos held, Option.or_eq_none_iff, Option.or_eq_none_iff,
      rowsRefusal?_eq_none_iff storage (by omega),
      pixelsRefusal?_eq_none_iff storage atLeastOne,
      frameRefusal?_eq_none_iff storage]
    refine ⟨granted.rows, ⟨bounded, ?_⟩, granted.frame⟩
    simp only [List.forall_mem_cons]
    exact ⟨granted.pixels, granted.brightnesses, granted.copy,
      List.forall_mem_nil _⟩

end Room

/-- Want of room is not taken for too small a scale. -/
theorem scaleRefusal?_eq_scaleTooSmall_iff (storage : Storage) {scale : Int} :
    scaleRefusal? storage scale = some (.scaleTooSmall scale) ↔ scale < 1 := by
  constructor
  · intro refused
    by_contra positive
    rw [scaleRefusal?, if_neg positive] at refused
    split at refused
    · rcases Option.or_eq_some_iff.mp refused with rows | ⟨-, rest⟩
      · simp only [rowsRefusal?] at rows
        split at rows
        · rename_i fault array
          rw [rows] at array
          simpa using Storage.refusal?_fault array
        · split at rows <;> simp at rows
      · rcases Option.or_eq_some_iff.mp rest with pixels | ⟨-, frame⟩
        · obtain ⟨kept, -, array⟩ := List.exists_of_findSome?_eq_some pixels
          simpa using Storage.refusal?_fault array
        · simp only [frameRefusal?] at frame
          split at frame <;> simp at frame
    · simp at refused
  · exact fun small => if_pos small

end Display

/-! ## Images -/

namespace Image

/-- The brightness of a pixel of an image, or nothing beyond its edges. -/
def brightnessAt (image : Image) (row column : Nat) : Option UInt8 :=
  image.rows[row]?.bind fun pixels => pixels[column]?

/-- The display that shows in an image if only the first pixel of every square
of a side is looked at. -/
def sampled (image : Image) (side : Nat) : Display :=
  Display.ofPixels fun row column =>
    image.brightnessAt (side * row) (side * column) == some 255

/-- An image shows a display in squares of a side. -/
structure Magnifies (image : Image) (side : Nat) (display : Display) : Prop where
  width : image.width = 64 * side
  height : image.height = 32 * side
  /-- The pixels fill the rectangle that is announced. -/
  rows : image.rows.length = image.height
  columns : ∀ row ∈ image.rows, row.length = image.width
  /-- Every pixel of the display is a square. -/
  brightness : ∀ (row : Fin (32 * side)) (column : Fin (64 * side)),
    (image.brightnessAt row column).map UInt8.toNat =
      some (255 * (display.pixel row.divNat column.divNat).toNat)

/-- Looking at one pixel of every square is enough to see the display. -/
theorem Magnifies.sampled_eq {image : Image} {side : Nat} {display : Display}
    (magnifies : image.Magnifies side display) (positive : 0 < side) :
    image.sampled side = display := by
  ext row column
  have corner : (image.brightnessAt (side * row) (side * column)).map UInt8.toNat =
      some (255 * (display.pixel row column).toNat) := by
    have square := magnifies.brightness (row.mkDivMod ⟨0, positive⟩)
      (column.mkDivMod ⟨0, positive⟩)
    rw [Fin.divNat_mkDivMod, Fin.divNat_mkDivMod] at square
    exact square
  rw [sampled, Display.pixel_ofPixels]
  rcases Option.map_eq_some_iff.mp corner with ⟨value, seen, same⟩
  rw [seen]
  cases lit : display.pixel row column with
  | true =>
      rw [lit] at same
      have white : value = 255 := UInt8.toNat_inj.mp same
      simp [white]
  | false =>
      rw [lit] at same
      have black : value = 0 := UInt8.toNat_inj.mp same
      simp [black]

end Image

namespace Display

section Stretching

variable {Item : Type} {scale : Nat} (items : List Item)

theorem length_stretchBy : (stretchBy scale items).length = items.length * scale :=
  length_flatMap_of_uniform (fun _ => List.length_replicate) items

theorem getElem?_stretchBy (positive : 0 < scale) (place : Nat) :
    (stretchBy scale items)[place]? = items[place / scale]? := by
  rw [stretchBy,
    getElem?_flatMap_of_uniform (fun _ => List.length_replicate) positive]
  have inside : place % scale < scale := Nat.mod_lt place positive
  simp only [List.getElem?_replicate, if_pos inside, Option.bind_fun_some]

end Stretching

section Images

variable (display : Display)

/-- The image in which every pixel is a square of a side. -/
def magnified (side : Nat) : Image where
  width := displayWidth * side
  height := displayHeight * side
  rows := stretchBy side (display.grid.map fun row =>
    stretchBy side (row.map brightness))

/-- An image is either refused for its scale or the magnified display. -/
theorem image_eq (storage : Storage) (scale : Int) :
    display.image storage scale =
      match scaleRefusal? storage scale with
      | some fault => .error fault
      | none => .ok (display.magnified scale.toNat) := rfl

/-- Both the row and the pixel in it are found at the quotient by the side. -/
theorem brightnessAt_magnified {side : Nat} (row : Fin (32 * side))
    (column : Fin (64 * side)) :
    (display.magnified side).brightnessAt row column =
      some (brightness (display.pixel row.divNat column.divNat)) := by
  have positive : 0 < side :=
    Nat.pos_of_mul_pos_left (Nat.zero_lt_of_lt row.isLt)
  have line : display.grid[row.val / side]? =
      some (display.rowPixels row.divNat) :=
    display.getElem?_grid row.divNat
  have pixel : (display.rowPixels row.divNat)[column.val / side]? =
      some (display.pixel row.divNat column.divNat) :=
    display.getElem?_rowPixels row.divNat column.divNat
  rw [Image.brightnessAt, magnified, getElem?_stretchBy _ positive,
    List.getElem?_map, line, Option.map_some, Option.bind_some,
    getElem?_stretchBy _ positive, List.getElem?_map, pixel, Option.map_some]

theorem magnified_magnifies (side : Nat) :
    (display.magnified side).Magnifies side display where
  width := rfl
  height := rfl
  rows := by
    rw [magnified, length_stretchBy, List.length_map, length_grid]
    rfl
  columns := by
    intro row member
    rcases List.mem_flatMap.mp member with ⟨line, made, repeated⟩
    rcases List.mem_map.mp made with ⟨pixels, listed, rfl⟩
    rcases List.mem_map.mp listed with ⟨number, -, rfl⟩
    rw [List.eq_of_mem_replicate repeated, length_stretchBy, List.length_map,
      length_rowPixels]
    rfl
  brightness := by
    intro row column
    rw [brightnessAt_magnified, Option.map_some, toNat_brightness]

section Made

variable {storage : Storage} {scale : Int} {image : Image}

theorem image_eq_ok_iff :
    display.image storage scale = .ok image ↔
      (1 ≤ scale ∧ 64 * scale * (32 * scale) < 0x8000000000000000 ∧
        storage.Grants scale.toNat) ∧ image = display.magnified scale.toNat := by
  rw [image_eq]
  by_cases small : scale < 1
  · have refused : scaleRefusal? storage scale = some (.scaleTooSmall scale) :=
      if_pos small
    have below : ¬ 1 ≤ scale := Int.not_le.mpr small
    simp only [refused, reduceCtorEq, below, false_and]
  · have positive : 1 ≤ scale := Int.not_lt.mp small
    rw [← scaleRefusal?_eq_none_iff storage positive]
    cases refused : scaleRefusal? storage scale with
    | none => simp only [Except.ok.injEq, positive, true_and, eq_comm]
    | some fault => simp only [reduceCtorEq, and_false, false_and]

theorem exists_image_iff :
    (∃ image, display.image storage scale = .ok image) ↔
      1 ≤ scale ∧ 64 * scale * (32 * scale) < 0x8000000000000000 ∧
        storage.Grants scale.toNat := by
  simp only [image_eq_ok_iff, exists_and_left, exists_eq, and_true]

theorem image_eq_scaleTooSmall_iff :
    display.image storage scale = .error (.scaleTooSmall scale) ↔ scale < 1 := by
  rw [image_eq, ← scaleRefusal?_eq_scaleTooSmall_iff storage]
  cases scaleRefusal? storage scale with
  | none => simp only [reduceCtorEq]
  | some fault => rw [Except.error.injEq, Option.some.injEq]

theorem magnifies_of_image (made : display.image storage scale = .ok image) :
    image.Magnifies scale.toNat display := by
  rcases display.image_eq_ok_iff.mp made with ⟨-, rfl⟩
  exact display.magnified_magnifies scale.toNat

theorem sampled_of_image (made : display.image storage scale = .ok image) :
    image.sampled scale.toNat = display := by
  have positive := (display.image_eq_ok_iff.mp made).1.1
  exact (display.magnifies_of_image made).sampled_eq (by omega)

end Made

end Images

end Display

/-! ## Texts -/

namespace Text

/-- The lines of a text without their ends. -/
def lines (text : String) : List (List Char) :=
  text.toList.splitOn '\n'

/-- The cell in a column of a line, if all cells have the same width, or nothing
if there is no such line. -/
def cellAt (width : Nat) (text : String) (row column : Nat) : Option String :=
  (lines text)[row]?.map fun line =>
    String.ofList ((line.drop (column * width)).take width)

/-- A text shows a display in cells of two kinds. -/
structure Shows (text on off : String) (display : Display) : Prop where
  lines : (lines text).length = 32
  /-- Every line consists of 64 cells. -/
  columns : ∀ line ∈ Text.lines text, line.length = 64 * on.length
  lit : ∀ (row : Fin 32) (column : Fin 64),
    cellAt on.length text row column = some on ↔ display.pixel row column = true
  dark : ∀ (row : Fin 32) (column : Fin 64),
    cellAt on.length text row column = some off ↔
      display.pixel row column = false

end Text

namespace Display

/-- The display whose lit pixels are the cells of one kind in a text. -/
def ofText (on text : String) : Display :=
  ofPixels fun row column => Text.cellAt on.length text row column == some on

theorem ofText_of_shows {text on off : String} {display : Display}
    (shows : Text.Shows text on off display) : ofText on text = display := by
  ext row column
  rw [ofText, pixel_ofPixels, Bool.eq_iff_iff, beq_iff_eq]
  exact shows.lit row column

section Texts

variable (display : Display) {on off : String}

/-- The characters of the cell of a pixel. -/
def cellChars (on off : String) (lit : Bool) : List Char :=
  (if lit then on else off).toList

/-- The characters of a line. -/
def lineChars (on off : String) (row : List Bool) : List Char :=
  row.flatMap (cellChars on off)

theorem length_cellChars (sameWidth : on.length = off.length) (lit : Bool) :
    (cellChars on off lit).length = on.length := by
  cases lit with
  | true => exact String.length_toList
  | false => exact String.length_toList.trans sameWidth.symm

theorem toList_text :
    (display.text on off).toList =
      ['\n'].intercalate (display.grid.map (lineChars on off)) := by
  have line (row : List Bool) :
      (String.join (row.map fun lit => if lit then on else off)).toList =
        lineChars on off row := by
    rw [String.toList_join, List.flatMap_map]
    rfl
  have ending : "\n".toList = ['\n'] := rfl
  rw [text, String.toList_intercalate, ending, List.map_map]
  exact congrArg _ (List.map_congr_left fun row _ => line row)

/-- No cell ends a line, so the lines are the rows. -/
theorem lines_text (onSolid : '\n' ∉ on.toList) (offSolid : '\n' ∉ off.toList) :
    Text.lines (display.text on off) = display.grid.map (lineChars on off) := by
  rw [Text.lines, toList_text]
  apply List.splitOn_intercalate
  · intro line member broken
    rcases List.mem_map.mp member with ⟨row, -, rfl⟩
    rcases List.mem_flatMap.mp broken with ⟨lit, -, inCell⟩
    cases lit with
    | true => exact onSolid inCell
    | false => exact offSolid inCell
  · intro empty
    have count := congrArg List.length empty
    rw [List.length_map, length_grid] at count
    exact absurd count (by decide)

theorem cellAt_text (sameWidth : on.length = off.length) (onSolid : '\n' ∉ on.toList)
    (offSolid : '\n' ∉ off.toList) (row : Fin 32) (column : Fin 64) :
    Text.cellAt on.length (display.text on off) row column =
      some (if display.pixel row column then on else off) := by
  rw [Text.cellAt, lines_text display onSolid offSolid, List.getElem?_map,
    getElem?_grid, Option.map_some, Option.map_some, lineChars,
    take_drop_flatMap_of_uniform (length_cellChars sameWidth)
      (display.getElem?_rowPixels row column), cellChars, String.ofList_toList]

theorem text_shows (distinct : on ≠ off) (sameWidth : on.length = off.length)
    (onSolid : '\n' ∉ on.toList) (offSolid : '\n' ∉ off.toList) :
    Text.Shows (display.text on off) on off display where
  lines := by
    rw [lines_text display onSolid offSolid, List.length_map, length_grid]
  columns := by
    rw [lines_text display onSolid offSolid]
    intro line member
    rcases List.mem_map.mp member with ⟨pixels, listed, rfl⟩
    rcases List.mem_map.mp listed with ⟨number, -, rfl⟩
    rw [lineChars, length_flatMap_of_uniform (length_cellChars sameWidth),
      length_rowPixels]
  lit := by
    intro row column
    rw [cellAt_text display sameWidth onSolid offSolid]
    cases display.pixel row column <;> simp [distinct.symm]
  dark := by
    intro row column
    rw [cellAt_text display sameWidth onSolid offSolid]
    cases display.pixel row column <;> simp [distinct]

end Texts

/-! ## Both exports -/

/-- Whatever the system grants, only a scale below one is refused as too small.
There is an image exactly if the scale is at least one, 64 bits with a sign hold the
number of its bytes, and the system grants what it takes, and then it shows the
display in squares with that side.  A text shows it in cells, if these differ, are
equally long, so that none is empty, and do not break lines.  What is seen in an
image at one pixel of every square, and what is seen in a text, is the display
itself, so an image and a text show the same exactly if they were made from the same
display. -/
theorem exports_show_display :
    (∀ (storage : Storage) (display : Display) (scale : Int),
      (display.image storage scale = .error (.scaleTooSmall scale) ↔ scale < 1) ∧
      ((∃ image, display.image storage scale = .ok image) ↔
        1 ≤ scale ∧ 64 * scale * (32 * scale) < 0x8000000000000000 ∧
          storage.Grants scale.toNat) ∧
      ∀ image, display.image storage scale = .ok image →
        image.Magnifies scale.toNat display ∧
          image.sampled scale.toNat = display) ∧
    (∀ (display : Display) (on off : String), on ≠ off →
      on.length = off.length → '\n' ∉ on.toList → '\n' ∉ off.toList →
      Text.Shows (display.text on off) on off display ∧
        ofText on (display.text on off) = display) ∧
    (∀ (storage : Storage) (first second : Display) (scale : Int) (image : Image)
        (on off : String),
      first.image storage scale = .ok image → on ≠ off → on.length = off.length →
      '\n' ∉ on.toList → '\n' ∉ off.toList →
      (image.sampled scale.toNat = ofText on (second.text on off) ↔
        first = second)) := by
  refine ⟨?_, ?_, ?_⟩
  · intro storage display scale
    refine ⟨display.image_eq_scaleTooSmall_iff, ?_, ?_⟩
    · exact display.exists_image_iff
    · intro image made
      exact ⟨display.magnifies_of_image made, display.sampled_of_image made⟩
  · intro display on off distinct sameWidth onSolid offSolid
    have shows := display.text_shows distinct sameWidth onSolid offSolid
    exact ⟨shows, ofText_of_shows shows⟩
  · intro storage first second scale image on off made distinct sameWidth onSolid
      offSolid
    rw [first.sampled_of_image made,
      ofText_of_shows (second.text_shows distinct sameWidth onSolid offSolid)]

/-- A display with a line of pixels from its top left corner down to the bottom
edge. -/
def diagonal : Display :=
  ofPixels fun row column => row.val == column.val

/-- Three times the pixels are enough room for an image, and a byte less is not.  The
line is seen in squares of nine pixels, and also in cells each of which is the other
one read backwards.  A blank display is told from it, and squares without pixels are
refused. -/
theorem diagonal_exported :
    diagonal.image (.upTo 55296) 0 = .error (.scaleTooSmall 0) ∧
      (¬ ∃ image, diagonal.image (.upTo 55295) 3 = .ok image) ∧
      ∃ image, diagonal.image (.upTo 55296) 3 = .ok image ∧
        (image.brightnessAt 95 95).map UInt8.toNat = some 255 ∧
        (image.brightnessAt 95 96).map UInt8.toNat = some 0 ∧
        Text.cellAt 2 (diagonal.text "ab" "ba") 31 31 = some "ab" ∧
        Text.cellAt 2 (diagonal.text "ab" "ba") 31 32 = some "ba" ∧
        image.sampled 3 = ofText "ab" (diagonal.text "ab" "ba") ∧
        image.sampled 3 ≠ ofText "ab" (blank.text "ab" "ba") := by
  rcases exports_show_display with ⟨images, texts, both⟩
  rcases images (.upTo 55296) diagonal 0 with ⟨small, -, -⟩
  rcases images (.upTo 55295) diagonal 3 with ⟨-, tight, -⟩
  rcases images (.upTo 55296) diagonal 3 with ⟨-, made, shown⟩
  have enough : (Storage.upTo 55296).Grants 3 :=
    Storage.upTo_grants (by decide) (by decide)
  rcases made.mpr ⟨by decide, by decide, enough⟩ with ⟨image, success⟩
  rcases texts diagonal "ab" "ba" (by decide) (by decide) (by decide)
    (by decide) with ⟨shows, -⟩
  have agree (second : Display) := both _ diagonal second 3 image "ab" "ba" success
    (by decide) (by decide) (by decide) (by decide)
  have magnifies : image.Magnifies 3 diagonal := (shown image success).1
  have on : diagonal.pixel 31 31 = true := pixel_ofPixels _ 31 31
  have off : diagonal.pixel 31 32 = false := pixel_ofPixels _ 31 32
  have line : (95 : Fin (32 * 3)).divNat = 31 := by decide
  have under : (95 : Fin (64 * 3)).divNat = 31 := by decide
  have beside : (96 : Fin (64 * 3)).divNat = 32 := by decide
  refine ⟨small.mpr (by decide), ?_, image, success, ?_, ?_,
    (shows.lit 31 31).mpr on, (shows.dark 31 32).mpr off,
    (agree diagonal).mpr rfl, ?_⟩
  · intro possible
    exact absurd (tight.mp possible).2.2.copy (by decide)
  · have white := magnifies.brightness 95 95
    rw [line, under, on] at white
    exact white
  · have black := magnifies.brightness 95 96
    rw [line, beside, off] at black
    exact black
  · intro same
    have equal := (agree blank).mp same
    rw [equal, pixel_blank] at on
    contradiction

/-- At this scale 64 bits with a sign cannot even hold the number of the rows, and
what they hold in its place is negative.  So there is no image, whatever the system
grants. -/
theorem boundless_scale_refused :
    (1 : Int) ≤ 288230376151711745 ∧
      ∀ storage, blank.image storage 288230376151711745 =
          .error .negativeExtent ∧
        ¬ ∃ image, blank.image storage 288230376151711745 = .ok image := by
  refine ⟨by decide, fun storage => ?_⟩
  have refused : scaleRefusal? storage 288230376151711745 =
      some .negativeExtent := rfl
  have failed : blank.image storage 288230376151711745 =
      .error .negativeExtent := by
    rw [image_eq, refused]
  refine ⟨failed, ?_⟩
  rintro ⟨image, made⟩
  rw [failed] at made
  contradiction

end Display

end ChipEight
