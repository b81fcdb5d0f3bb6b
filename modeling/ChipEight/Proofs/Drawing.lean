import ChipEight.Proofs.Bounds
import ChipEight.Proofs.Superposition

namespace ChipEight

/-!
# Drawing, pixel by pixel

A drawing instruction reads its sprite from memory and its corner from two
registers, and all of this before it writes the flag, so the flag register may
be one of the two.  The law below gives every pixel that it leaves by the bit of
the sprite that lies over it.  Bits beyond the right or the bottom edge lie over
no pixel.  They are neither wrapped around nor moved, and a sprite that begins
beyond an edge leaves the display as it was.

The execution draws at natural coordinates.  It is therefore compared with the
drawing that a host may ask for at arbitrary ones, where sprites are cut to
their visible extent.
-/

namespace Display

/-- A sprite that is a slice of memory has, over a place, the bit of the byte
that lies as many addresses behind the first as the place lies rows below the
corner. -/
theorem covers_slice (memory : Memory) (x y start height row column : Nat) :
    covers x y (memory.slice start height) row column =
      if y ≤ row ∧ row < y + height ∧ x ≤ column ∧ column < x + 8 then
        (memory.byteAt (start + (row - y))).toNat.testBit (7 - (column - x))
      else false := by
  rw [Bool.eq_iff_iff, covers_eq_true_iff]
  constructor
  · rintro ⟨line, bit, byte, narrow, rfl, rfl, found, one⟩
    have inside : line < height := by
      have within := (List.getElem?_eq_some_iff.mp found).1
      rwa [Memory.length_slice] at within
    rw [Memory.getElem?_slice _ _ _ _ inside, Option.some.injEq] at found
    have near : y ≤ y + line ∧ y + line < y + height ∧ x ≤ x + bit ∧
        x + bit < x + 8 := by
      unfold spriteWidth at narrow
      omega
    rw [if_pos near, Nat.add_sub_cancel_left, Nat.add_sub_cancel_left, found]
    exact one
  · intro one
    split at one
    · rename_i near
      have inside : row - y < height := by
        omega
      refine ⟨row - y, column - x, memory.byteAt (start + (row - y)), ?_, by omega,
        by omega, memory.getElem?_slice _ _ _ inside, one⟩
      unfold spriteWidth
      omega
    · contradiction

end Display

namespace Machine

/-- The bit that the sprite of a drawing instruction has over a place. -/
def spriteBit (machine : Machine) (x y : Fin 16) (height row column : Nat) :
    Bool :=
  let left := (machine.registers.get x).toNat
  let top := (machine.registers.get y).toNat
  if top ≤ row ∧ row < top + height ∧ left ≤ column ∧ column < left + 8 then
    (machine.memory.byteAt (machine.index.toNat + (row - top))).toNat.testBit
      (7 - (column - left))
  else false

/-- Some bit of the sprite is over a pixel that is on. -/
def Overlaps (machine : Machine) (x y : Fin 16) (height : Nat) : Prop :=
  ∃ (row : Fin 32) (column : Fin 64),
    machine.display.pixel row column = true ∧
      machine.spriteBit x y height row column = true

/-- The second machine is left by a drawing that the first one makes.  Registers
and memory are read before anything is written. -/
structure Draws (machine : Machine) (x y : Fin 16) (height : Nat)
    (after : Machine) : Prop where
  pixel : ∀ (row : Fin 32) (column : Fin 64),
    after.display.pixel row column =
      (machine.display.pixel row column ^^
        machine.spriteBit x y height row column)
  collided : machine.Overlaps x y height →
    after.registers.get flagRegister = 1
  missed : ¬ machine.Overlaps x y height →
    after.registers.get flagRegister = 0
  /-- A sprite that begins beyond an edge draws nothing. -/
  beyond :
    64 ≤ (machine.registers.get x).toNat ∨ 32 ≤ (machine.registers.get y).toNat →
      after.display = machine.display ∧ after.registers.get flagRegister = 0
  /-- A host that draws the same bytes at the same place gets the same display
  and the same collision. -/
  asHost :
    machine.display.drawAt (machine.registers.get x).toNat
        (machine.registers.get y).toNat
        ((machine.memory.slice machine.index.toNat height).map
          fun byte => (byte.toNat : Int)) =
      .ok (after.display, after.registers.get flagRegister == 1)
  registers : ∀ register, register ≠ flagRegister →
    after.registers.get register = machine.registers.get register
  index : after.index = machine.index
  memory : after.memory = machine.memory
  drawings : after.tally.drawings = machine.tally.drawings + 1
  collisions : after.tally.collisions =
    machine.tally.collisions + (after.registers.get flagRegister).toNat

/-! ## One execution -/

section Executions

variable (machine : Machine) (x y : Fin 16) (height : Nat)

/-- The sprite at the index, with its corner where two registers say. -/
def stamp : Stamp where
  x := (machine.registers.get x).toNat
  y := (machine.registers.get y).toNat
  rows := machine.memory.slice machine.index.toNat height

theorem mask_stamp (row : Fin 32) (column : Fin 64) :
    (machine.stamp x y height).mask row column =
      machine.spriteBit x y height row column :=
  Display.covers_slice machine.memory _ _ _ _ _ _

theorem hits_stamp :
    machine.display.hits (machine.stamp x y height) = true ↔
      machine.Overlaps x y height := by
  rw [Display.hits, Display.collides, Display.anyPixel_eq_true, Overlaps]
  refine exists_congr fun row => exists_congr fun column => ?_
  rw [← mask_stamp, Bool.and_eq_true]
  rfl

/-- A place before the corner of the sprite is under none of its bits. -/
theorem spriteBit_of_before {row column : Nat}
    (before : row < (machine.registers.get y).toNat ∨
      column < (machine.registers.get x).toNat) :
    machine.spriteBit x y height row column = false := by
  unfold spriteBit
  exact if_neg (by omega)

/-- Painting the sprite of an instruction is a drawing. -/
theorem paint_draws :
    machine.Draws x y height
      (machine.paint ⟨machine.registers.get x, machine.registers.get y,
        machine.memory.slice machine.index.toNat height⟩) := by
  let after := machine.paint ⟨machine.registers.get x, machine.registers.get y,
    machine.memory.slice machine.index.toNat height⟩
  let hit := machine.display.hits (machine.stamp x y height)
  have flag : after.registers.get flagRegister = if hit then 1 else 0 :=
    machine.registers.get_set_same flagRegister _
  have pixel : ∀ (row : Fin 32) (column : Fin 64),
      after.display.pixel row column =
        (machine.display.pixel row column ^^
          machine.spriteBit x y height row column) := by
    intro row column
    rw [← mask_stamp]
    exact machine.display.pixel_put (machine.stamp x y height) row column
  have missed : ¬ machine.Overlaps x y height →
      after.registers.get flagRegister = 0 := by
    intro apart
    rw [← hits_stamp] at apart
    rw [flag, if_neg apart]
  constructor
  case pixel => exact pixel
  case collided =>
    intro overlap
    exact flag.trans (if_pos ((machine.hits_stamp x y height).mpr overlap))
  case missed => exact missed
  case beyond =>
    intro outside
    -- Every place of the display lies before such a corner.
    have uncovered : ∀ (row : Fin 32) (column : Fin 64),
        machine.spriteBit x y height row column = false := by
      intro row column
      apply spriteBit_of_before
      omega
    constructor
    · ext row column
      exact (pixel row column).trans (by rw [uncovered, Bool.xor_false])
    · apply missed
      rintro ⟨row, column, _, one⟩
      rw [uncovered] at one
      contradiction
  case asHost =>
    have told : (after.registers.get flagRegister == 1) = hit := by
      rw [flag]
      cases hit <;> rfl
    change _ = Except.ok (after.display, after.registers.get flagRegister == 1)
    rw [told]
    exact machine.display.drawAt_stamp (machine.stamp x y height)
  case registers =>
    intro register other
    exact machine.registers.get_set_other _ other
  case index => rfl
  case memory => rfl
  case drawings => rfl
  case collisions =>
    change machine.tally.collisions + (if hit then 1 else 0) =
      machine.tally.collisions + (after.registers.get flagRegister).toNat
    rw [flag]
    cases hit <;> rfl

theorem execute_draws (word : Int)
    (inside : Memory.Spans machine.index height) :
    let step := machine.execute ⟨word, .draw x.val y.val height⟩
    step.fault = none ∧ machine.Draws x y height step.machine := by
  intro step
  have drawn : step = _ := machine.drawSprite_register x y height
  rw [if_pos inside, Int.toNat_natCast] at drawn
  rw [drawn]
  exact ⟨rfl, machine.paint_draws x y height⟩

end Executions

/-! ## One cycle -/

section Cycles

variable {machine after : Machine} {x y : Fin 16} {height : Nat}

/-- The countdown and the fetch before an execution move no part that a drawing
reads or writes. -/
theorem Draws.of_advanced {now : Float}
    (draws : (machine.advanced now).Draws x y height after) :
    machine.Draws x y height after := by
  rw [advanced_eq] at draws
  exact { draws with }

/-- Nor does the count of the instruction behind it. -/
theorem Draws.counted (draws : machine.Draws x y height after) :
    machine.Draws x y height after.countInstruction :=
  { draws with }

end Cycles

/-- A drawing whose sprite lies in memory is accepted, as an instruction and as a
cycle that fetches it.  Every pixel becomes its exclusive or with the bit of the
sprite over it, the flag tells whether some pixel was turned off, and nothing else
of registers, index and memory changes. -/
theorem drawing_by_pixels {machine : Machine} (reachable : Reachable machine)
    (x y : Fin 16) (height : Nat) (inside : machine.index + height ≤ 4096) :
    (∀ word,
      let step := machine.execute ⟨word, .draw x.val y.val height⟩
      step.fault = none ∧ machine.Draws x y height step.machine) ∧
      ∀ now, machine.Fetches (.draw x.val y.val height) →
        (machine.cycle now).fault = none ∧
          machine.Draws x y height (machine.cycle now).machine := by
  have spans : Memory.Spans machine.index height :=
    ⟨reachable.bounded.index.1, Int.natCast_nonneg height, inside⟩
  refine ⟨fun word => machine.execute_draws x y height word spans, ?_⟩
  intro now fetches
  have sameIndex : (machine.advanced now).index = machine.index := by
    rw [advanced_eq]
  rcases (machine.advanced now).execute_draws x y height machine.word
    (sameIndex ▸ spans) with ⟨accepted, draws⟩
  have faultless : (machine.cycle now).fault = none :=
    (cycle_fault_of_fetches now fetches).trans accepted
  refine ⟨faultless, ?_⟩
  rw [cycle_machine_of_fetches now fetches, if_pos faultless]
  exact draws.of_advanced.counted

/-- A program that draws the glyph of zero across the right edge, with the flag
register as the column. -/
def edgeDrawer : Rom where
  bytes := [0x6F, 0x3E, 0xA0, 0x50, 0xDF, 0x05]
  nonempty := by decide
  fits := by decide

/-- That program when it is about to draw. -/
def edgeDrawerAtSprite : Machine :=
  (boot edgeDrawer .chipEight (.ofVariant .chipEight) 0 0).follow
    [.cycle 0, .cycle 0]

/-- The first row of the glyph reaches the last column, and nothing appears at the
left edge.  The flag register no longer holds the column. -/
theorem edgeDrawer_is_cut_off :
    Reachable edgeDrawerAtSprite ∧ edgeDrawerAtSprite.index + 5 ≤ 4096 ∧
      edgeDrawerAtSprite.Fetches (.draw 15 0 5) ∧
      let after := (edgeDrawerAtSprite.cycle 0).machine
      after.display.pixel 0 63 = true ∧ after.display.pixel 0 0 = false ∧
        after.registers.get flagRegister ≠ 0x3E := by
  have reachable : Reachable edgeDrawerAtSprite :=
    ⟨_, _, loaded_boot edgeDrawer .chipEight 0 0, rfl⟩
  have observed : edgeDrawerAtSprite.index + 5 ≤ 4096 ∧
      edgeDrawerAtSprite.Fetches (.draw 15 0 5) ∧
      (edgeDrawerAtSprite.display.pixel 0 63 ^^
        edgeDrawerAtSprite.spriteBit 15 0 5 0 63) = true ∧
      (edgeDrawerAtSprite.display.pixel 0 0 ^^
        edgeDrawerAtSprite.spriteBit 15 0 5 0 0) = false := by
    decide +kernel
  rcases observed with ⟨inside, fetches, last, leftmost⟩
  have draws := ((drawing_by_pixels reachable 15 0 5 inside).2 0 fetches).2
  refine ⟨reachable, inside, fetches, (draws.pixel 0 63).trans last,
    (draws.pixel 0 0).trans leftmost, ?_⟩
  by_cases overlap : edgeDrawerAtSprite.Overlaps 15 0 5
  · rw [draws.collided overlap]
    decide
  · rw [draws.missed overlap]
    decide

end Machine

end ChipEight
