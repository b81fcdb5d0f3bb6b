import ChipEight.Cell

namespace ChipEight

/-!
# Memory

Memory is a map from 4096 addresses to bytes.  Every access names the address
and the number of bytes that it covers, and is refused unless all of them are
in memory, so nothing wraps around and nothing is cut off.  The view of a
memory is `byteAt`; each operation is described by what it does to that view.
-/

/-- The number of addresses. -/
def memorySize : Nat := 4096

/-- Where programs are loaded and started. -/
def programStart : Nat := 0x200

/-- The largest program that fits between its start and the end of memory. -/
def programLimit : Nat := 3584

/-- Where the font is kept. -/
def fontStart : Nat := 0x50

/-- The number of bytes of one glyph of the font. -/
def glyphSize : Nat := 5

/-- The glyphs of the sixteen hexadecimal digits, five rows each. -/
def font : List UInt8 :=
  [ 0xF0, 0x90, 0x90, 0x90, 0xF0,
    0x20, 0x60, 0x20, 0x20, 0x70,
    0xF0, 0x10, 0xF0, 0x80, 0xF0,
    0xF0, 0x10, 0xF0, 0x10, 0xF0,
    0x90, 0x90, 0xF0, 0x10, 0x10,
    0xF0, 0x80, 0xF0, 0x10, 0xF0,
    0xF0, 0x80, 0xF0, 0x90, 0xF0,
    0xF0, 0x10, 0x20, 0x40, 0x40,
    0xF0, 0x90, 0xF0, 0x90, 0xF0,
    0xF0, 0x90, 0xF0, 0x10, 0xF0,
    0xF0, 0x90, 0xF0, 0x90, 0x90,
    0xE0, 0x90, 0xE0, 0x90, 0xE0,
    0xF0, 0x80, 0x80, 0x80, 0xF0,
    0xE0, 0x90, 0x90, 0x90, 0xE0,
    0xF0, 0x80, 0xF0, 0x80, 0xF0,
    0xF0, 0x80, 0xF0, 0x80, 0x80 ]

/-- The bytes of the whole address space. -/
structure Memory where
  bytes : Vector UInt8 4096

namespace Memory

/-- The span of `length` bytes at `address` lies in memory. -/
def Spans (address length : Int) : Prop :=
  0 ≤ address ∧ 0 ≤ length ∧ address + length ≤ memorySize

instance (address length : Int) : Decidable (Spans address length) :=
  inferInstanceAs (Decidable (_ ∧ _ ∧ _))

/-- The byte at an address, and zero where there is none. -/
def byteAt (memory : Memory) (address : Nat) : UInt8 :=
  memory.bytes[address]?.getD 0

/-- Put a byte at an address, if there is one. -/
def set (memory : Memory) (address : Nat) (byte : UInt8) : Memory :=
  ⟨memory.bytes.setIfInBounds address byte⟩

/-- Put consecutive bytes at consecutive addresses. -/
def overlay (memory : Memory) (address : Nat) : List UInt8 → Memory
  | [] => memory
  | byte :: rest => (memory.set address byte).overlay (address + 1) rest

/-- The `length` bytes at `address`. -/
def slice (memory : Memory) (address length : Nat) : List UInt8 :=
  (List.range length).map fun offset => memory.byteAt (address + offset)

/-- A memory of zeros. -/
def zero : Memory :=
  ⟨Vector.replicate 4096 0⟩

/-- A memory that holds the font and nothing else. -/
def blank : Memory :=
  zero.overlay fontStart font

end Memory

/-! ## Blocks for the host -/

/-- Bytes that are handed out.  A view shows a part of memory as it is at the time
of looking.  A copy consists of bytes of its own. -/
inductive Excerpt where
  | view (address length : Nat)
  | copy (bytes : List UInt8)

/-- What is seen while memory is in a given state. -/
def Excerpt.shown (memory : Memory) : Excerpt → List UInt8
  | .view address length => memory.slice address length
  | .copy bytes => bytes

/-- A copy of what is seen. -/
def Excerpt.copied (excerpt : Excerpt) (memory : Memory) : Excerpt :=
  .copy (excerpt.shown memory)

namespace Memory

/-! ## Checked access -/

/-- Read one byte. -/
def read (memory : Memory) (address : Int) : Except Fault UInt8 :=
  if Spans address 1 then .ok (memory.byteAt address.toNat)
  else .error (.unmapped address 1)

/-- Read a word of two bytes, the high one first. -/
def readWord (memory : Memory) (address : Int) : Except Fault Nat :=
  if Spans address 2 then
    .ok (256 * (memory.byteAt address.toNat).toNat +
      (memory.byteAt (address.toNat + 1)).toNat)
  else .error (.unmapped address 2)

/-- Read a block of bytes.  It is cut out of memory, and copied for the host. -/
def excerpt (memory : Memory) (address length : Int) : Except Fault Excerpt :=
  if Spans address length then
    .ok ((Excerpt.view address.toNat length.toNat).copied memory)
  else .error (.unmapped address length)

/-- The bytes of a block that is read. -/
def readBlock (memory : Memory) (address length : Int) :
    Except Fault (List UInt8) :=
  (memory.excerpt address length).map fun block => block.shown memory

/-- Write the low eight bits of an integer. -/
def write (memory : Memory) (address value : Int) : Except Fault Memory :=
  if Spans address 1 then
    .ok (memory.set address.toNat (UInt8.ofNat (value % 256).toNat))
  else .error (.unmapped address 1)

/-- Write a block of bytes. -/
def writeBlock (memory : Memory) (address : Int) (block : List UInt8) :
    Except Fault Memory :=
  if Spans address block.length then
    .ok (memory.overlay address.toNat block)
  else .error (.unmapped address block.length)

/-- Write a block of integers, each of which has to be a byte.  The integers
are converted before the address is looked at. -/
def writeValues (memory : Memory) (address : Int) (values : List Int) :
    Except Fault Memory :=
  match bytesOf values with
  | .error fault => .error fault
  | .ok block => memory.writeBlock address block

/-- A block that is read shows the bytes that memory holds at that time. -/
theorem readBlock_eq (memory : Memory) (address length : Int) :
    memory.readBlock address length =
      if Spans address length then
        .ok (memory.slice address.toNat length.toNat)
      else .error (.unmapped address length) := by
  unfold readBlock excerpt
  split <;> rfl

/-! ## The view -/

theorem byteAt_set (memory : Memory) (address : Nat) (byte : UInt8)
    (other : Nat) :
    (memory.set address byte).byteAt other =
      if other = address ∧ address < memorySize then byte
      else memory.byteAt other := by
  unfold set byteAt memorySize
  simp only [Vector.getElem?_setIfInBounds]
  by_cases same : address = other
  · subst same
    by_cases inside : address < 4096 <;> simp [inside]
  · have different : ¬ other = address := fun equal => same equal.symm
    simp [same, different]

theorem byteAt_overlay (memory : Memory) (address : Nat) (block : List UInt8)
    (fits : address + block.length ≤ memorySize) (other : Nat) :
    (memory.overlay address block).byteAt other =
      if address ≤ other ∧ other < address + block.length then
        block[other - address]?.getD 0
      else memory.byteAt other := by
  induction block generalizing memory address with
  | nil =>
      have outside : ¬ (address ≤ other ∧ other < address + 0) := by omega
      rw [overlay, List.length_nil, if_neg outside]
  | cons byte rest ih =>
      simp only [List.length_cons] at fits
      have restFits : address + 1 + rest.length ≤ memorySize := by omega
      rw [overlay, ih _ _ restFits, byteAt_set]
      simp only [List.length_cons]
      by_cases first : other = address
      · subst first
        have later : ¬ (other + 1 ≤ other) := by omega
        have inside : other < memorySize := by omega
        simp [later, inside]
      · by_cases later : address + 1 ≤ other ∧
            other < address + 1 + rest.length
        · have whole : address ≤ other ∧
              other < address + (rest.length + 1) := by omega
          have shift : other - address = (other - (address + 1)) + 1 := by
            omega
          rw [if_pos later, if_pos whole, shift]
          simp
        · have outside : ¬ (address ≤ other ∧
              other < address + (rest.length + 1)) := by omega
          rw [if_neg later, if_neg outside]
          simp [first]

/-- The byte of a block that lies at an address, if the block reaches there. -/
def blockByte? (start : Int) (block : List UInt8) (address : Nat) :
    Option UInt8 :=
  if start ≤ address then block[(address - start).toNat]? else none

theorem blockByte?_eq_some_iff {start : Int} {block : List UInt8} {address : Nat}
    {byte : UInt8} :
    blockByte? start block address = some byte ↔
      ∃ offset : Nat, (address : Int) = start + offset ∧
        block[offset]? = some byte := by
  unfold blockByte?
  constructor
  · intro found
    split at found
    · exact ⟨(address - start).toNat, by omega, found⟩
    · contradiction
  · rintro ⟨offset, place, found⟩
    have reached : start ≤ address := by
      omega
    have distance : ((address : Int) - start).toNat = offset := by
      omega
    rw [if_pos reached, distance, found]

theorem blockByte?_nil (start : Int) (address : Nat) :
    blockByte? start [] address = none := by
  simp [blockByte?]

/-- A block that was stored covers its own addresses and no others. -/
theorem byteAt_overlay_block (memory : Memory) {start : Int}
    {block : List UInt8} (inside : Spans start block.length) (address : Nat) :
    (memory.overlay start.toNat block).byteAt address =
      (blockByte? start block address).getD (memory.byteAt address) := by
  rcases inside with ⟨natural, _, fits⟩
  rw [byteAt_overlay memory start.toNat block (by omega), blockByte?]
  by_cases reached : start ≤ address
  · have distance : ((address : Int) - start).toNat = address - start.toNat := by
      omega
    rw [if_pos reached, distance]
    by_cases covered : address < start.toNat + block.length
    · have offset : address - start.toNat < block.length := by
        omega
      rw [if_pos ⟨by omega, covered⟩, List.getElem?_eq_getElem offset]
      rfl
    · have offset : block.length ≤ address - start.toNat := by
        omega
      rw [if_neg fun both => covered both.2, List.getElem?_eq_none offset]
      rfl
  · rw [if_neg reached, if_neg fun both => reached (by omega)]
    rfl

@[simp] theorem byteAt_zero (address : Nat) : zero.byteAt address = 0 := by
  simp only [byteAt, zero, Vector.getElem?_replicate]
  split <;> rfl

@[simp] theorem length_slice (memory : Memory) (address length : Nat) :
    (memory.slice address length).length = length := by
  simp [slice]

theorem getElem?_slice (memory : Memory) (address length offset : Nat)
    (inside : offset < length) :
    (memory.slice address length)[offset]? =
      some (memory.byteAt (address + offset)) := by
  simp [slice, inside]

end Memory

end ChipEight
