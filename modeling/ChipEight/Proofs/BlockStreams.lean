import ChipEight.Proofs.MemoryHistory

namespace ChipEight

/-!
# Streams of register blocks

Storing and loading registers are inverse to each other, block by block.  With
the switch that moves the index behind each block, a list of blocks is laid out
one behind another, and loading the same list from the same start gives each
block back.  Without the switch all blocks begin at the same address, so each
byte is the one of the last block that reaches it.

Between two stores the registers may change in any way.  A block therefore comes
with the register file that it is taken from.  What is loaded is told by the
numbers of the last registers alone.
-/

/-- A block that is stored: the registers when it is, and the last one that
belongs to it. -/
structure Block where
  registers : Registers
  last : Fin 16

namespace Block

/-- The number of registers of a block. -/
def size (block : Block) : Nat :=
  block.last.val + 1

/-- The number of bytes that blocks take one behind another. -/
def extent : List Block → Nat
  | [] => 0
  | block :: rest => block.size + extent rest

/-- The contents of the registers of a block, in order. -/
def bytes (block : Block) : List UInt8 :=
  block.registers.leading block.size

@[simp] theorem length_bytes (block : Block) : block.bytes.length = block.size :=
  block.registers.length_leading block.last.isLt

theorem getElem?_bytes (block : Block) {register : Fin 16}
    (reached : register ≤ block.last) :
    block.bytes[register.val]? = some (block.registers.get register) := by
  have inside : register.val < block.size := Nat.lt_succ_of_le reached
  rw [bytes, Registers.getElem?_leading, if_pos inside]

theorem extent_append (first second : List Block) :
    extent (first ++ second) = extent first + extent second := by
  induction first with
  | nil => exact (Nat.zero_add _).symm
  | cons block rest inductionHypothesis =>
      rw [List.cons_append, extent, extent, inductionHypothesis, Nat.add_assoc]

theorem length_flatMap_bytes (blocks : List Block) :
    (blocks.flatMap bytes).length = extent blocks := by
  induction blocks with
  | nil => rfl
  | cons block rest inductionHypothesis =>
      rw [List.flatMap_cons, List.length_append, length_bytes, extent,
        inductionHypothesis]

/-- A block begins behind those that precede it. -/
theorem getElem?_flatMap_bytes (earlier later : List Block) (block : Block)
    {register : Fin 16} (reached : register ≤ block.last) :
    ((earlier ++ block :: later).flatMap bytes)[extent earlier + register.val]? =
      some (block.registers.get register) := by
  have inside : register.val < block.bytes.length := by
    rw [length_bytes]
    exact Nat.lt_succ_of_le reached
  rw [List.flatMap_append, List.flatMap_cons, ← length_flatMap_bytes earlier,
    List.getElem?_append_right (Nat.le_add_right _ _), Nat.add_sub_cancel_left,
    List.getElem?_append_left inside]
  exact block.getElem?_bytes reached

end Block

namespace Instruction

/-- The instruction that stores the registers up to a given one. -/
def storing (last : Fin 16) : Instruction where
  word := 0xF055 + 256 * last.val
  operation := .storeRegisters last.val

/-- The instruction that loads the registers up to a given one. -/
def loading (last : Fin 16) : Instruction where
  word := 0xF065 + 256 * last.val
  operation := .loadRegisters last.val

end Instruction

namespace Memory

/-- Two blocks that are stored one behind the other are stored as one. -/
theorem overlay_append (memory : Memory) (start : Nat) (first second : List UInt8) :
    memory.overlay start (first ++ second) =
      (memory.overlay start first).overlay (start + first.length) second := by
  induction first generalizing memory start with
  | nil => rfl
  | cons byte rest inductionHypothesis =>
      rw [List.cons_append, overlay, inductionHypothesis, overlay,
        List.length_cons, Nat.add_assoc, Nat.add_comm 1]

/-- A byte of a stored block lies as far behind the start as in the block. -/
theorem byteAt_overlay_of_found (memory : Memory) {start offset : Nat}
    {block : List UInt8} {byte : UInt8}
    (fits : start + block.length ≤ memorySize)
    (found : block[offset]? = some byte) :
    (memory.overlay start block).byteAt (start + offset) = byte := by
  have inside : offset < block.length := (List.getElem?_eq_some_iff.mp found).1
  rw [byteAt_overlay memory start block fits, if_pos (by omega),
    Nat.add_sub_cancel_left, found]
  rfl

/-- Store blocks at one address, each over those before it. -/
def overlayAll (memory : Memory) (start : Nat) (blocks : List Block) : Memory :=
  blocks.foldl (fun stored block => stored.overlay start block.bytes) memory

/-- A byte that no block reaches stays. -/
theorem byteAt_overlayAll_of_short (memory : Memory) {start : Nat}
    {blocks : List Block} {register : Fin 16}
    (fits : ∀ block ∈ blocks, start + block.size ≤ memorySize)
    (short : ∀ block ∈ blocks, block.last < register) :
    (memory.overlayAll start blocks).byteAt (start + register.val) =
      memory.byteAt (start + register.val) := by
  induction blocks generalizing memory with
  | nil => rfl
  | cons block rest inductionHypothesis =>
      have blockFits := fits block List.mem_cons_self
      have beyond : ¬ start + register.val < start + block.bytes.length := by
        have blockShort : block.last.val < register.val :=
          short block List.mem_cons_self
        rw [Block.length_bytes]
        unfold Block.size
        omega
      have later := inductionHypothesis (memory.overlay start block.bytes)
        (fun other present => fits other (List.mem_cons_of_mem block present))
        (fun other present => short other (List.mem_cons_of_mem block present))
      refine later.trans ?_
      rw [byteAt_overlay memory start block.bytes (by rwa [Block.length_bytes]),
        if_neg fun both => beyond both.2]

/-- A byte is the one of the last block that reaches it. -/
theorem byteAt_overlayAll_of_last (memory : Memory) {start : Nat}
    {earlier later : List Block} {block : Block} {register : Fin 16}
    (fits : ∀ other ∈ earlier ++ block :: later, start + other.size ≤ memorySize)
    (reached : register ≤ block.last)
    (short : ∀ other ∈ later, other.last < register) :
    (memory.overlayAll start (earlier ++ block :: later)).byteAt
        (start + register.val) = block.registers.get register := by
  have laterFits : ∀ other ∈ later, start + other.size ≤ memorySize :=
    fun other present => fits other
      (List.mem_append_right earlier (List.mem_cons_of_mem block present))
  have blockFits : start + block.bytes.length ≤ memorySize := by
    rw [Block.length_bytes]
    exact fits block (List.mem_append_right earlier List.mem_cons_self)
  rw [overlayAll, List.foldl_append, List.foldl_cons]
  exact (byteAt_overlayAll_of_short _ laterFits short).trans
    (byteAt_overlay_of_found _ blockFits (block.getElem?_bytes reached))

end Memory

namespace Registers

/-- Loading leading registers from memory gives each the byte that many places
on, and leaves the registers behind them. -/
theorem get_overlay_slice (registers : Registers) (memory : Memory)
    (start count : Nat) (register : Fin 16) :
    (registers.overlay 0 (memory.slice start count)).get register =
      if register.val < count then memory.byteAt (start + register.val)
      else registers.get register := by
  rw [get_overlay, Memory.length_slice]
  by_cases loaded : register.val < count
  · rw [if_pos loaded, if_pos ⟨Nat.zero_le _, by omega⟩, Nat.sub_zero,
      memory.getElem?_slice _ _ _ loaded]
    rfl
  · rw [if_neg loaded, if_neg (by omega)]

/-- Register files with the same contents are the same. -/
theorem ext_get {first second : Registers}
    (same : ∀ register, first.get register = second.get register) :
    first = second := by
  cases first with
  | mk firstCells =>
  cases second with
  | mk secondCells =>
  congr 1
  apply Vector.ext
  intro register inside
  exact same ⟨register, inside⟩

end Registers

namespace Machine

/-- Execute an instruction that has to be accepted. -/
def carryOut (machine : Machine) (instruction : Instruction) :
    Except Fault Machine :=
  let step := machine.execute instruction
  match step.fault with
  | none => .ok step.machine
  | some fault => .error fault

/-- Store a block from the registers that belong to it. -/
def save (machine : Machine) (block : Block) : Except Fault Machine :=
  { machine with registers := block.registers }.carryOut (.storing block.last)

/-- Store blocks in order. -/
def saveAll (machine : Machine) (blocks : List Block) : Except Fault Machine :=
  blocks.foldlM save machine

/-- Load the registers up to a given one. -/
def restore (machine : Machine) (last : Fin 16) : Except Fault Machine :=
  machine.carryOut (.loading last)

/-- Load blocks in order. -/
def restoreAll (machine : Machine) (lasts : List (Fin 16)) :
    Except Fault Machine :=
  lasts.foldlM restore machine

/-! ## One block -/

section Steps

variable (machine : Machine)

/-- The index behind a block of some size at the index. -/
def indexBehind (size : Nat) : Int :=
  if machine.behaviour.memory.isOn then machine.index + size else machine.index

theorem passBlock_eq {size : Nat} (inside : Memory.Spans machine.index size) :
    machine.passBlock ((size : Int) - 1) =
      { machine with index := machine.indexBehind size } := by
  rcases inside with ⟨natural, _, fits⟩
  unfold memorySize at fits
  unfold passBlock indexBehind lowDouble
  by_cases passes : machine.behaviour.memory.isOn = true
  · have behind : (machine.index + ((size : Int) - 1) + 1) % 65536 =
        machine.index + size := by
      rw [Int.add_assoc, Int.sub_add_cancel]
      exact Int.emod_eq_of_lt (by omega) (by omega)
    rw [if_pos passes, if_pos passes, behind]
  · rw [if_neg passes, if_neg passes]

/-- An instruction that is an attempt is carried out if the attempt succeeds. -/
theorem carryOut_of_attempt {instruction : Instruction}
    {result : Except Fault Machine}
    (executed : machine.execute instruction = .attempt machine result) :
    machine.carryOut instruction = result := by
  simp only [carryOut, executed]
  cases result with
  | ok after => rfl
  | error fault => rfl

theorem save_eq {block : Block}
    (inside : Memory.Spans machine.index block.size) :
    machine.save block =
      .ok { machine with
        registers := block.registers
        memory := machine.memory.overlay machine.index.toNat block.bytes
        index := machine.indexBehind block.size } := by
  let before : Machine := { machine with registers := block.registers }
  let stored : Machine :=
    { before with
      memory := machine.memory.overlay machine.index.toNat block.bytes }
  have last : (block.last.val : Int) = (block.size : Int) - 1 :=
    (Int.add_sub_cancel _ 1).symm
  have accepted : before.storeRegisters block.last.val =
      .ok (stored.passBlock block.last.val) :=
    (before.storeRegisters_register block.last).trans (if_pos inside)
  have saved : machine.save block = .ok (stored.passBlock block.last.val) :=
    (before.carryOut_of_attempt rfl).trans accepted
  rw [saved, last, passBlock_eq stored inside]
  rfl

theorem restore_eq {last : Fin 16} {size : Nat} (length : size = last.val + 1)
    (inside : Memory.Spans machine.index size) :
    machine.restore last =
      .ok { machine with
        registers := machine.registers.overlay 0
          (machine.memory.slice machine.index.toNat size)
        index := machine.indexBehind size } := by
  subst length
  let loaded : Machine :=
    { machine with
      registers := machine.registers.overlay 0
        (machine.memory.slice machine.index.toNat (last.val + 1)) }
  have number : (last.val : Int) = ((last.val + 1 : Nat) : Int) - 1 :=
    (Int.add_sub_cancel _ 1).symm
  have accepted : machine.loadRegisters last.val =
      .ok (loaded.passBlock last.val) :=
    (machine.loadRegisters_register last).trans (if_pos inside)
  have restored : machine.restore last = .ok (loaded.passBlock last.val) :=
    (machine.carryOut_of_attempt rfl).trans accepted
  rw [restored, number, passBlock_eq loaded inside]
  rfl

/-- Loading a block that lies at the index gives its registers back, and leaves
those behind it. -/
theorem restore_block {block : Block}
    (inside : Memory.Spans machine.index block.size)
    (lies : ∀ register ≤ block.last,
      machine.memory.byteAt (machine.index.toNat + register.val) =
        block.registers.get register) :
    ∃ after, machine.restore block.last = .ok after ∧
      (∀ register ≤ block.last,
        after.registers.get register = block.registers.get register) ∧
      (∀ register, block.last < register →
        after.registers.get register = machine.registers.get register) ∧
      after.index = machine.indexBehind block.size := by
  refine ⟨_, machine.restore_eq rfl inside, ?_, ?_, rfl⟩
  · intro register reached
    have within : register.val < block.size := Nat.lt_succ_of_le reached
    exact (Registers.get_overlay_slice ..).trans
      ((if_pos within).trans (lies register reached))
  · intro register behind
    have without : ¬ register.val < block.size := Nat.not_lt.mpr behind
    exact (Registers.get_overlay_slice ..).trans (if_neg without)

/-- Loading blocks in order moves the index behind all of them, or not at all. -/
theorem restoreAll_eq (blocks : List Block) (natural : 0 ≤ machine.index)
    (fits : machine.index + Block.extent blocks ≤ 4096) :
    ∃ registers, machine.restoreAll (blocks.map Block.last) =
      .ok { machine with
        registers := registers
        index := machine.indexBehind (Block.extent blocks) } := by
  induction blocks generalizing machine with
  | nil =>
      have unmoved : machine.indexBehind 0 = machine.index := by
        rw [indexBehind, Int.natCast_zero, Int.add_zero, ite_self]
      rw [Block.extent, unmoved]
      exact ⟨machine.registers, rfl⟩
  | cons block rest inductionHypothesis =>
      rw [Block.extent, Int.natCast_add] at fits
      have inside : Memory.Spans machine.index block.size :=
        ⟨natural, Int.natCast_nonneg _, by unfold memorySize; omega⟩
      let loaded : Machine :=
        { machine with
          registers := machine.registers.overlay 0
            (machine.memory.slice machine.index.toNat block.size)
          index := machine.indexBehind block.size }
      have restored : machine.restore block.last = .ok loaded :=
        machine.restore_eq rfl inside
      have moved : 0 ≤ loaded.index ∧
          loaded.index + Block.extent rest ≤ 4096 ∧
            loaded.indexBehind (Block.extent rest) =
              machine.indexBehind (block.size + Block.extent rest) := by
        simp only [loaded, indexBehind]
        split <;> omega
      rcases inductionHypothesis loaded moved.1 moved.2.1 with ⟨registers, restoredRest⟩
      rw [moved.2.2] at restoredRest
      refine ⟨registers, ?_⟩
      rw [restoreAll, List.map_cons, List.foldlM_cons, restored, Block.extent]
      exact restoredRest

end Steps

/-! ## Blocks one behind another -/

section Passing

variable (machine : Machine)
  (passes : machine.behaviour.memory.isOn = true)

include passes

theorem indexBehind_of_passing (size : Nat) :
    machine.indexBehind size = machine.index + size :=
  if_pos passes

/-- Storing blocks one behind another stores all their bytes as one block. -/
theorem saveAll_of_passing (blocks : List Block) (natural : 0 ≤ machine.index)
    (fits : machine.index + Block.extent blocks ≤ 4096) :
    ∃ registers, machine.saveAll blocks =
      .ok { machine with
        registers := registers
        memory := machine.memory.overlay machine.index.toNat
          (blocks.flatMap Block.bytes)
        index := machine.index + Block.extent blocks } := by
  induction blocks generalizing machine with
  | nil =>
      refine ⟨machine.registers, ?_⟩
      rw [Block.extent, Int.natCast_zero, Int.add_zero]
      rfl
  | cons block rest inductionHypothesis =>
      rw [Block.extent, Int.natCast_add] at fits
      have inside : Memory.Spans machine.index block.size :=
        ⟨natural, Int.natCast_nonneg _, by unfold memorySize; omega⟩
      have saved := machine.save_eq inside
      rw [machine.indexBehind_of_passing passes] at saved
      -- The rest begins where the block ends, so together they are one overlay.
      have behind : (machine.index + block.size).toNat =
          machine.index.toNat + block.bytes.length := by
        rw [Block.length_bytes]
        omega
      rcases inductionHypothesis
          { machine with
            registers := block.registers
            memory := machine.memory.overlay machine.index.toNat block.bytes
            index := machine.index + block.size }
          passes (Int.add_nonneg natural (Int.natCast_nonneg _))
          (by simp only; omega) with ⟨registers, savedRest⟩
      refine ⟨registers, ?_⟩
      rw [saveAll, List.foldlM_cons, saved]
      refine savedRest.trans ?_
      simp only [behind, List.flatMap_cons, Memory.overlay_append,
        Block.extent, Int.natCast_add, Int.add_assoc]

end Passing

/-! ## Blocks at one address -/

section Staying

variable (machine : Machine)
  (stays : machine.behaviour.memory.isOn = false)

include stays

theorem indexBehind_of_staying (size : Nat) :
    machine.indexBehind size = machine.index :=
  if_neg (Bool.eq_false_iff.mp stays)

theorem saveAll_of_staying (blocks : List Block)
    (inside : ∀ block ∈ blocks, Memory.Spans machine.index block.size) :
    ∃ registers, machine.saveAll blocks =
      .ok { machine with
        registers := registers
        memory := machine.memory.overlayAll machine.index.toNat blocks } := by
  induction blocks generalizing machine with
  | nil => exact ⟨machine.registers, rfl⟩
  | cons block rest inductionHypothesis =>
      have saved := machine.save_eq (inside block List.mem_cons_self)
      rw [machine.indexBehind_of_staying stays] at saved
      rcases inductionHypothesis
          { machine with
            registers := block.registers
            memory := machine.memory.overlay machine.index.toNat block.bytes }
          stays fun other present =>
            inside other (List.mem_cons_of_mem block present) with
        ⟨registers, savedRest⟩
      refine ⟨registers, ?_⟩
      rw [saveAll, List.foldlM_cons, saved]
      exact savedRest

end Staying

/-! ## The two behaviours -/

/-- Blocks are stored one behind another, from an index on, and are loaded again
from there. -/
structure Streams (machine : Machine) (blocks : List Block) (stored : Machine) :
    Prop where
  saved : machine.saveAll blocks = .ok stored
  index : stored.index = machine.index + Block.extent blocks
  /-- Memory changes only between the two indices. -/
  frame : ∀ address : Nat, address < machine.index ∨ stored.index ≤ address →
    stored.memory.byteAt address = machine.memory.byteAt address
  /-- Whatever the registers are before the first load, each load gives those of
  its block back and leaves the ones behind them. -/
  restored : ∀ registers earlier block later,
    blocks = earlier ++ block :: later →
      ∃ before after,
        { stored with
            index := machine.index
            registers := registers }.restoreAll (earlier.map Block.last) =
          .ok before ∧
          before.restore block.last = .ok after ∧
          (∀ register ≤ block.last,
            after.registers.get register = block.registers.get register) ∧
          ∀ register, block.last < register →
            after.registers.get register = before.registers.get register
  passed : ∀ registers, ∃ final,
    { stored with
        index := machine.index
        registers := registers }.restoreAll (blocks.map Block.last) =
      .ok final ∧ final.index = stored.index

/-- Blocks are stored at one index, each over those before it. -/
structure Stacks (machine : Machine) (blocks : List Block) (stored : Machine) :
    Prop where
  saved : machine.saveAll blocks = .ok stored
  index : stored.index = machine.index
  /-- A byte is the one of the last block that reaches it. -/
  byteAt : ∀ (register : Fin 16) earlier block later,
    blocks = earlier ++ block :: later → register ≤ block.last →
      (∀ other ∈ later, other.last < register) →
        stored.memory.byteAt (machine.index.toNat + register.val) =
          block.registers.get register
  /-- A load that follows the store of its block leaves the registers as they
  were, and neither of the two moves the index. -/
  undone : ∀ earlier block later, blocks = earlier ++ block :: later →
    ∃ before kept loaded, machine.saveAll earlier = .ok before ∧
      before.save block = .ok kept ∧ kept.restore block.last = .ok loaded ∧
      before.index = machine.index ∧ kept.index = machine.index ∧
      loaded.index = machine.index ∧ loaded.registers = block.registers
  unmoved : ∃ final, stored.restoreAll (blocks.map Block.last) = .ok final ∧
    final.index = machine.index

section Behaviours

variable (machine : Machine) (blocks : List Block)
  (natural : 0 ≤ machine.index)
  (fits : machine.index + Block.extent blocks ≤ 4096)

include natural fits

/-- All bytes together fit behind the index. -/
theorem bytes_fit :
    machine.index.toNat + (blocks.flatMap Block.bytes).length ≤ memorySize := by
  rw [Block.length_flatMap_bytes]
  unfold memorySize
  omega

theorem streams_of_passing (passes : machine.behaviour.memory.isOn = true) :
    ∃ stored, machine.Streams blocks stored := by
  have whole := machine.bytes_fit blocks natural fits
  rcases machine.saveAll_of_passing passes blocks natural fits with ⟨_, saved⟩
  refine ⟨_, saved, rfl, ?frame, ?restored, ?passed⟩
  case frame =>
    intro address outside
    have uncovered : ¬ (machine.index.toNat ≤ address ∧
        address < machine.index.toNat + (blocks.flatMap Block.bytes).length) := by
      rw [Block.length_flatMap_bytes]
      simp only at outside
      omega
    exact (machine.memory.byteAt_overlay _ _ whole address).trans
      (if_neg uncovered)
  case restored =>
    rintro registers earlier block later rfl
    rw [Block.extent_append, Block.extent] at fits
    let rewound : Machine :=
      { machine with
        registers := registers
        memory := machine.memory.overlay machine.index.toNat
          ((earlier ++ block :: later).flatMap Block.bytes) }
    -- The loads before this one leave the index at the start of its block.
    rcases rewound.restoreAll_eq earlier natural
      (by change machine.index + _ ≤ 4096; omega) with ⟨content, restored⟩
    rw [rewound.indexBehind_of_passing passes] at restored
    let before : Machine :=
      { rewound with
        registers := content
        index := rewound.index + Block.extent earlier }
    have index : before.index = machine.index + Block.extent earlier := rfl
    have inside : Memory.Spans before.index block.size :=
      ⟨by omega, Int.natCast_nonneg _, by unfold memorySize; omega⟩
    have lies : ∀ register ≤ block.last,
        before.memory.byteAt (before.index.toNat + register.val) =
          block.registers.get register := by
      intro register reached
      have start : before.index.toNat =
          machine.index.toNat + Block.extent earlier := by
        omega
      rw [start, Nat.add_assoc]
      exact machine.memory.byteAt_overlay_of_found whole
        (Block.getElem?_flatMap_bytes earlier later block reached)
    rcases before.restore_block inside lies with ⟨after, loaded, given, kept, _⟩
    exact ⟨before, after, restored, loaded, given, kept⟩
  case passed =>
    intro registers
    let rewound : Machine :=
      { machine with
        registers := registers
        memory := machine.memory.overlay machine.index.toNat
          (blocks.flatMap Block.bytes) }
    rcases rewound.restoreAll_eq blocks natural fits with ⟨_, restored⟩
    exact ⟨_, restored, rewound.indexBehind_of_passing passes _⟩

theorem stacks_of_staying (stays : machine.behaviour.memory.isOn = false) :
    ∃ stored, machine.Stacks blocks stored := by
  -- A single block reaches no further than all of them one after another.
  have inside : ∀ block ∈ blocks, Memory.Spans machine.index block.size := by
    intro block present
    rcases List.append_of_mem present with ⟨earlier, later, rfl⟩
    rw [Block.extent_append, Block.extent] at fits
    exact ⟨natural, Int.natCast_nonneg _, by unfold memorySize; omega⟩
  have room : ∀ block ∈ blocks,
      machine.index.toNat + block.size ≤ memorySize := by
    intro block present
    have within := (inside block present).2.2
    omega
  rcases machine.saveAll_of_staying stays blocks inside with ⟨registers, saved⟩
  refine ⟨_, saved, rfl, ?byteAt, ?undone, ?unmoved⟩
  case byteAt =>
    rintro register earlier block later rfl reached short
    exact machine.memory.byteAt_overlayAll_of_last room reached short
  case undone =>
    rintro earlier block later rfl
    rcases machine.saveAll_of_staying stays earlier fun other present =>
      inside other (List.mem_append_left _ present) with ⟨content, savedBefore⟩
    let before : Machine :=
      { machine with
        registers := content
        memory := machine.memory.overlayAll machine.index.toNat earlier }
    let kept : Machine :=
      { before with
        registers := block.registers
        memory := before.memory.overlay machine.index.toNat block.bytes }
    have present : block ∈ earlier ++ block :: later :=
      List.mem_append_right earlier List.mem_cons_self
    have stored : before.save block = .ok kept := by
      have saved := before.save_eq (inside block present)
      rwa [before.indexBehind_of_staying stays] at saved
    have lies : ∀ register ≤ block.last,
        kept.memory.byteAt (kept.index.toNat + register.val) =
          block.registers.get register := by
      intro register reached
      exact before.memory.byteAt_overlay_of_found
        (by rw [Block.length_bytes]; exact room block present)
        (block.getElem?_bytes reached)
    rcases kept.restore_block (inside block present) lies with
      ⟨loaded, restored, given, left, index⟩
    rw [kept.indexBehind_of_staying stays] at index
    refine ⟨before, kept, loaded, savedBefore, stored, restored, rfl, rfl, index, ?_⟩
    apply Registers.ext_get
    intro register
    rcases Nat.lt_or_ge block.last.val register.val with behind | reached
    · exact left register behind
    · exact given register reached
  case unmoved =>
    let stored : Machine :=
      { machine with
        registers := registers
        memory := machine.memory.overlayAll machine.index.toNat blocks }
    rcases stored.restoreAll_eq blocks natural fits with ⟨_, restored⟩
    exact ⟨_, restored, stored.indexBehind_of_staying stays _⟩

end Behaviours

/-- Blocks are stored and loaded in order, where all of them fit behind the index
one after another, and before each store the registers may be replaced.  No store
and no load is refused.  If the index moves behind blocks, they are laid out and
read back one after another.  If it stays, they are laid over each other. -/
theorem blocks_restored (machine : Machine) (blocks : List Block)
    (natural : 0 ≤ machine.index)
    (fits : machine.index + Block.extent blocks ≤ 4096) :
    (machine.behaviour.memory.isOn = true →
      ∃ stored, machine.Streams blocks stored) ∧
      (machine.behaviour.memory.isOn = false →
        ∃ stored, machine.Stacks blocks stored) :=
  ⟨machine.streams_of_passing blocks natural fits,
    machine.stacks_of_staying blocks natural fits⟩

/-- Six bytes before the end of memory. -/
def nearEnd (variant : Variant) : Machine :=
  { fresh variant (.ofVariant variant) 0 0 with index := 0xFFA }

/-- A block of four registers, and then one of two. -/
def unequalBlocks : List Block :=
  [⟨(Registers.zero.set 1 7).set 3 9, 3⟩, ⟨Registers.zero.set 1 8, 1⟩]

/-- The blocks fill memory to its end, or the second one hides a byte of the
first. -/
theorem unequalBlocks_near_end :
    (∃ stored, (nearEnd .chipEight).saveAll unequalBlocks = .ok stored ∧
      stored.index = 0x1000 ∧ stored.memory.byteAt 0xFF9 = 0) ∧
      ∃ stored, (nearEnd .superChip).saveAll unequalBlocks = .ok stored ∧
        stored.index = 0xFFA ∧ stored.memory.byteAt 0xFFB = 8 ∧
          stored.memory.byteAt 0xFFD = 9 := by
  have natural : ∀ variant, 0 ≤ (nearEnd variant).index := fun _ => by
    change (0 : Int) ≤ 0xFFA
    decide
  have fits : ∀ variant,
      (nearEnd variant).index + Block.extent unequalBlocks ≤ 4096 := fun _ => by
    change (0xFFA : Int) + Block.extent unequalBlocks ≤ 4096
    decide
  constructor
  · rcases (blocks_restored (nearEnd .chipEight) unequalBlocks (natural _)
      (fits _)).1 rfl with ⟨stored, streams⟩
    refine ⟨stored, streams.saved, streams.index, ?_⟩
    rw [streams.frame 0xFF9 (Or.inl (by decide +kernel))]
    decide +kernel
  · rcases (blocks_restored (nearEnd .superChip) unequalBlocks (natural _)
      (fits _)).2 rfl with ⟨stored, stacked⟩
    refine ⟨stored, stacked.saved, stacked.index, ?_, ?_⟩
    · exact stacked.byteAt 1 [_] _ [] rfl (by decide) fun _ none => nomatch none
    · exact stacked.byteAt 3 [] _ [_] rfl (by decide) (by decide)

end Machine

end ChipEight
