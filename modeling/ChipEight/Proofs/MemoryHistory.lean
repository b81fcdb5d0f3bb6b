import ChipEight.Proofs.Atomicity
import ChipEight.Proofs.CycleFaults
import ChipEight.Proofs.Frames

namespace ChipEight

/-!
# The history of memory

A byte of memory is the one that was stored last at its address, or else the one
that was there after loading.  Only two operations store: one the digits of a
register, and one a block of registers, both at the index.  A program may
overwrite itself with them, so what is executed depends on what was stored, but
the law does not refer to that.

`Stores` says what an event stores without mentioning the memory that it leaves.
The step lemmas compare it with that memory, address by address, and the law
follows by going through the history once.
-/

namespace Registers

theorem getElem?_leading (registers : Registers) (count : Nat)
    (register : Fin 16) :
    (registers.leading count)[register.val]? =
      if register.val < count then some (registers.get register) else none := by
  simp only [leading, List.getElem?_take, Vector.getElem?_toList, get_eq]
  simp

end Registers

/-! ## What is stored -/

namespace Machine

/-- The event stores a byte at an address.  The contents of the index and of the
registers are those before the event. -/
inductive Stores (machine : Machine) : Event → Nat → UInt8 → Prop where
  /-- The registers up to `x` are stored in order. -/
  | registers {now : Float} {address : Nat} (x register : Fin 16)
      (fetches : machine.Fetches (.storeRegisters x.val))
      (accepted : (machine.cycle now).fault = none)
      (upTo : register ≤ x)
      (place : (address : Int) = machine.index + register.val) :
      Stores machine (.cycle now) address (machine.registers.get register)
  /-- The three decimal digits of `x` are stored, the hundreds first. -/
  | digits {now : Float} {address : Nat} {byte : UInt8} (x : Fin 16)
      (hundreds tens ones offset : Nat)
      (fetches : machine.Fetches (.storeDecimal x.val))
      (accepted : (machine.cycle now).fault = none)
      (small : hundreds ≤ 9 ∧ tens ≤ 9 ∧ ones ≤ 9)
      (sum : 100 * hundreds + 10 * tens + ones =
        (machine.registers.get x).toNat)
      (digit : [hundreds, tens, ones][offset]? = some byte.toNat)
      (place : (address : Int) = machine.index + offset) :
      Stores machine (.cycle now) address byte

/-- No event of a history stores at an address. -/
def Spares (machine : Machine) (events : List Event) (address : Nat) : Prop :=
  ∀ earlier event later byte, events = earlier ++ event :: later →
    ¬ (machine.follow earlier).Stores event address byte

/-- The block of bytes that an operation stores at the index. -/
def storedBlock (machine : Machine) : Operation → List UInt8
  | .storeDecimal x => decimalDigits (machine.registers.content x)
  | .storeRegisters x =>
      machine.registers.leading (Registers.countBelow (x + 1))
  | _ => []

/-- Three digits that sum up to a byte are those that are stored for it. -/
theorem decimalDigits_getElem? {byte digit : UInt8}
    {hundreds tens ones offset : Nat}
    (small : hundreds ≤ 9 ∧ tens ≤ 9 ∧ ones ≤ 9)
    (sum : 100 * hundreds + 10 * tens + ones = byte.toNat) :
    (decimalDigits byte)[offset]? = some digit ↔
      [hundreds, tens, ones][offset]? = some digit.toNat := by
  have first : byte.toNat / 100 = hundreds := by
    omega
  have second : byte.toNat / 10 % 10 = tens := by
    omega
  have third : byte.toNat % 10 = ones := by
    omega
  have values : (decimalDigits byte).map UInt8.toNat = [hundreds, tens, ones] := by
    simp only [decimalDigits, first, second, third, List.map_cons, List.map_nil]
    rw [UInt8.toNat_ofNat_of_lt' (by change _ < 256; omega),
      UInt8.toNat_ofNat_of_lt' (by change _ < 256; omega),
      UInt8.toNat_ofNat_of_lt' (by change _ < 256; omega)]
  rw [← values, List.getElem?_map]
  cases (decimalDigits byte)[offset]? with
  | none => simp
  | some stored => simp [UInt8.toNat_inj]

section Executions

variable {machine : Machine} {operation : Operation}

theorem storedBlock_of_unwritten (unwritten : Part.memory ∉ operation.writes) :
    machine.storedBlock operation = [] := by
  cases operation with
  | storeDecimal | storeRegisters => simp [Operation.writes] at unwritten
  | _ => rfl

/-- An accepted execution stores the block of its operation at the index, and
nothing if that is empty. -/
theorem execute_byteAt (word : Int) (fits : operation.FitsWord)
    (accepted : (machine.execute ⟨word, operation⟩).fault = none)
    (address : Nat) :
    (machine.execute ⟨word, operation⟩).machine.memory.byteAt address =
      (Memory.blockByte? machine.index (machine.storedBlock operation)
        address).getD (machine.memory.byteAt address) := by
  by_cases unwritten : Part.memory ∉ operation.writes
  · have kept := machine.execute_frame ⟨word, operation⟩ .memory unwritten
    rw [storedBlock_of_unwritten unwritten, Memory.blockByte?_nil]
    exact congrArg (fun memory : Memory => memory.byteAt address) kept
  cases operation with
  | storeDecimal number =>
      rcases exists_register number fits.x with ⟨x, rfl⟩
      have executed : machine.execute ⟨word, .storeDecimal x.val⟩ =
          Step.attempt machine (machine.storeDecimal x.val) := rfl
      rw [storeDecimal_register] at executed
      split at executed
      · rename_i inside
        rw [executed, storedBlock, Registers.content_register]
        exact machine.memory.byteAt_overlay_block inside address
      · rw [executed] at accepted
        contradiction
  | storeRegisters number =>
      rcases exists_register number fits.x with ⟨x, rfl⟩
      have executed : machine.execute ⟨word, .storeRegisters x.val⟩ =
          Step.attempt machine (machine.storeRegisters x.val) := rfl
      rw [storeRegisters_register] at executed
      split at executed
      · rename_i inside
        have length : ((machine.registers.leading (x.val + 1)).length : Int) =
            (x.val : Int) + 1 := by
          rw [Registers.length_leading _ (by omega)]
          rfl
        have passed : (machine.execute ⟨word, .storeRegisters x.val⟩).machine.memory =
            machine.memory.overlay machine.index.toNat
              (machine.registers.leading (x.val + 1)) := by
          rw [executed, Step.attempt_ok]
          unfold passBlock
          split <;> rfl
        rw [passed, storedBlock, Registers.countBelow_register]
        rw [← length] at inside
        exact machine.memory.byteAt_overlay_block inside address
      · rw [executed] at accepted
        contradiction
  | _ => simp [Operation.writes] at unwritten

end Executions

section Cycles

variable {machine : Machine} {now : Float}

/-- An accepted cycle stores the block of its operation, as it was before the
cycle. -/
theorem cycle_byteAt {operation : Operation}
    (fetches : machine.Fetches operation)
    (accepted : (machine.cycle now).fault = none) (address : Nat) :
    (machine.cycle now).machine.memory.byteAt address =
      (Memory.blockByte? machine.index (machine.storedBlock operation)
        address).getD (machine.memory.byteAt address) := by
  rw [cycle_fault_of_fetches now fetches] at accepted
  have executed := execute_byteAt machine.word fetches.fitsWord accepted address
  have sameBlock : (machine.advanced now).storedBlock operation =
      machine.storedBlock operation := by
    rw [advanced_eq]
    cases operation <;> rfl
  rw [sameBlock, advanced_eq] at executed
  rw [cycle_part_of_fetches now fetches Machine.memory fun _ => rfl, advanced_eq]
  exact executed

theorem cycle_refused_memory (refused : (machine.cycle now).fault ≠ none) :
    (machine.cycle now).machine.memory = machine.memory := by
  rcases cycle_refused refused with
    ⟨_, left⟩ | ⟨_, left⟩ | ⟨_, _, _, _, _, left⟩
  · rw [left, tick_eq]
  · rw [left, advanced_eq]
  · rw [left, advanced_eq]

/-- Memory changes only in a cycle that executes one of the two operations that
store, and accepts it. -/
theorem respond_memory {event : Event}
    (changed : (machine.respond event).memory ≠ machine.memory) :
    ∃ now x, event = .cycle now ∧ (machine.cycle now).fault = none ∧
      (machine.Fetches (.storeDecimal x) ∨
        machine.Fetches (.storeRegisters x)) := by
  cases event with
  | key number pressed =>
      exact absurd (machine.key_frame number pressed .memory (by decide)) changed
  | cycle now =>
      have accepted : (machine.cycle now).fault = none :=
        Decidable.byContradiction fun refused =>
          changed (cycle_refused_memory refused)
      rcases fetches_of_accepted accepted with ⟨operation, fetches⟩
      by_cases writes : Part.memory ∈ operation.writes
      · cases operation with
        | storeDecimal x => exact ⟨now, x, rfl, accepted, Or.inl fetches⟩
        | storeRegisters x => exact ⟨now, x, rfl, accepted, Or.inr fetches⟩
        | _ => simp [Operation.writes] at writes
      · have unwritten : ∀ fetched, machine.Fetches fetched →
            Part.memory ∉ fetched.writes := by
          intro fetched other
          rw [other.unique fetches]
          exact writes
        exact absurd (machine.cycle_frame now (by decide) unwritten) changed

end Cycles

/-! ## One event -/

section Events

variable {machine : Machine}

/-- An event stores at an address if it is an accepted cycle whose operation has
a block that reaches there. -/
theorem stores_cycle_iff {now : Float} {address : Nat} {byte : UInt8} :
    machine.Stores (.cycle now) address byte ↔
      ∃ operation, machine.Fetches operation ∧
        (machine.cycle now).fault = none ∧
        Memory.blockByte? machine.index (machine.storedBlock operation) address =
          some byte := by
  simp only [Memory.blockByte?_eq_some_iff]
  constructor
  · intro stores
    cases stores with
    | registers x register fetches accepted upTo place =>
        have below : register.val < x.val + 1 := Nat.lt_succ_of_le upTo
        refine ⟨_, fetches, accepted, register.val, place, ?_⟩
        rw [storedBlock, Registers.countBelow_register,
          Registers.getElem?_leading, if_pos below]
    | digits x hundreds tens ones offset fetches accepted small sum digit place =>
        refine ⟨_, fetches, accepted, offset, place, ?_⟩
        rw [storedBlock, Registers.content_register]
        exact (decimalDigits_getElem? small sum).mpr digit
  · rintro ⟨operation, fetches, accepted, offset, place, found⟩
    have fits := fetches.fitsWord
    cases operation with
    | storeDecimal number =>
        rcases exists_register number fits.x with ⟨x, rfl⟩
        rw [storedBlock, Registers.content_register] at found
        have limit := (machine.registers.get x).toNat_lt
        have small : (machine.registers.get x).toNat / 100 ≤ 9 ∧
            (machine.registers.get x).toNat / 10 % 10 ≤ 9 ∧
              (machine.registers.get x).toNat % 10 ≤ 9 := by
          omega
        have sum : 100 * ((machine.registers.get x).toNat / 100) +
            10 * ((machine.registers.get x).toNat / 10 % 10) +
              (machine.registers.get x).toNat % 10 =
                (machine.registers.get x).toNat := by
          omega
        exact .digits x _ _ _ offset fetches accepted small sum
          ((decimalDigits_getElem? small sum).mp found) place
    | storeRegisters number =>
        rcases exists_register number fits.x with ⟨x, rfl⟩
        rw [storedBlock, Registers.countBelow_register] at found
        have within : offset < x.val + 1 := by
          have bound := (List.getElem?_eq_some_iff.mp found).1
          rwa [Registers.length_leading _ (by omega)] at bound
        have small : offset < 16 := by
          omega
        let register : Fin 16 := ⟨offset, small⟩
        have content := machine.registers.getElem?_leading (x.val + 1) register
        rw [if_pos within] at content
        cases found.symm.trans content
        exact .registers x register fetches accepted (Nat.le_of_lt_succ within)
          place
    | _ => contradiction

/-- An event leaves the byte that it stores. -/
theorem Stores.byteAt {event : Event} {address : Nat} {byte : UInt8}
    (stores : machine.Stores event address byte) :
    (machine.respond event).memory.byteAt address = byte := by
  cases event with
  | cycle now =>
      rcases stores_cycle_iff.mp stores with ⟨operation, fetches, accepted, found⟩
      have left := cycle_byteAt fetches accepted address
      rw [found] at left
      exact left
  | key number pressed => cases stores

/-- An event that does not store at an address leaves the byte there. -/
theorem byteAt_of_not_stores {event : Event} {address : Nat}
    (untouched : ∀ byte, ¬ machine.Stores event address byte) :
    (machine.respond event).memory.byteAt address =
      machine.memory.byteAt address := by
  by_cases same : (machine.respond event).memory = machine.memory
  · rw [same]
  · rcases respond_memory same with ⟨now, x, rfl, accepted, _⟩
    rcases fetches_of_accepted accepted with ⟨operation, fetches⟩
    have left := cycle_byteAt fetches accepted address
    cases found : Memory.blockByte? machine.index
        (machine.storedBlock operation) address with
    | none =>
        rw [found] at left
        exact left
    | some byte =>
        exact absurd (stores_cycle_iff.mpr ⟨operation, fetches, accepted, found⟩)
          (untouched byte)

end Events

/-! ## A whole history -/

section Histories

variable {machine : Machine} {event : Event} {rest : List Event} {address : Nat}

/-- A history spares an address if its first event and the rest do. -/
theorem spares_cons (untouched : ∀ byte, ¬ machine.Stores event address byte)
    (spared : (machine.respond event).Spares rest address) :
    machine.Spares (event :: rest) address := by
  intro earlier other later byte split
  rcases List.cons_eq_append_iff.mp split with ⟨rfl, same⟩ | ⟨tail, rfl, same⟩
  · cases same
    exact untouched byte
  · exact spared tail other later byte same

/-- Either some event stores at an address for the last time, and its byte is
there in the end, or none does, and the first byte is. -/
theorem byteAt_follow (machine : Machine) (events : List Event) (address : Nat) :
    (∃ earlier event later byte, events = earlier ++ event :: later ∧
        (machine.follow earlier).Stores event address byte ∧
        (machine.follow (earlier ++ [event])).Spares later address ∧
        (machine.follow events).memory.byteAt address = byte) ∨
      (machine.Spares events address ∧
        (machine.follow events).memory.byteAt address =
          machine.memory.byteAt address) := by
  induction events generalizing machine with
  | nil =>
      right
      refine ⟨?_, rfl⟩
      intro earlier event later byte split
      simp at split
  | cons event rest inductionHypothesis =>
      -- The rest is asked first, because what it stores covers the first event.
      rcases inductionHypothesis (machine.respond event) with
        ⟨earlier, last, later, byte, rfl, stores, spared, left⟩ | ⟨spared, left⟩
      · exact Or.inl ⟨event :: earlier, last, later, byte, rfl, stores, spared, left⟩
      · by_cases storing : ∃ byte, machine.Stores event address byte
        · rcases storing with ⟨byte, stores⟩
          exact Or.inl ⟨[], event, rest, byte, rfl, stores, spared,
            left.trans stores.byteAt⟩
        · have untouched : ∀ byte, ¬ machine.Stores event address byte :=
            fun byte stores => storing ⟨byte, stores⟩
          exact Or.inr ⟨spares_cons untouched spared,
            left.trans (byteAt_of_not_stores untouched)⟩

end Histories

/-! ## From loading on -/

/-- The byte at an address after a program was loaded. -/
def loadImage (rom : Rom) (address : Nat) : UInt8 :=
  if 0x200 ≤ address ∧ address < 0x200 + rom.bytes.length then
    rom.bytes[address - 0x200]?.getD 0
  else if 0x50 ≤ address ∧ address ≤ 0x9F then font[address - 0x50]?.getD 0
  else 0

theorem byteAt_boot (rom : Rom) (variant : Variant) (behaviour : Behaviour)
    (seed : Nat) (now : Float) (address : Nat) :
    (boot rom variant behaviour seed now).memory.byteAt address =
      loadImage rom address := by
  have romFits : programStart + rom.bytes.length ≤ memorySize := by
    have fits := rom.fits
    unfold programLimit at fits
    unfold programStart memorySize
    omega
  have fontFits : fontStart + font.length ≤ memorySize := by
    decide
  have fontEnd : (fontStart ≤ address ∧ address < fontStart + font.length) ↔
      0x50 ≤ address ∧ address ≤ 0x9F := by
    change 80 ≤ address ∧ address < 80 + 80 ↔ _
    omega
  change ((Memory.zero.overlay fontStart font).overlay programStart
    rom.bytes).byteAt address = _
  rw [Memory.byteAt_overlay _ _ _ romFits, Memory.byteAt_overlay _ _ _ fontFits,
    Memory.byteAt_zero]
  simp only [fontEnd]
  rfl

/-- Whatever was loaded and whatever happened since, each byte of memory is the
one that the last event to store at its address stored there, with the index and
the registers as they were before that event.  If there was no such event, it is
the byte of the load image.  In every state, memory changes only in a cycle that
executes one of the two storing operations and does not fail. -/
theorem memory_history {request : LoadRequest} {surroundings : Surroundings}
    {step : Step} (loaded : load request surroundings = .ok step) :
    (∃ rom, request.source.read surroundings.lookup = .ok rom ∧
      ∀ events address,
        (∃ earlier event later byte, events = earlier ++ event :: later ∧
            (step.machine.follow earlier).Stores event address byte ∧
            (step.machine.follow (earlier ++ [event])).Spares later address ∧
            (step.machine.follow events).memory.byteAt address = byte) ∨
          (step.machine.Spares events address ∧
            (step.machine.follow events).memory.byteAt address =
              loadImage rom address)) ∧
      ∀ (machine : Machine) (event : Event),
        (machine.respond event).memory ≠ machine.memory →
          ∃ now x, event = .cycle now ∧ (machine.cycle now).fault = none ∧
            (machine.Fetches (.storeDecimal x) ∨
              machine.Fetches (.storeRegisters x)) := by
  rcases load_boots loaded with ⟨rom, variant, found, _, _, booted⟩
  refine ⟨⟨rom, found, ?_⟩, fun machine event changed => respond_memory changed⟩
  intro events address
  have image : step.machine.memory.byteAt address = loadImage rom address := by
    rw [booted]
    exact byteAt_boot rom variant _ _ _ address
  rw [← image]
  exact byteAt_follow step.machine events address

/-- A program that stores the digits of a register, and then that register over
the middle digit. -/
def digitOverwriter : Rom where
  bytes := [0x60, 0x9C, 0xA3, 0x00, 0xF0, 0x33, 0xA3, 0x01, 0xF0, 0x55]
  nonempty := by decide
  fits := by decide

theorem byte_over_digit :
    ∃ request surroundings step, load request surroundings = .ok step ∧
      ∃ earlier event later,
        List.replicate 5 (.cycle 0) = earlier ++ event :: later ∧
          (step.machine.follow earlier).Stores event 0x301 0x9C := by
  have known : Behaviour.unknownSwitches [] = [] := by
    simp [Behaviour.unknownSwitches]
  rcases load_of_known digitOverwriter .chipEight known 0
      ⟨fun _ => .ok [], 0, 0⟩ with ⟨step, loaded, booted⟩
  have final : (step.machine.follow (List.replicate 5 (.cycle 0))).memory.byteAt
      0x301 = 0x9C := by
    rw [booted]
    decide +kernel
  refine ⟨_, _, step, loaded, ?_⟩
  rcases (memory_history loaded).1 with ⟨rom, found, history⟩
  rcases history (List.replicate 5 (.cycle 0)) 0x301 with
    ⟨earlier, event, later, byte, split, stores, _, left⟩ | ⟨_, left⟩
  · rw [← left, final] at stores
    exact ⟨earlier, event, later, split, stores⟩
  · cases found
    rw [final] at left
    contradiction

end Machine

end ChipEight
