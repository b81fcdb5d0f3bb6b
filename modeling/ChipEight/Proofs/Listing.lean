import ChipEight.Disassembly
import ChipEight.Proofs.MemoryHistory
import ChipEight.Proofs.Recognition

namespace ChipEight

/-!
# What a listing says about a run

A disassembly and the machine read the same bytes in two ways.  One pairs the
bytes of a program from its beginning, the other loads them into memory and
fetches at the program counter.  The two agree.  A row that stands where the
machine is about to fetch shows the instruction that the next cycle executes, or
a data word if that cycle cannot decode what it fetches.

It does not matter how the machine came to that place, or what else changed in
memory, as long as the two bytes are those of the program.
-/

/-! ## The rows of a disassembly -/

theorem length_disassemble (address : Int) (bytes : List UInt8) :
    (disassemble address bytes).length = (bytes.length + 1) / 2 := by
  induction address, bytes using disassemble.induct with
  | case1 address => rfl
  | case2 address last => simp [disassemble]
  | case3 address high low rest inductionHypothesis =>
    simp only [disassemble, List.length_cons, inductionHypothesis]
    omega

/-- Each pair of bytes has a row, at the address of the first of them. -/
theorem getElem?_disassemble (address : Int) (bytes : List UInt8)
    (offset : Nat) (even : offset % 2 = 0)
    (paired : offset + 1 < bytes.length) :
    (disassemble address bytes)[offset / 2]? =
      some ⟨address + offset, wordOfBytes bytes[offset] bytes[offset + 1],
        Assembly.ofWord (wordOfBytes bytes[offset] bytes[offset + 1])⟩ := by
  induction address, bytes using disassemble.induct generalizing offset with
  | case1 address => simp at paired
  | case2 address last => simp at paired
  | case3 address high low rest inductionHypothesis =>
    match offset, even with
    | 0, _ => simp [disassemble]
    | offset + 2, even =>
      simp only [List.length_cons] at paired
      have later := inductionHypothesis offset (by omega) (by omega)
      have half : (offset + 2) / 2 = offset / 2 + 1 := by omega
      have place : address + 2 + (offset : Int) =
          address + ((offset + 2 : Nat) : Int) := by omega
      rw [place] at later
      rw [half]
      exact later

/-- An odd byte at the end has a row behind those of the pairs. -/
theorem getElem?_disassemble_odd (address : Int) (bytes : List UInt8)
    (odd : bytes.length % 2 = 1) :
    (disassemble address bytes)[bytes.length / 2]? =
      bytes.getLast?.map fun last =>
        ⟨address + bytes.length - 1, last.toNat,
          Assembly.ofByte last.toNat⟩ := by
  induction address, bytes using disassemble.induct with
  | case1 address => contradiction
  | case2 address last => simp [disassemble]
  | case3 address high low rest inductionHypothesis =>
    simp only [List.length_cons] at odd
    have later := inductionHypothesis (by omega)
    have half : (rest.length + 1 + 1) / 2 = rest.length / 2 + 1 := by omega
    have place : address + 2 + (rest.length : Int) - 1 =
        address + ((rest.length + 1 + 1 : Nat) : Int) - 1 := by omega
    have sameLast : (high :: low :: rest).getLast? = rest.getLast? := by
      cases rest with
      | nil => contradiction
      | cons next rest => simp [List.getLast?_cons_cons]
    rw [place] at later
    rw [List.length_cons, List.length_cons, half, sameLast]
    exact later

namespace Assembly

variable {word : Int}

/-- No operation has the mnemonic of data. -/
theorem ofOperation_mnemonic {operation : Operation}
    (fits : operation.FitsWord) :
    (ofOperation operation).mnemonic ≠ "DW" ∧
      (ofOperation operation).mnemonic ≠ "DB" := by
  cases operation
  case unassigned name => exact absurd rfl (fits.assigned name)
  all_goals simp [ofOperation]

theorem ofWord_of_undecoded (rejected : Instruction.decode? word = none) :
    ofWord word = ⟨"DW", "$" ++ Text.hex 4 word, "data word"⟩ := by
  rw [ofWord, rejected]

theorem ofWord_of_decoded {instruction : Instruction}
    (decoded : Instruction.decode? word = some instruction) :
    ofWord word = ofOperation instruction.operation := by
  rw [ofWord, decoded]

/-- A row of a word is no row of a byte. -/
theorem ofWord_mnemonic_ne_byte (word : Int) :
    (ofWord word).mnemonic ≠ "DB" := by
  cases decoded : Instruction.decode? word with
  | none =>
    rw [ofWord_of_undecoded decoded]
    simp
  | some instruction =>
    rw [ofWord_of_decoded decoded]
    exact (ofOperation_mnemonic (Instruction.decode?_fitsWord decoded)).2

end Assembly

/-- The last row shows a byte if and only if the number of bytes is odd, and it
then shows the last byte. -/
theorem lastRow_disassemble (address : Int) {bytes : List UInt8}
    (nonempty : bytes ≠ []) {row : Row}
    (last : (disassemble address bytes).getLast? = some row) :
    (row.assembly.mnemonic = "DB" ↔ bytes.length % 2 = 1) ∧
      (bytes.length % 2 = 1 → row =
        ⟨address + bytes.length - 1, (bytes.getLast nonempty).toNat,
          Assembly.ofByte (bytes.getLast nonempty).toNat⟩) := by
  rw [List.getLast?_eq_getElem?, length_disassemble] at last
  by_cases odd : bytes.length % 2 = 1
  · have place : (bytes.length + 1) / 2 - 1 = bytes.length / 2 := by omega
    rw [place, getElem?_disassemble_odd address bytes odd,
      List.getLast?_eq_some_getLast nonempty] at last
    cases last
    exact ⟨⟨fun _ => odd, fun _ => rfl⟩, fun _ => rfl⟩
  · have length : 0 < bytes.length := List.length_pos_iff.mpr nonempty
    have place : (bytes.length + 1) / 2 - 1 = (bytes.length - 2) / 2 := by omega
    rw [place, getElem?_disassemble address bytes _ (by omega) (by omega)]
      at last
    cases last
    refine ⟨⟨fun shown => ?_, fun other => absurd other odd⟩,
      fun other => absurd other odd⟩
    exact absurd shown (Assembly.ofWord_mnemonic_ne_byte _)

/-! ## Rows and cycles -/

/-- A row foretells a cycle if it shows a data word exactly when the cycle
cannot decode that word at the address of the row, and otherwise the instruction
that the cycle executes. -/
structure Row.Foretells (row : Row) (machine : Machine) (now : Float) :
    Prop where
  data : row.assembly.mnemonic = "DW" ↔
    (machine.cycle now).fault =
      some (.unknownWord row.word (some row.address))
  code : row.assembly.mnemonic ≠ "DW" →
    ∃ instruction : Instruction, instruction.word = row.word ∧
      row.assembly = .ofOperation instruction.operation ∧
      machine.cycle now =
        ((machine.advanced now).executeFrom row.address instruction).after
          (.fetched row.word row.address)

namespace Machine

variable {machine : Machine}

/-- The row of the word at the program counter foretells the next cycle. -/
theorem foretells_next (inside : machine.CanFetch) (now : Float) :
    Row.Foretells ⟨machine.pc, machine.word, .ofWord machine.word⟩
      machine now := by
  cases decoded : Instruction.decode? machine.word with
  | none =>
    have shown := Assembly.ofWord_of_undecoded decoded
    refine ⟨⟨fun _ => ?_, fun _ => ?_⟩, fun other => ?_⟩
    · rw [machine.cycle_of_undecoded now inside decoded]
    · simp only [shown]
    · simp only [shown] at other
      exact absurd rfl other
  | some instruction =>
    have fits := Instruction.decode?_fitsWord decoded
    have sameWord := Instruction.decode?_word decoded
    have shown := Assembly.ofWord_of_decoded decoded
    have fetches : machine.Fetches instruction.operation :=
      ⟨inside, by rw [decoded, ← sameWord]⟩
    refine ⟨⟨fun data => ?_, fun refused => ?_⟩, fun _ => ?_⟩
    · simp only [shown] at data
      exact absurd data (Assembly.ofOperation_mnemonic fits).1
    · have rejected :=
        ((machine.cycle_unknownWord_iff now _ _).mp refused).2.1
      rw [decoded] at rejected
      contradiction
    · refine ⟨instruction, sameWord, shown, ?_⟩
      rw [cycle_of_fetches now fetches]
      simp only [← sameWord]

/-- The loaded machine has the bytes of its program from the start of programs
on. -/
theorem byteAt_boot_program (rom : Rom) (variant : Variant)
    (behaviour : Behaviour) (seed : Nat) (now : Float) (offset : Nat)
    (inside : offset < rom.bytes.length) :
    (boot rom variant behaviour seed now).memory.byteAt
      (programStart + offset) = rom.bytes[offset] := by
  have within : 0x200 ≤ programStart + offset ∧
      programStart + offset < 0x200 + rom.bytes.length := by
    unfold programStart
    omega
  have place : programStart + offset - 0x200 = offset := by
    unfold programStart
    omega
  rw [byteAt_boot, loadImage, if_pos within, place,
    List.getElem?_eq_getElem inside, Option.getD_some]

/-- The two bytes of a pair of the program lie in memory. -/
theorem spans_program (rom : Rom) {offset : Nat}
    (paired : offset + 1 < rom.bytes.length) :
    Memory.Spans (programStart + offset : Nat) 2 := by
  have fits := rom.fits
  unfold programLimit at fits
  unfold Memory.Spans programStart memorySize
  omega

theorem readWord_of_bytes {memory : Memory} {place : Nat} {high low : UInt8}
    (room : Memory.Spans place 2) (first : memory.byteAt place = high)
    (second : memory.byteAt (place + 1) = low) :
    memory.readWord place = .ok (wordOfBytes high low) := by
  rw [Memory.readWord, if_pos room, Int.toNat_natCast, first, second,
    wordOfBytes]

/-- A machine at two bytes fetches the word that they form. -/
theorem word_of_bytes {place : Nat} {high low : UInt8}
    (here : machine.pc = place) (first : machine.memory.byteAt place = high)
    (second : machine.memory.byteAt (place + 1) = low) :
    machine.word = wordOfBytes high low := by
  rw [word, here, Int.toNat_natCast, first, second, wordOfBytes]

/-- A program that was accepted is listed with half as many rows as it has
bytes, rounded up, and the last row shows a byte if and only if their number is
odd.  Every other row stands at the address of its bytes and shows the word that
the loaded machine has there.  As long as a machine has these two bytes, the row
foretells each cycle of that machine that begins at its address. -/
theorem listing_foretells_cycles {request : LoadRequest}
    {surroundings : Surroundings} {step : Step}
    (success : load request surroundings = .ok step) :
    ∃ rom, request.source.read surroundings.lookup = .ok rom ∧
      let rows := disassemble programStart rom.bytes
      rows.length = (rom.bytes.length + 1) / 2 ∧
      (∀ row, rows.getLast? = some row →
        (row.assembly.mnemonic = "DB" ↔ rom.bytes.length % 2 = 1) ∧
        (rom.bytes.length % 2 = 1 → row =
          ⟨programStart + rom.bytes.length - 1,
            (rom.bytes.getLast rom.nonempty).toNat,
            Assembly.ofByte (rom.bytes.getLast rom.nonempty).toNat⟩)) ∧
      ∀ offset, offset % 2 = 0 → (paired : offset + 1 < rom.bytes.length) →
        ∃ row word, rows[offset / 2]? = some row ∧
          row.address = programStart + offset ∧ row.word = (word : Nat) ∧
          step.machine.memory.readWord (programStart + offset) = .ok word ∧
          ∀ (machine : Machine) (now : Float),
            machine.pc = programStart + offset →
            machine.memory.byteAt (programStart + offset) =
              rom.bytes[offset] →
            machine.memory.byteAt (programStart + offset + 1) =
              rom.bytes[offset + 1] →
            row.Foretells machine now := by
  rcases load_boots success with ⟨rom, variant, found, _, _, booted⟩
  refine ⟨rom, found, length_disassemble _ _,
    fun row last => lastRow_disassemble _ rom.nonempty last, ?_⟩
  intro offset even paired
  have room := spans_program rom paired
  refine ⟨_, _, getElem?_disassemble programStart rom.bytes offset even paired,
    rfl, rfl, ?_, ?_⟩
  · rw [booted]
    exact readWord_of_bytes room
      (byteAt_boot_program rom _ _ _ _ offset (by omega))
      (byteAt_boot_program rom _ _ _ _ (offset + 1) paired)
  · intro machine now here first second
    have inside : machine.CanFetch := by
      rw [← spans_pc, here]
      exact room
    have foretold := foretells_next inside now
    rw [word_of_bytes here first second, here] at foretold
    exact foretold

/-- A program that begins with data, sets a register and ends with an odd byte. -/
def dataBearer : Rom where
  bytes := [0x01, 0x23, 0x61, 0x0A, 0xFF]
  nonempty := by decide
  fits := by decide

/-- The first row of that program shows data, and so its first cycle fails.  The
second row shows an instruction, and the cycle behind that failure executes it. -/
theorem dataBearer_goes_as_listed :
    ∃ request surroundings step, load request surroundings = .ok step ∧
      let failed := step.machine.cycle 0
      let rows := disassemble programStart dataBearer.bytes
      rows.length = 3 ∧
      failed.fault = some (.unknownWord 0x0123 (some 0x200)) ∧
      ∃ (row : Row) (instruction : Instruction), rows[1]? = some row ∧
        row.assembly = .ofOperation instruction.operation ∧
        instruction.word = 0x610A ∧
        failed.machine.cycle 1 =
          ((failed.machine.advanced 1).executeFrom 0x202 instruction).after
            (.fetched 0x610A 0x202) := by
  have known : Behaviour.unknownSwitches [] = [] := by
    simp [Behaviour.unknownSwitches]
  rcases load_of_known dataBearer .chipEight known 0
      ⟨fun _ => .ok [], 0, 0⟩ with ⟨step, loaded, booted⟩
  refine ⟨_, _, step, loaded, ?_⟩
  intro failed rows
  rcases listing_foretells_cycles loaded with ⟨rom, found, length, -, listing⟩
  cases found
  have left : failed.machine.pc = 0x202 ∧
      failed.machine.memory.byteAt 0x202 = 0x61 ∧
      failed.machine.memory.byteAt 0x203 = 0x0A := by
    simp only [failed, booted]
    decide +kernel
  refine ⟨length, ?_, ?_⟩
  · rcases listing 0 (by decide) (by decide) with
      ⟨row, word, listed, -, -, -, foretells⟩
    have foretold := foretells step.machine 0 (by rw [booted]; rfl)
      (by rw [booted, byteAt_boot]; rfl) (by rw [booted, byteAt_boot]; rfl)
    cases listed
    exact foretold.data.mp rfl
  · rcases listing 2 (by decide) (by decide) with
      ⟨row, word, listed, -, -, -, foretells⟩
    have foretold := foretells failed.machine 1 left.1 left.2.1 left.2.2
    cases listed
    rcases foretold.code (by decide +kernel) with
      ⟨instruction, sameWord, shown, executed⟩
    exact ⟨_, instruction, rfl, shown, sameWord, executed⟩

end Machine

end ChipEight
