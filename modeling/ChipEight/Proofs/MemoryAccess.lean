import ChipEight.Memory
import ChipEight.Proofs.Dialogues

namespace ChipEight

/-!
# Checked access to memory

A host may read and write memory at any integers.  What it asks for is refused by
a rule that depends on the command alone, and never on what memory holds: a list
of integers must consist of bytes, and the span of the access must lie in memory.
A command that is accepted stores some bytes from its address on, which may be
none, and is answered from the bytes that were there before.  This one statement
about a single command, `perform_eq`, is what all others come from.

Over a dialogue, every byte is the one that was stored last at its address.

A refusal names the address and the length of the access.  They are reported to
the host unless the length has more digits than a message may show.
-/

/-- What a host asks of memory. -/
inductive MemoryCommand where
  | read (address : Int)
  | readWord (address : Int)
  | readBlock (address length : Int)
  | write (address value : Int)
  | writeBlock (address : Int) (block : List UInt8)
  | writeValues (address : Int) (values : List Int)

/-- What a host gets for a command that is accepted. -/
inductive MemoryReply where
  | byte (content : UInt8)
  | word (content : Nat)
  | block (content : Excerpt)
  | written

namespace MemoryCommand

/-- The address of the access. -/
def address : MemoryCommand → Int
  | .read address | .readWord address | .readBlock address _ | .write address _
  | .writeBlock address _ | .writeValues address _ => address

/-- The number of bytes of the access. -/
def length : MemoryCommand → Int
  | .read _ | .write _ _ => 1
  | .readWord _ => 2
  | .readBlock _ length => length
  | .writeBlock _ block => block.length
  | .writeValues _ values => values.length

/-- The first value that is to be stored, but is no byte. -/
def misfit? : MemoryCommand → Option Int
  | .writeValues _ values => firstMisfit? values
  | _ => none

/-- The bytes that are stored from the address on. -/
def stored : MemoryCommand → List UInt8
  | .write _ value => [UInt8.ofNat (value % 256).toNat]
  | .writeBlock _ block => block
  | .writeValues _ values => values.map fun value => UInt8.ofNat value.toNat
  | _ => []

/-- The reply, if the command is accepted. -/
def reply (memory : Memory) : MemoryCommand → MemoryReply
  | .read address => .byte (memory.byteAt address.toNat)
  | .readWord address =>
      .word (256 * (memory.byteAt address.toNat).toNat +
        (memory.byteAt (address.toNat + 1)).toNat)
  | .readBlock address length =>
      .block (.copy (memory.slice address.toNat length.toNat))
  | _ => .written

/-- Why the command is refused, if it is. -/
def refusal? (command : MemoryCommand) : Option Fault :=
  match command.misfit? with
  | some misfit => some (.unrepresentable misfit .byte)
  | none =>
      if Memory.Spans command.address command.length then none
      else some (.unmapped command.address command.length)

/-- The byte that the command stores at a place, if it is accepted and stores
one. -/
def storedAt? (command : MemoryCommand) (place : Nat) : Option UInt8 :=
  if command.refusal? = none then
    Memory.blockByte? command.address command.stored place
  else none

variable {command : MemoryCommand}

theorem refusal?_of_misfit {misfit : Int} (found : command.misfit? = some misfit) :
    command.refusal? = some (.unrepresentable misfit .byte) := by
  rw [refusal?, found]

theorem refusal?_of_bytes (bytes : command.misfit? = none) :
    command.refusal? =
      if Memory.Spans command.address command.length then none
      else some (.unmapped command.address command.length) := by
  rw [refusal?, bytes]

theorem spans_of_accepted (accepted : command.refusal? = none) :
    Memory.Spans command.address command.length := by
  cases found : command.misfit? with
  | some misfit =>
      rw [refusal?_of_misfit found] at accepted
      contradiction
  | none =>
      rw [refusal?_of_bytes found] at accepted
      by_cases inside : Memory.Spans command.address command.length
      · exact inside
      · rw [if_neg inside] at accepted
        contradiction

/-- What is stored lies within the span of the access. -/
theorem spans_stored (accepted : command.refusal? = none) :
    Memory.Spans command.address command.stored.length := by
  have inside := spans_of_accepted accepted
  have shorter : (command.stored.length : Int) ≤ command.length := by
    have natural := inside.2.1
    cases command <;> simp_all [stored, length]
  exact ⟨inside.1, Int.natCast_nonneg _,
    Int.le_trans (Int.add_le_add_left shorter _) inside.2.2⟩

end MemoryCommand

namespace Memory

/-- The answer to a command that writes. -/
def answerWrite (memory : Memory) :
    Except Fault Memory → Except Fault MemoryReply × Memory
  | .ok after => (.ok .written, after)
  | .error fault => (.error fault, memory)

/-- What memory answers to a command, and what it is afterwards. -/
def perform (memory : Memory) :
    MemoryCommand → Except Fault MemoryReply × Memory
  | .read address => ((memory.read address).map .byte, memory)
  | .readWord address => ((memory.readWord address).map .word, memory)
  | .readBlock address length =>
      ((memory.excerpt address length).map .block, memory)
  | .write address value => memory.answerWrite (memory.write address value)
  | .writeBlock address block =>
      memory.answerWrite (memory.writeBlock address block)
  | .writeValues address values =>
      memory.answerWrite (memory.writeValues address values)

/-! ## One command -/

variable (memory : Memory) {command : MemoryCommand}

theorem perform_of_misfit {misfit : Int} (found : command.misfit? = some misfit) :
    memory.perform command = (.error (.unrepresentable misfit .byte), memory) := by
  cases command with
  | writeValues address values =>
      change firstMisfit? values = some misfit at found
      simp only [perform, writeValues, bytesOf_eq, found, answerWrite]
  | _ => contradiction

theorem perform_of_spans (bytes : command.misfit? = none)
    (inside : Spans command.address command.length) :
    memory.perform command =
      (.ok (command.reply memory),
        memory.overlay command.address.toNat command.stored) := by
  cases command with
  | writeValues address values =>
      change firstMisfit? values = none at bytes
      dsimp only [MemoryCommand.address, MemoryCommand.length] at inside
      simp only [perform, writeValues, bytesOf_eq, bytes, writeBlock,
        List.length_map, if_pos inside]
      rfl
  | _ =>
      dsimp only [MemoryCommand.address, MemoryCommand.length] at inside
      simp only [perform, read, readWord, excerpt, write, writeBlock, if_pos inside]
      rfl

theorem perform_of_outside (bytes : command.misfit? = none)
    (outside : ¬ Spans command.address command.length) :
    memory.perform command =
      (.error (.unmapped command.address command.length), memory) := by
  cases command with
  | writeValues address values =>
      change firstMisfit? values = none at bytes
      dsimp only [MemoryCommand.address, MemoryCommand.length] at outside
      simp only [perform, writeValues, bytesOf_eq, bytes, writeBlock,
        List.length_map, if_neg outside]
      rfl
  | _ =>
      dsimp only [MemoryCommand.address, MemoryCommand.length] at outside
      simp only [perform, read, readWord, excerpt, write, writeBlock,
        if_neg outside]
      rfl

/-- The outcome of every command, from its refusal, its reply and the bytes that it
stores. -/
theorem perform_eq (command : MemoryCommand) :
    memory.perform command =
      match command.refusal? with
      | some fault => (.error fault, memory)
      | none => (.ok (command.reply memory),
          memory.overlay command.address.toNat command.stored) := by
  cases found : command.misfit? with
  | some misfit =>
      rw [MemoryCommand.refusal?_of_misfit found]
      exact memory.perform_of_misfit found
  | none =>
      rw [MemoryCommand.refusal?_of_bytes found]
      by_cases inside : Spans command.address command.length
      · rw [if_pos inside]
        exact memory.perform_of_spans found inside
      · rw [if_neg inside]
        exact memory.perform_of_outside found inside

/-- After a command, a byte is the one that the command stored there, or else the
one that was there before. -/
theorem byteAt_perform (command : MemoryCommand) (place : Nat) :
    (memory.perform command).2.byteAt place =
      (command.storedAt? place).getD (memory.byteAt place) := by
  rw [perform_eq, MemoryCommand.storedAt?]
  cases accepted : command.refusal? with
  | some fault => rfl
  | none =>
      rw [if_pos rfl]
      exact memory.byteAt_overlay_block (MemoryCommand.spans_stored accepted) place

/-- A refused command leaves memory as it was. -/
theorem perform_refused {fault : Fault}
    (refused : (memory.perform command).1 = .error fault) :
    (memory.perform command).2 = memory := by
  revert refused
  rw [perform_eq]
  cases command.refusal? with
  | some fault => exact fun _ => rfl
  | none =>
      intro accepted
      contradiction

/-! ## Reports -/

/-- The span of an access leaves memory at one of its ends, or has no length. -/
theorem not_spans_iff {address length : Int} :
    ¬ Spans address length ↔
      address < 0 ∨ length < 0 ∨ 4096 < address + length := by
  change ¬ (0 ≤ address ∧ 0 ≤ length ∧ address + length ≤ 4096) ↔ _
  omega

/-- An answer that reports an access to the host, with its address and length. -/
def Reports (answer : Except Fault MemoryReply) (address length : Int) : Prop :=
  answer = .error (.unmapped address length) ∧
    Fault.isWritable (.unmapped address length) = true

/-- An access is reported exactly if it leaves memory and the digits of its length
may be written. -/
theorem reports_iff (bytes : command.misfit? = none) :
    Reports (memory.perform command).1 command.address command.length ↔
      ¬ Spans command.address command.length ∧
        command.length.natAbs < Text.digitBound := by
  rw [Reports, Fault.isWritable, Text.isWritable_eq_true_iff]
  by_cases inside : Spans command.address command.length
  · simp only [memory.perform_of_spans bytes inside, inside, reduceCtorEq,
      not_true_eq_false, false_and]
  · simp only [memory.perform_of_outside bytes inside, inside,
      not_false_eq_true]

/-- A length with too many digits is not shown. -/
theorem message_of_long (address : Int) {length : Int}
    (long : Text.digitBound ≤ length.natAbs) :
    (Fault.unmapped address length).message = Text.digitLimitMessage := by
  have hidden : ¬ Text.isWritable length = true := by
    rw [Text.isWritable_eq_true_iff]
    exact Nat.not_lt.mpr long
  exact if_neg hidden

/-! ## Reading after writing -/

theorem read_eq_ok_iff {address : Int} {byte : UInt8} :
    memory.read address = .ok byte ↔
      (0 ≤ address ∧ address < 4096) ∧ memory.byteAt address.toNat = byte := by
  have range : Spans address 1 ↔ 0 ≤ address ∧ address < 4096 := by
    change 0 ≤ address ∧ (0 : Int) ≤ 1 ∧ address + 1 ≤ 4096 ↔ _
    omega
  rw [read, ← range]
  by_cases inside : Spans address 1
  · simp only [inside, if_true, Except.ok.injEq, true_and]
  · simp only [inside, if_false, reduceCtorEq, false_and]

/-- A word consists of the bytes at its address and behind it, the high one
first. -/
theorem readWord_eq_ok_iff {address : Int} {word : Nat} :
    memory.readWord address = .ok word ↔
      ∃ high low, memory.read address = .ok high ∧
        memory.read (address + 1) = .ok low ∧
        word = 256 * high.toNat + low.toNat := by
  simp only [read_eq_ok_iff]
  constructor
  · intro taken
    rw [readWord] at taken
    split at taken
    · rename_i inside
      change 0 ≤ address ∧ (0 : Int) ≤ 2 ∧ address + 2 ≤ 4096 at inside
      have next : (address + 1).toNat = address.toNat + 1 := by
        omega
      refine ⟨_, _, ⟨by omega, rfl⟩, ⟨by omega, rfl⟩, ?_⟩
      rw [next]
      exact (Except.ok.inj taken).symm
    · contradiction
  · rintro ⟨_, _, ⟨⟨natural, _⟩, rfl⟩, ⟨⟨_, below⟩, rfl⟩, rfl⟩
    have inside : Spans address 2 := by
      change 0 ≤ address ∧ (0 : Int) ≤ 2 ∧ address + 2 ≤ 4096
      omega
    have next : (address + 1).toNat = address.toNat + 1 := by
      omega
    rw [readWord, if_pos inside, next]

/-- Writing an integer leaves its remainder, and no other byte is changed. -/
theorem byteAt_write {address value : Int} {written : Memory}
    (accepted : memory.write address value = .ok written) (place : Nat) :
    ((written.byteAt place).toNat : Int) =
      if (place : Int) = address then value % 256
      else (memory.byteAt place).toNat := by
  by_cases inside : Spans address 1
  · rw [write, if_pos inside] at accepted
    cases accepted
    have here : (place = address.toNat ∧ address.toNat < memorySize) ↔
        (place : Int) = address := by
      rcases inside with ⟨natural, _, fits⟩
      omega
    have digits :
        ((UInt8.ofNat (value % 256).toNat).toNat : Int) = value % 256 := by
      rw [UInt8.toNat_ofNat_of_lt' (by change _ < 256; omega)]
      omega
    rw [byteAt_set]
    simp only [here]
    split
    · exact digits
    · rfl
  · rw [write, if_neg inside] at accepted
    contradiction

/-- A block of bytes is written as the list of their values is. -/
theorem writeBlock_eq_writeValues (address : Int) (block : List UInt8) :
    memory.writeBlock address block =
      memory.writeValues address (block.map fun byte => (byte.toNat : Int)) := by
  rw [writeValues, bytesOf_toNat]

/-- A block that is read after a list was written has the values of the list where
it was written, and elsewhere the bytes that were there before. -/
theorem read_after_write {address start length : Int} {values : List Int}
    {written : Memory} {block : List UInt8}
    (accepted : memory.writeValues address values = .ok written)
    (taken : written.readBlock start length = .ok block) :
    (block.length : Int) = length ∧
      ∀ place : Int, start ≤ place → place < start + length →
        ∃ byte, block[(place - start).toNat]? = some byte ∧
          (address ≤ place ∧ place < address + values.length →
            values[(place - address).toNat]? = some (byte.toNat : Int)) ∧
          (¬ (address ≤ place ∧ place < address + values.length) →
            memory.read place = .ok byte) := by
  obtain ⟨bytes, rfl, span, rfl⟩ : ∃ bytes : List UInt8,
      values = bytes.map (fun byte => (byte.toNat : Int)) ∧
      Spans address bytes.length ∧
      written = memory.overlay address.toNat bytes := by
    rw [writeValues] at accepted
    split at accepted
    · contradiction
    · rename_i bytes converted
      rw [writeBlock] at accepted
      split at accepted
      · rename_i span
        exact ⟨bytes, bytesOf_eq_ok_iff.mp converted, span,
          (Except.ok.inj accepted).symm⟩
      · contradiction
  rw [readBlock_eq] at taken
  split at taken
  · rename_i window
    cases taken
    rcases window with ⟨natural, long, fits⟩
    refine ⟨?_, ?_⟩
    · rw [length_slice, Int.toNat_of_nonneg long]
    · intro place reached before
      have offset : (place - start).toNat < length.toNat := by
        omega
      have there : start.toNat + (place - start).toNat = place.toNat := by
        omega
      refine ⟨_, getElem?_slice _ _ _ _ offset, ?_, ?_⟩
      · rintro ⟨later, within⟩
        rw [List.length_map] at within
        have covered : (place - address).toNat < bytes.length := by
          omega
        rw [there, byteAt_overlay_block memory span, blockByte?,
          if_pos (by omega), List.getElem?_map,
          show ((place.toNat : Int) - address).toNat = (place - address).toNat by
            omega, List.getElem?_eq_getElem covered]
        rfl
      · intro uncovered
        rw [List.length_map] at uncovered
        have missed : blockByte? address bytes place.toNat = none := by
          rw [blockByte?]
          split
          · apply List.getElem?_eq_none
            omega
          · rfl
        rw [there, byteAt_overlay_block memory span, missed]
        have below : place < 4096 := by
          change start + length ≤ 4096 at fits
          omega
        exact memory.read_eq_ok_iff.mpr ⟨⟨by omega, below⟩, rfl⟩
  · contradiction

/-! ## Dialogues -/

/-- After a dialogue, a byte is the one that was stored last at its address, or
else the one that was there at first. -/
theorem byteAt_dialogue (commands : List MemoryCommand) (place : Nat) :
    (dialogue perform memory commands).2.byteAt place =
      (commands.filterMap fun command => command.storedAt? place).getLast?.getD
        (memory.byteAt place) := by
  induction commands generalizing memory with
  | nil => rfl
  | cons command rest inductionHypothesis =>
      simp only [dialogue]
      rw [inductionHypothesis, byteAt_perform, List.filterMap_cons]
      cases command.storedAt? place with
      | none => rfl
      | some byte =>
          simp only [List.getLast?_cons, Option.getD_some]

/-- A block that was read does not change with memory. -/
theorem shown_of_excerpt {address length : Int} {held : Excerpt}
    (taken : memory.excerpt address length = .ok held) (later : Memory) :
    held.shown later = held.shown memory := by
  rw [excerpt] at taken
  split at taken
  · cases taken
    rfl
  · contradiction

/-- A host that asks for anything at all, again and again, gets a map from 4096
addresses to bytes with checked bounds.

A command is refused for the first value that is no byte, and otherwise exactly if
its span leaves memory.  The span is reported unless its length has more than 4300
digits, which is reported instead.  A refused command leaves every byte.

A block that is read after another one was written shows the values that were
written, and elsewhere the bytes from before.  A single value is written modulo 256,
and a word is read from two bytes.  After any number of commands each byte is the
last one stored at its place, and no block that was read before has changed. -/
theorem memory_is_checked_byte_map :
    (∀ (memory : Memory) (command : MemoryCommand),
      let answer := (memory.perform command).1
      let outside := command.address < 0 ∨ command.length < 0 ∨
        4096 < command.address + command.length
      (∀ misfit, command.misfit? = some misfit →
        answer = .error (.unrepresentable misfit .byte)) ∧
      (command.misfit? = none →
        (Reports answer command.address command.length ↔
          outside ∧ command.length.natAbs < Text.digitBound) ∧
        (outside → Text.digitBound ≤ command.length.natAbs →
          ∃ fault, answer = .error fault ∧
            fault.message = Text.digitLimitMessage) ∧
        (¬ outside → ∃ reply, answer = .ok reply)) ∧
      (∀ fault, answer = .error fault →
        (memory.perform command).2 = memory)) ∧
    (∀ (memory written : Memory) (address start length : Int) (values : List Int)
      (block : List UInt8),
      memory.writeValues address values = .ok written →
      written.readBlock start length = .ok block →
        (block.length : Int) = length ∧
        ∀ place : Int, start ≤ place → place < start + length →
          ∃ byte, block[(place - start).toNat]? = some byte ∧
            (address ≤ place ∧ place < address + values.length →
              values[(place - address).toNat]? = some (byte.toNat : Int)) ∧
            (¬ (address ≤ place ∧ place < address + values.length) →
              memory.read place = .ok byte)) ∧
    (∀ (memory : Memory) (address : Int) (block : List UInt8),
      memory.writeBlock address block =
        memory.writeValues address (block.map fun byte => (byte.toNat : Int))) ∧
    (∀ (memory written : Memory) (address value : Int),
      memory.write address value = .ok written →
        ∀ place : Nat, ((written.byteAt place).toNat : Int) =
          if (place : Int) = address then value % 256
          else (memory.byteAt place).toNat) ∧
    (∀ (memory : Memory) (address : Int) (word : Nat),
      memory.readWord address = .ok word ↔
        ∃ high low, memory.read address = .ok high ∧
          memory.read (address + 1) = .ok low ∧
          word = 256 * high.toNat + low.toNat) ∧
    (∀ (memory : Memory) (commands : List MemoryCommand) (place : Nat),
      (dialogue perform memory commands).2.byteAt place =
        (commands.filterMap fun command => command.storedAt? place).getLast?.getD
          (memory.byteAt place)) ∧
    (∀ (memory : Memory) (address length : Int) (held : Excerpt),
      memory.excerpt address length = .ok held →
        ∀ commands : List MemoryCommand,
          held.shown (dialogue perform memory commands).2 =
            held.shown memory) := by
  refine ⟨?_, fun memory _ _ _ _ _ _ accepted taken =>
      memory.read_after_write accepted taken,
    writeBlock_eq_writeValues, fun memory _ _ _ accepted =>
      memory.byteAt_write accepted, fun memory _ _ => memory.readWord_eq_ok_iff,
    byteAt_dialogue, fun memory _ _ _ taken _ => memory.shown_of_excerpt taken _⟩
  intro memory command answer outside
  have leaves : ¬ Spans command.address command.length ↔ outside := not_spans_iff
  refine ⟨fun misfit found => congrArg Prod.fst (memory.perform_of_misfit found),
    fun bytes => ⟨?_, ?_, ?_⟩, fun fault refused => memory.perform_refused refused⟩
  · rw [← leaves]
    exact memory.reports_iff bytes
  · intro gone long
    exact ⟨_, congrArg Prod.fst (memory.perform_of_outside bytes (leaves.mpr gone)),
      message_of_long command.address long⟩
  · intro stays
    have inside : Spans command.address command.length :=
      Decidable.byContradiction fun gone => stays (leaves.mp gone)
    exact ⟨_, congrArg Prod.fst (memory.perform_of_spans bytes inside)⟩

/-- Two bytes are written at the end of a memory, and read back from one place before
them.  A value that is no byte is refused even where there is no memory, an empty
block may lie behind the last byte, and a byte may not. -/
theorem end_of_memory_answers :
    ∃ written block held marked,
      blank.writeValues 4094 [7, 255] = .ok written ∧
      written.readBlock 4093 3 = .ok block ∧
      (∃ byte, block[0]? = some byte ∧ blank.read 4093 = .ok byte) ∧
      (∃ byte, block[1]? = some byte ∧ (7 : Int) = byte.toNat) ∧
      blank.write 3 (-1) = .ok marked ∧ ((marked.byteAt 3).toNat : Int) = 255 ∧
      blank.excerpt 4094 2 = .ok held ∧
      held.shown (dialogue perform blank [.writeValues 4094 [7, 255]]).2 =
        held.shown blank ∧
      (blank.perform (.writeValues 5000 [7, 256])).1 =
        .error (.unrepresentable 256 .byte) ∧
      (∃ reply, (blank.perform (.readBlock 4096 0)).1 = .ok reply) ∧
      Reports (blank.perform (.read 4096)).1 4096 1 ∧
      (blank.perform (.read 4096)).2 = blank := by
  rcases memory_is_checked_byte_map with ⟨single, afterwards, _, low, _, _, kept⟩
  have readBack := (afterwards blank _ 4094 4093 3 [7, 255] _ rfl rfl).2
  rcases readBack 4093 (by decide) (by decide) with ⟨before, first, _, old⟩
  rcases readBack 4094 (by decide) (by decide) with ⟨after, second, new, _⟩
  have short : 1 < Text.digitBound := Text.lt_digitBound (by decide)
  refine ⟨_, _, _, _, rfl, rfl, ⟨before, first, old (by decide)⟩,
    ⟨after, second, ?_⟩, rfl, low blank _ 3 (-1) rfl 3, rfl,
    kept blank 4094 2 _ rfl _,
    (single blank (.writeValues 5000 [7, 256])).1 256 rfl,
    ((single blank (.readBlock 4096 0)).2.1 rfl).2.2 (by decide),
    ((single blank (.read 4096)).2.1 rfl).1.mpr ⟨by decide, short⟩,
    (single blank (.read 4096)).2.2 _ rfl⟩
  exact Option.some.inj (new (by decide))

/-- The length of this block has 4301 digits.  The block leaves memory, but is not
reported. -/
theorem boundless_block_not_reported :
    let length : Int := Text.digitBound
    4096 < 0 + length ∧
      (blank.perform (.readBlock 0 length)).1 = .error (.unmapped 0 length) ∧
      (Fault.unmapped 0 length).message = Text.digitLimitMessage ∧
      ¬ Reports (blank.perform (.readBlock 0 length)).1 0 length := by
  intro length
  let command : MemoryCommand := .readBlock 0 length
  have long : Text.digitBound ≤ command.length.natAbs :=
    Nat.le_of_eq (Int.natAbs_natCast _).symm
  have large : 4096 < Text.digitBound := Text.lt_digitBound (by decide)
  have leaves : 4096 < 0 + length := by
    omega
  have outside : ¬ Spans command.address command.length :=
    not_spans_iff.mpr (.inr (.inr leaves))
  refine ⟨leaves, congrArg Prod.fst (blank.perform_of_outside rfl outside),
    message_of_long 0 long, ?_⟩
  intro reported
  have small := ((blank.reports_iff rfl).mp reported).2
  exact Nat.not_lt.mpr long small

end Memory

end ChipEight
