import ChipEight.Proofs.MemoryHistory
import Mathlib.Data.List.Induction

namespace ChipEight

/-!
# What loading promises

A host may hand over a program in four ways, but all that counts is the byte
string that it stands for.  Loading succeeds if and only if this string has a
fitting length, the variant has a label, the overridden switches exist and the
seed is not negative.  If several of these fail, the first in this order is
reported.

A machine that was loaded holds the program, the font and zeros, with everything
else at rest.  Loading copies the program without a check, so it is also shown
that the checked copy is accepted for every program and does the same.
-/

/-! ## The bytes of a source -/

theorem mapError_eq_ok_iff {α ε δ : Type} {result : Except ε α}
    {change : ε → δ} {value : α} :
    result.mapError change = .ok value ↔ result = .ok value := by
  cases result <;> simp [Except.mapError]

namespace RomSource

/-- The byte of a cell is its value modulo 256, also if that is negative. -/
theorem cell_toNat (cell : Int64) :
    (cell.toUInt64.toUInt8.toNat : Int) = cell.toInt % 256 := by
  have low : cell.toUInt64.toUInt8.toNat = cell.toBitVec.toNat % 256 :=
    UInt64.toNat_toUInt8 cell.toUInt64
  have whole : cell.toInt = cell.toBitVec.toInt := rfl
  rw [low, whole, BitVec.toInt_eq_toNat_cond]
  split <;> omega

/-- The byte string that a source stands for.  The integers of a list are its
bytes, the cells of an array have its bytes modulo 256, and a file holds it. -/
inductive StandsFor (lookup : String → Except FileFault (List UInt8)) :
    RomSource → List UInt8 → Prop where
  | bytes {content : List UInt8} : StandsFor lookup (.bytes content) content
  | integers {values : List Int} {content : List UInt8}
      (same : values = content.map fun byte => (byte.toNat : Int)) :
      StandsFor lookup (.integers values) content
  | cells {values : List Int64} {content : List UInt8}
      (same : (values.map fun value => value.toInt % 256) =
        content.map fun byte => (byte.toNat : Int)) :
      StandsFor lookup (.cells values) content
  | file {path : String} {content : List UInt8}
      (found : lookup path = .ok content) :
      StandsFor lookup (.file path) content

variable {lookup : String → Except FileFault (List UInt8)}

theorem cells_content_iff {values : List Int64} {content : List UInt8} :
    (values.map fun value => value.toUInt64.toUInt8) = content ↔
      (values.map fun value => value.toInt % 256) =
        content.map fun byte => (byte.toNat : Int) := by
  have shown : (values.map fun value => value.toInt % 256) =
      (values.map fun value => value.toUInt64.toUInt8).map
        fun byte => (byte.toNat : Int) := by
    rw [List.map_map]
    exact List.map_congr_left fun value _ => (cell_toNat value).symm
  rw [shown]
  exact (List.map_inj_right fun first second same =>
    UInt8.toNat_inj.mp (Int.ofNat_inj.mp same)).symm

/-- A source has a content if and only if it stands for it. -/
theorem content_eq_ok_iff {source : RomSource} {content : List UInt8} :
    source.content lookup = .ok content ↔
      source.StandsFor lookup content := by
  cases source with
  | bytes given =>
    constructor
    · rintro ⟨⟩
      exact .bytes
    · rintro ⟨⟩
      rfl
  | integers values =>
    rw [RomSource.content, mapError_eq_ok_iff, bytesOf_eq_ok_iff]
    constructor
    · exact .integers
    · intro stands
      cases stands with
      | integers same => exact same
  | cells values =>
    rw [RomSource.content, Except.ok.injEq, cells_content_iff]
    constructor
    · exact .cells
    · intro stands
      cases stands with
      | cells same => exact same
  | file path =>
    rw [RomSource.content, mapError_eq_ok_iff]
    constructor
    · exact .file
    · intro stands
      cases stands with
      | file found => exact found

end RomSource

/-- A source is read if its byte string has a fitting length. -/
theorem RomSource.StandsFor.read
    {lookup : String → Except FileFault (List UInt8)} {source : RomSource}
    {content : List UInt8} (stands : source.StandsFor lookup content) :
    source.read lookup = Rom.ofBytes content := by
  rw [RomSource.read, RomSource.content_eq_ok_iff.mpr stands]

theorem Rom.ofBytes_of_fitting {content : List UInt8}
    (fits : 1 ≤ content.length ∧ content.length ≤ 3584) :
    ∃ rom : Rom, Rom.ofBytes content = .ok rom ∧ rom.bytes = content := by
  have nonempty : content ≠ [] := List.ne_nil_of_length_pos fits.1
  exact ⟨⟨content, nonempty, fits.2⟩,
    by rw [Rom.ofBytes, dif_neg nonempty]; exact dif_pos fits.2, rfl⟩

theorem Rom.ofBytes_of_unfitting {content : List UInt8}
    (unfit : ¬ (1 ≤ content.length ∧ content.length ≤ 3584)) :
    Rom.ofBytes content =
      .error (if content = [] then .empty else .tooLarge content.length) := by
  by_cases empty : content = []
  · rw [Rom.ofBytes, dif_pos empty, if_pos empty]
  · have length : 1 ≤ content.length := List.length_pos_iff.mpr empty
    have large : ¬ content.length ≤ programLimit :=
      fun small => unfit ⟨length, small⟩
    rw [Rom.ofBytes, dif_neg empty, dif_neg large, if_neg empty]

theorem Rom.bytes_of_ofBytes {content : List UInt8} {rom : Rom}
    (accepted : Rom.ofBytes content = .ok rom) : rom.bytes = content := by
  unfold Rom.ofBytes at accepted
  split at accepted
  · contradiction
  · split at accepted
    · cases accepted
      rfl
    · contradiction

/-! ## The variant and the switches -/

theorem Variant.ofSetting?_eq_some_iff {setting : Setting} {variant : Variant} :
    ofSetting? setting = some variant ↔ setting = .text variant.label := by
  constructor
  · intro found
    cases setting with
    | text label =>
      have same := List.find?_some found
      rw [eq_of_beq same]
    | null | flag _ | number _ | list _ | table _ => contradiction
  · rintro rfl
    cases variant <;> decide

namespace Behaviour

theorem mem_unknownSwitches {overrides : List (String × Setting)}
    {name : String} :
    name ∈ unknownSwitches overrides ↔
      name ∈ overrides.map Prod.fst ∧ name ∉ switches := by
  rw [unknownSwitches, List.mem_mergeSort, List.mem_filter]
  simp

theorem unknownSwitches_eq_nil_iff {overrides : List (String × Setting)} :
    unknownSwitches overrides = [] ↔
      ∀ name ∈ overrides.map Prod.fst, name ∈ switches := by
  rw [List.eq_nil_iff_forall_not_mem]
  constructor
  · intro none name overridden
    refine Decidable.byContradiction fun unknown => ?_
    exact none name (mem_unknownSwitches.mpr ⟨overridden, unknown⟩)
  · intro known name unknown
    rcases mem_unknownSwitches.mp unknown with ⟨overridden, missing⟩
    exact missing (known name overridden)

/-- The setting of a switch after overriding: the last one that was written for
it, or else the one before. -/
def overridden (overrides : List (String × Setting))
    (entry : String × Setting) : String × Setting :=
  (entry.1, (overrides.reverse.lookup entry.1).getD entry.2)

/-- The last override of a switch wins. -/
theorem overridden_concat (earlier : List (String × Setting))
    (last entry : String × Setting) :
    overridden (earlier ++ [last]) entry =
      (entry.1, if entry.1 = last.1 then last.2
        else (overridden earlier entry).2) := by
  rcases last with ⟨name, setting⟩
  simp only [overridden, List.reverse_append, List.reverse_singleton,
    List.singleton_append, List.lookup_cons]
  by_cases same : entry.1 = name
  · simp [same]
  · simp [same, beq_false_of_ne same]

/-- Setting one switch replaces its entry and no other. -/
theorem entries_set (behaviour : Behaviour) (name : String)
    (setting : Setting) :
    (behaviour.set name setting).entries =
      behaviour.entries.map fun entry =>
        (entry.1, if entry.1 = name then setting else entry.2) := by
  grind [set, entries]

/-- Overriding replaces the entries that are named and no others. -/
theorem entries_override (behaviour : Behaviour)
    (overrides : List (String × Setting)) :
    (behaviour.override overrides).entries =
      behaviour.entries.map (overridden overrides) := by
  -- The induction is from the end, because the last override wins.
  induction overrides using List.reverseRecOn with
  | nil => rfl
  | append_singleton earlier last inductionHypothesis =>
    have setLast : behaviour.override (earlier ++ [last]) =
        (behaviour.override earlier).set last.1 last.2 := by
      simp only [override, List.foldl_append, List.foldl_cons, List.foldl_nil]
    rw [setLast, entries_set, inductionHypothesis, List.map_map]
    exact List.map_congr_left fun entry _ =>
      (overridden_concat earlier last entry).symm

end Behaviour

namespace LoadRequest

/-- The request names a variant by its label. -/
def NamesVariant (request : LoadRequest) : Prop :=
  request.variant = .text "chip8" ∨ request.variant = .text "schip"

/-- The request overrides no switches but those that exist. -/
def KnowsSwitches (request : LoadRequest) : Prop :=
  ∀ name ∈ request.overrides.map Prod.fst,
    name = "logic" ∨ name = "shifting" ∨ name = "memory"

variable {request : LoadRequest}

theorem namesVariant_iff :
    request.NamesVariant ↔
      ∃ variant, Variant.ofSetting? request.variant = some variant := by
  simp only [Variant.ofSetting?_eq_some_iff]
  constructor
  · rintro (named | named)
    · exact ⟨.chipEight, named⟩
    · exact ⟨.superChip, named⟩
  · rintro ⟨variant, named⟩
    cases variant with
    | chipEight => exact Or.inl named
    | superChip => exact Or.inr named

theorem knowsSwitches_iff :
    request.KnowsSwitches ↔
      Behaviour.unknownSwitches request.overrides = [] := by
  rw [Behaviour.unknownSwitches_eq_nil_iff]
  simp only [KnowsSwitches, Behaviour.switches, List.mem_cons, List.not_mem_nil,
    or_false]

end LoadRequest

namespace Machine

/-! ## The order of the checks -/

section Checks

variable {request : LoadRequest} {surroundings : Surroundings} {rom : Rom}
  (found : request.source.read surroundings.lookup = .ok rom)

include found

theorem load_of_unnamed (unnamed : ¬ request.NamesVariant) :
    load request surroundings = .error (.variant request.variant) := by
  have none : Variant.ofSetting? request.variant = none := by
    cases named : Variant.ofSetting? request.variant with
    | none => rfl
    | some variant =>
      exact absurd (LoadRequest.namesVariant_iff.mpr ⟨variant, named⟩) unnamed
  simp only [load, found, none]

theorem load_of_unknown (named : request.NamesVariant)
    (unknown : ¬ request.KnowsSwitches) :
    load request surroundings =
      .error (.switches (Behaviour.unknownSwitches request.overrides)) := by
  rcases LoadRequest.namesVariant_iff.mp named with ⟨variant, picked⟩
  simp only [load, found, picked]
  split
  · rename_i names
    rw [names]
  · rename_i none
    exact absurd (LoadRequest.knowsSwitches_iff.mpr none) unknown

theorem load_of_negative (named : request.NamesVariant)
    (known : request.KnowsSwitches)
    (negative : chosenSeed request surroundings.timestamp < 0) :
    load request surroundings = .error .negativeSeed := by
  rcases LoadRequest.namesVariant_iff.mp named with ⟨variant, picked⟩
  simp only [load, found, picked, LoadRequest.knowsSwitches_iff.mp known,
    if_pos negative]

theorem load_of_sound {variant : Variant}
    (named : request.variant = .text variant.label)
    (known : request.KnowsSwitches)
    (natural : 0 ≤ chosenSeed request surroundings.timestamp) :
    load request surroundings =
      .ok (bootStep rom variant request surroundings) :=
  load_eq_ok_iff.mpr ⟨rom, variant, found,
    Variant.ofSetting?_eq_some_iff.mpr named,
    LoadRequest.knowsSwitches_iff.mp known, natural, rfl⟩

end Checks

/-! ## The loaded machine -/

/-- The machine holds a program, the font and zeros, is at the start of the
program, and has everything else at rest.  Its switches are those of the
variant, except for the ones that were overridden. -/
structure AtStart (machine : Machine) (program : List UInt8)
    (variant : Variant) (overrides : List (String × Setting)) (seed : Nat) :
    Prop where
  holdsProgram : ∀ offset (inside : offset < program.length),
    machine.memory.byteAt (0x200 + offset) = program[offset]
  holdsFont : ∀ offset (inside : offset < font.length),
    machine.memory.byteAt (0x50 + offset) = font[offset]
  holdsZeros : ∀ address, ¬ (0x50 ≤ address ∧ address ≤ 0x9F) →
    ¬ (0x200 ≤ address ∧ address < 0x200 + program.length) →
      machine.memory.byteAt address = 0
  pc : machine.pc = 0x200
  index : machine.index = 0
  registers : ∀ register, machine.registers.get register = 0
  keys : ∀ key, machine.keypad.isDown key = false
  pixels : ∀ row column, machine.display.pixel row column = false
  delay : machine.timers.delay = 0
  sound : machine.timers.sound = 0
  depth : machine.stack.depth = 0
  capacity : machine.stack.capacity = 16
  tally : machine.tally =
    { instructions := 0, clears := 0, drawings := 0, collisions := 0, calls := 0,
      returns := 0, jumps := 0, keyWaits := 0, timerTicks := 0 }
  random : machine.random = .ofSeed seed
  kind : machine.variant = variant
  switches : machine.behaviour.entries =
    (Behaviour.ofVariant variant).entries.map (Behaviour.overridden overrides)

theorem boot_atStart (rom : Rom) (variant : Variant)
    (overrides : List (String × Setting)) (seed : Nat) (now : Float) :
    AtStart (boot rom variant
      ((Behaviour.ofVariant variant).override overrides) seed now)
      rom.bytes variant overrides seed where
  holdsProgram offset inside := by
    have within : 0x200 ≤ 0x200 + offset ∧
        0x200 + offset < 0x200 + rom.bytes.length := by
      omega
    rw [byteAt_boot, loadImage, if_pos within, Nat.add_sub_cancel_left,
      List.getElem?_eq_getElem inside, Option.getD_some]
  holdsFont offset inside := by
    have short : offset < 80 := inside
    have before : ¬ (0x200 ≤ 0x50 + offset ∧
        0x50 + offset < 0x200 + rom.bytes.length) := by
      omega
    have within : 0x50 ≤ 0x50 + offset ∧ 0x50 + offset ≤ 0x9F := by
      omega
    rw [byteAt_boot, loadImage, if_neg before, if_pos within,
      Nat.add_sub_cancel_left, List.getElem?_eq_getElem inside, Option.getD_some]
  holdsZeros address outsideFont outsideProgram := by
    rw [byteAt_boot, loadImage, if_neg outsideProgram, if_neg outsideFont]
  pc := rfl
  index := rfl
  registers register := by
    simp [boot, fresh, Registers.get, Registers.zero, Vector.get]
  keys key := by
    simp [boot, fresh, Keypad.isDown, Keypad.released, Vector.get]
  pixels row column := Display.pixel_blank row column
  delay := rfl
  sound := rfl
  depth := rfl
  capacity := rfl
  tally := rfl
  random := rfl
  kind := rfl
  switches := Behaviour.entries_override _ overrides

/-- The checked copy accepts every program and does what loading does without a
check, and the first word can be read even if the program has a single byte. -/
theorem boot_checked (rom : Rom) (variant : Variant) (behaviour : Behaviour)
    (seed : Nat) (now : Float) :
    let machine := boot rom variant behaviour seed now
    Memory.blank.writeBlock 0x200 rom.bytes = .ok machine.memory ∧
      ∃ word : Nat, machine.memory.readWord 0x200 = .ok word ∧
        bootRecords rom machine =
          [.loaded rom.bytes.length variant, .firstWord word] := by
  have fits : rom.bytes.length ≤ 3584 := rom.fits
  have room : Memory.Spans 0x200 rom.bytes.length := by
    unfold Memory.Spans memorySize
    omega
  refine ⟨if_pos room, _, if_pos (by decide), rfl⟩

section Contract

variable {request : LoadRequest} {surroundings : Surroundings}
  {program : List UInt8}
  (stands : request.source.StandsFor surroundings.lookup program)

include stands

theorem load_of_unfitting
    (unfit : ¬ (1 ≤ program.length ∧ program.length ≤ 3584)) :
    load request surroundings =
      .error (.rom (if program = [] then .empty
        else .tooLarge program.length)) := by
  simp only [load, stands.read, Rom.ofBytes_of_unfitting unfit]

theorem read_of_fitting (fits : 1 ≤ program.length ∧ program.length ≤ 3584) :
    ∃ rom, request.source.read surroundings.lookup = .ok rom := by
  rcases Rom.ofBytes_of_fitting fits with ⟨rom, found, _⟩
  exact ⟨rom, stands.read.trans found⟩

/-- Loading succeeds if and only if the four requirements are met. -/
theorem load_succeeds_iff :
    (∃ step, load request surroundings = .ok step) ↔
      (1 ≤ program.length ∧ program.length ≤ 3584) ∧ request.NamesVariant ∧
        request.KnowsSwitches ∧
        0 ≤ chosenSeed request surroundings.timestamp := by
  constructor
  · rintro ⟨step, success⟩
    have fits : 1 ≤ program.length ∧ program.length ≤ 3584 := by
      refine Decidable.byContradiction fun unfit => ?_
      rw [load_of_unfitting stands unfit] at success
      contradiction
    rcases load_eq_ok_iff.mp success with
      ⟨rom, variant, _, picked, known, natural, _⟩
    exact ⟨fits, LoadRequest.namesVariant_iff.mpr ⟨variant, picked⟩,
      LoadRequest.knowsSwitches_iff.mpr known, natural⟩
  · rintro ⟨fits, named, known, natural⟩
    rcases read_of_fitting stands fits with ⟨rom, found⟩
    rcases LoadRequest.namesVariant_iff.mp named with ⟨variant, picked⟩
    exact ⟨_, load_of_sound found
      (Variant.ofSetting?_eq_some_iff.mp picked) known natural⟩

/-- Two requests for the same bytes, variant, switches and seed are answered
alike.  Only the clock readings may differ. -/
theorem loads_agree {other : LoadRequest} {elsewhere : Surroundings}
    {step otherStep : Step}
    (alike : other.source.StandsFor elsewhere.lookup program)
    (sameVariant : other.variant = request.variant)
    (sameOverrides : other.overrides = request.overrides)
    (sameSeed : chosenSeed other elsewhere.timestamp =
      chosenSeed request surroundings.timestamp)
    (success : load request surroundings = .ok step)
    (otherSuccess : load other elsewhere = .ok otherStep) :
    otherStep.records = step.records ∧
      otherStep.machine =
        { step.machine with timers.reference := elsewhere.now } := by
  rcases load_eq_ok_iff.mp success with ⟨rom, variant, found, picked, _, _, rfl⟩
  rcases load_eq_ok_iff.mp otherSuccess with
    ⟨otherRom, otherVariant, otherFound, otherPicked, _, _, rfl⟩
  have sameRom : otherRom = rom := by
    rw [alike.read, ← stands.read, found] at otherFound
    exact (Except.ok.inj otherFound).symm
  have sameKind : otherVariant = variant := by
    rw [sameVariant, picked] at otherPicked
    exact (Option.some.inj otherPicked).symm
  simp only [bootStep, sameRom, sameKind, sameOverrides, sameSeed]
  exact ⟨rfl, rfl⟩

end Contract

/-- A source that stands for a byte string is loaded if and only if the four
requirements are met, and otherwise the first of them that is not met is
reported.  The loaded machine is the one at the start of that byte string.  It
does not depend on what kind of source it was, and on the clock only through the
reference of the timers. -/
theorem load_contract {request : LoadRequest} {surroundings : Surroundings}
    {program : List UInt8}
    (stands : request.source.StandsFor surroundings.lookup program) :
    let fits := 1 ≤ program.length ∧ program.length ≤ 3584
    let seed := request.seed.getD surroundings.timestamp
    ((∃ step, load request surroundings = .ok step) ↔
      fits ∧ request.NamesVariant ∧ request.KnowsSwitches ∧ 0 ≤ seed) ∧
    (¬ fits → load request surroundings =
      .error (.rom (if program = [] then .empty
        else .tooLarge program.length))) ∧
    (fits → ¬ request.NamesVariant → load request surroundings =
      .error (.variant request.variant)) ∧
    (fits → request.NamesVariant → ¬ request.KnowsSwitches →
      ∃ names, load request surroundings = .error (.switches names) ∧
        ∀ name, name ∈ names ↔ name ∈ request.overrides.map Prod.fst ∧
          name ∉ ["logic", "shifting", "memory"]) ∧
    (fits → request.NamesVariant → request.KnowsSwitches → seed < 0 →
      load request surroundings = .error .negativeSeed) ∧
    ∀ step, load request surroundings = .ok step →
      (∃ variant : Variant, request.variant = .text variant.label ∧
        AtStart step.machine program variant request.overrides seed.toNat ∧
        ∃ word : Nat, step.machine.memory.readWord 0x200 = .ok word ∧
          step.records = [.loaded program.length variant, .firstWord word]) ∧
      Memory.blank.writeBlock 0x200 program = .ok step.machine.memory ∧
      ∀ (other : LoadRequest) (elsewhere : Surroundings) (otherStep : Step),
        other.source.StandsFor elsewhere.lookup program →
        other.variant = request.variant →
        other.overrides = request.overrides →
        other.seed.getD elsewhere.timestamp = seed →
        load other elsewhere = .ok otherStep →
          otherStep.records = step.records ∧
            otherStep.machine =
              { step.machine with timers.reference := elsewhere.now } := by
  intro fits seed
  refine ⟨load_succeeds_iff stands, load_of_unfitting stands, ?_, ?_, ?_, ?_⟩
  · intro fitting unnamed
    rcases read_of_fitting stands fitting with ⟨rom, found⟩
    exact load_of_unnamed found unnamed
  · intro fitting named unknown
    rcases read_of_fitting stands fitting with ⟨rom, found⟩
    exact ⟨_, load_of_unknown found named unknown,
      fun _ => Behaviour.mem_unknownSwitches⟩
  · intro fitting named known negative
    rcases read_of_fitting stands fitting with ⟨rom, found⟩
    exact load_of_negative found named known negative
  · intro step success
    rcases load_eq_ok_iff.mp success with
      ⟨rom, variant, found, picked, _, _, booted⟩
    have labelled := Variant.ofSetting?_eq_some_iff.mp picked
    have content : rom.bytes = program :=
      Rom.bytes_of_ofBytes (stands.read.symm.trans found)
    rcases boot_checked rom variant
      ((Behaviour.ofVariant variant).override request.overrides) seed.toNat
      surroundings.now with ⟨copied, word, fetched, recorded⟩
    rw [booted, ← content]
    refine ⟨⟨variant, labelled, boot_atStart rom variant _ _ _, word, fetched,
      recorded⟩, copied, ?_⟩
    intro other elsewhere otherStep alike sameVariant sameOverrides sameSeed
      otherSuccess
    rw [← booted]
    rw [content] at alike
    exact loads_agree stands alike sameVariant sameOverrides sameSeed success
      otherSuccess

/-- An array whose cells are no bytes, overridden switches, one of them twice,
and a seed that is the time.  The file with the same bytes gives the same
machine, but for the clock.  Without overridden switches and as the other variant,
it is loaded with other switches behind the same font. -/
theorem returning_array_loads :
    let request : LoadRequest :=
      ⟨.cells [0x300, -18], .text "schip",
        [("memory", .number 0), ("logic", .text "on"), ("memory", .flag true)],
        none⟩
    let other : LoadRequest :=
      { request with source := .file "return", seed := some 5 }
    let plain : LoadRequest :=
      { request with variant := .text "chip8", overrides := [] }
    let files : String → Except FileFault (List UInt8) := fun _ => .ok [0x00, 0xEE]
    let empty : Surroundings := ⟨fun _ => .error .missing, 0, 5⟩
    ∃ step otherStep plainStep, load request empty = .ok step ∧
      load other ⟨files, 2, 7⟩ = .ok otherStep ∧
      load plain empty = .ok plainStep ∧
      step.machine.memory.byteAt 0x201 = 0xEE ∧
      step.machine.memory.byteAt 0x9F = 0x80 ∧
      step.machine.behaviour.entries =
        [("logic", .text "on"), ("shifting", .flag false),
          ("memory", .flag true)] ∧
      otherStep.machine = { step.machine with timers.reference := 2 } ∧
      plainStep.machine.memory.byteAt 0x50 = 0xF0 ∧
      plainStep.machine.behaviour.entries =
        [("logic", .flag true), ("shifting", .flag true),
          ("memory", .flag true)] := by
  intro request other plain files empty
  have stands : request.source.StandsFor (fun _ => .error .missing)
      [0x00, 0xEE] := .cells (by decide)
  have alike : other.source.StandsFor files [0x00, 0xEE] := .file rfl
  have named : request.NamesVariant := Or.inr rfl
  have known : request.KnowsSwitches := by
    simp [LoadRequest.KnowsSwitches, request]
  have nothing : plain.KnowsSwitches := by
    simp [LoadRequest.KnowsSwitches, plain]
  rcases @load_contract request empty _ stands with ⟨succeeds, _, _, _, _, result⟩
  rcases @load_contract other ⟨files, 2, 7⟩ _ alike with ⟨also, _⟩
  rcases @load_contract plain empty _ stands with
    ⟨plainly, _, _, _, _, plainResult⟩
  rcases succeeds.mpr ⟨by decide, named, known, by decide⟩ with ⟨step, success⟩
  rcases also.mpr ⟨by decide, named, known, by decide⟩ with
    ⟨otherStep, otherSuccess⟩
  rcases plainly.mpr ⟨by decide, Or.inl rfl, nothing, by decide⟩ with
    ⟨plainStep, plainSuccess⟩
  rcases result step success with ⟨⟨variant, labelled, start, _⟩, _, agrees⟩
  rcases plainResult plainStep plainSuccess with
    ⟨⟨plainVariant, plainLabelled, plainStart, _⟩, _, _⟩
  have kind : variant = .superChip :=
    Option.some.inj (Variant.ofSetting?_eq_some_iff.mpr labelled).symm
  have plainKind : plainVariant = .chipEight :=
    Option.some.inj (Variant.ofSetting?_eq_some_iff.mpr plainLabelled).symm
  refine ⟨step, otherStep, plainStep, success, otherSuccess, plainSuccess,
    start.holdsProgram 1 (by decide), start.holdsFont 79 (by decide), ?_,
    (agrees other ⟨files, 2, 7⟩ otherStep alike rfl rfl rfl otherSuccess).2,
    plainStart.holdsFont 0 (by decide), ?_⟩
  · rw [start.switches, kind]
    rfl
  · rw [plainStart.switches, plainKind]
    rfl

end Machine

end ChipEight
