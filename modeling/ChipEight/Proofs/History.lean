import ChipEight.Machine.Cycle
import ChipEight.Machine.Load

namespace ChipEight

/-!
# Histories

A host does two things to a machine that it has loaded.  It lets the machine
make a cycle, at whatever its clock reads, and it moves a key.  A cycle may
fail and a key number may be refused, and in both cases the host may go on with
the state that is left.  A history is the list of what a host did, and a state
is reachable if some history leads to it from a loaded machine.

Nothing is assumed about the clock: readings may repeat, jump and go backwards.
-/

/-- What a host does to a machine. -/
inductive Event where
  | cycle (now : Float)
  | key (number : Int) (pressed : Bool)

namespace Machine

/-- The state that an event leaves, whether or not it fails. -/
def respond (machine : Machine) : Event → Machine
  | .cycle now => (machine.cycle now).machine
  | .key number pressed =>
      match machine.setKey number pressed with
      | .ok moved => moved
      | .error _ => machine

/-- The state that a history leaves. -/
def follow (machine : Machine) (events : List Event) : Machine :=
  events.foldl respond machine

/-- The last event of a history acts on what the earlier ones leave. -/
theorem follow_concat (machine : Machine) (events : List Event) (last : Event) :
    machine.follow (events ++ [last]) = (machine.follow events).respond last := by
  simp only [follow, List.foldl_append, List.foldl_cons, List.foldl_nil]

/-- What holds at the start of a history and is kept by every event holds
throughout. -/
theorem follow_induction {Kept : Machine → Prop} {start : Machine}
    (initial : Kept start)
    (step : ∀ machine event, Kept machine → Kept (machine.respond event))
    (events : List Event) : Kept (start.follow events) := by
  induction events generalizing start with
  | nil => exact initial
  | cons event rest inductionHypothesis =>
      exact inductionHypothesis (step start event initial)

/-- The machine is one that some request loads in some surroundings. -/
def Loaded (machine : Machine) : Prop :=
  ∃ request surroundings step,
    load request surroundings = .ok step ∧ step.machine = machine

/-- Some history leads from a loaded machine to this one. -/
def Reachable (machine : Machine) : Prop :=
  ∃ start events, Loaded start ∧ start.follow events = machine

theorem Loaded.reachable {machine : Machine} (loaded : Loaded machine) :
    Reachable machine :=
  ⟨machine, [], loaded, rfl⟩

theorem Reachable.respond {machine : Machine} (reachable : Reachable machine)
    (event : Event) : Reachable (machine.respond event) := by
  rcases reachable with ⟨start, events, loaded, rfl⟩
  exact ⟨start, events ++ [event], loaded, start.follow_concat events event⟩

/-- What every loaded machine has and every event keeps, every reachable
machine has. -/
theorem Reachable.induction {Kept : Machine → Prop} {machine : Machine}
    (reachable : Reachable machine)
    (initial : ∀ start, Loaded start → Kept start)
    (step : ∀ machine event, Kept machine → Kept (machine.respond event)) :
    Kept machine := by
  rcases reachable with ⟨start, events, loaded, rfl⟩
  exact follow_induction (initial start loaded) step events

/-- The step that loading makes if nothing is wrong with the request. -/
def bootStep (rom : Rom) (variant : Variant) (request : LoadRequest)
    (surroundings : Surroundings) : Step :=
  let machine := boot rom variant
    ((Behaviour.ofVariant variant).override request.overrides)
    (chosenSeed request surroundings.timestamp).toNat surroundings.now
  ⟨machine, bootRecords rom machine, none⟩

/-- Loading succeeds exactly when every check does, and there is one result. -/
theorem load_eq_ok_iff {request : LoadRequest} {surroundings : Surroundings}
    {step : Step} :
    load request surroundings = .ok step ↔
      ∃ rom variant, request.source.read surroundings.lookup = .ok rom ∧
        Variant.ofSetting? request.variant = some variant ∧
        Behaviour.unknownSwitches request.overrides = [] ∧
        0 ≤ chosenSeed request surroundings.timestamp ∧
        step = bootStep rom variant request surroundings := by
  constructor
  · intro success
    unfold load at success
    split at success
    · contradiction
    · rename_i rom found
      split at success
      · contradiction
      · rename_i variant named
        split at success
        · contradiction
        · rename_i known
          simp only at success
          split at success
          · contradiction
          · rename_i natural
            exact ⟨rom, variant, found, named, known, Int.not_lt.mp natural,
              (Except.ok.inj success).symm⟩
  · rintro ⟨rom, variant, found, named, known, natural, rfl⟩
    simp only [load, found, named, known, if_neg (Int.not_lt.mpr natural),
      bootStep]

/-- Loading boots a machine with the program that was read, the variant that
was named and the switches that were overridden. -/
theorem load_boots {request : LoadRequest} {surroundings : Surroundings}
    {step : Step} (success : load request surroundings = .ok step) :
    ∃ rom variant, request.source.read surroundings.lookup = .ok rom ∧
      Variant.ofSetting? request.variant = some variant ∧
      Behaviour.unknownSwitches request.overrides = [] ∧
      step.machine = boot rom variant
        ((Behaviour.ofVariant variant).override request.overrides)
        (chosenSeed request surroundings.timestamp).toNat surroundings.now := by
  rcases load_eq_ok_iff.mp success with ⟨rom, variant, found, named, known, _, rfl⟩
  exact ⟨rom, variant, found, named, known, rfl⟩

/-- A program with a label, known switches and a seed is loaded. -/
theorem load_of_known (rom : Rom) (variant : Variant)
    {overrides : List (String × Setting)}
    (known : Behaviour.unknownSwitches overrides = []) (seed : Nat)
    (surroundings : Surroundings) :
    ∃ step, load ⟨.bytes rom.bytes, .text variant.label, overrides, some seed⟩
        surroundings = .ok step ∧
      step.machine = boot rom variant
        ((Behaviour.ofVariant variant).override overrides) seed
        surroundings.now := by
  have accepted : (RomSource.bytes rom.bytes).read surroundings.lookup =
      .ok rom := by
    simp only [RomSource.read, RomSource.content, Rom.ofBytes,
      dif_neg rom.nonempty, dif_pos rom.fits]
  have named : Variant.ofSetting? (.text variant.label) = some variant := by
    cases variant <;> decide
  exact ⟨_, load_eq_ok_iff.mpr ⟨rom, variant, accepted, named, known,
    Int.natCast_nonneg seed, rfl⟩, rfl⟩

/-- Loading boots a machine, and every machine that can be booted with known
switches can be loaded.  Neither the source of the program nor the order of the
checks leaves a trace. -/
theorem loaded_iff {machine : Machine} :
    Loaded machine ↔
      ∃ rom variant overrides seed now,
        Behaviour.unknownSwitches overrides = [] ∧
          machine = boot rom variant
            ((Behaviour.ofVariant variant).override overrides) seed now := by
  constructor
  · rintro ⟨request, surroundings, step, success, rfl⟩
    rcases load_boots success with ⟨rom, variant, _, _, known, booted⟩
    exact ⟨rom, variant, request.overrides, _, _, known, booted⟩
  · rintro ⟨rom, variant, overrides, seed, now, known, rfl⟩
    rcases load_of_known rom variant known seed ⟨fun _ => .ok [], now, 0⟩ with
      ⟨step, success, booted⟩
    exact ⟨_, _, step, success, booted⟩

theorem loaded_boot (rom : Rom) (variant : Variant) (seed : Nat) (now : Float) :
    Loaded (boot rom variant (.ofVariant variant) seed now) :=
  loaded_iff.mpr ⟨rom, variant, [], seed, now, Behaviour.unknownSwitches_nil, rfl⟩

/-- Moving a key changes nothing but the keypad. -/
theorem respond_key (machine : Machine) (number : Int) (pressed : Bool) :
    ∃ keypad, machine.respond (.key number pressed) =
      { machine with keypad := keypad } := by
  simp only [respond, setKey]
  cases machine.keypad.set number pressed with
  | ok moved => exact ⟨moved, rfl⟩
  | error fault => exact ⟨machine.keypad, rfl⟩

end Machine

/-! ## The cycles of a history -/

/-- A cycle of a history: the machine before it, and what the clock reads. -/
structure Turn where
  machine : Machine
  now : Float

/-- The step that a cycle of a history makes. -/
def Turn.step (turn : Turn) : Step :=
  turn.machine.cycle turn.now

namespace Machine

/-- The cycles of a history, in order.  Moving a key is none. -/
def turns (machine : Machine) : List Event → List Turn
  | [] => []
  | .cycle now :: rest =>
      ⟨machine, now⟩ :: (machine.respond (.cycle now)).turns rest
  | .key number pressed :: rest =>
      (machine.respond (.key number pressed)).turns rest

/-- What holds before any cycle, and is kept by every cycle and by every key
movement, holds of the cycles of a history together with the state that it
leaves. -/
theorem turns_induction (Kept : List Turn → Machine → Prop) {start : Machine}
    (initial : Kept [] start)
    (cycle : ∀ turns machine now, Kept turns machine →
      Kept (turns ++ [⟨machine, now⟩]) (machine.cycle now).machine)
    (key : ∀ turns machine number pressed, Kept turns machine →
      Kept turns (machine.respond (.key number pressed)))
    (events : List Event) : Kept (start.turns events) (start.follow events) := by
  have extended : ∀ done machine, Kept done machine →
      Kept (done ++ machine.turns events) (machine.follow events) := by
    induction events with
    | nil =>
        intro done machine kept
        rw [turns, List.append_nil]
        exact kept
    | cons event rest inductionHypothesis =>
        intro done machine kept
        cases event with
        | cycle now =>
            have next := inductionHypothesis _ _ (cycle done machine now kept)
            rw [List.append_assoc] at next
            exact next
        | key number pressed =>
            exact inductionHypothesis _ _ (key done machine number pressed kept)
  exact extended [] start initial

/-- A number that grows by one in the cycles that pass a test, and in nothing
else, counts these cycles. -/
theorem follow_count (number : Machine → Nat) (counts : Turn → Bool)
    (cycle : ∀ turn, number turn.step.machine =
      number turn.machine + if counts turn then 1 else 0)
    (key : ∀ machine key pressed,
      number (respond machine (.key key pressed)) = number machine)
    (start : Machine) (events : List Event) :
    number (start.follow events) =
      number start + (start.turns events).countP counts := by
  apply turns_induction fun turns machine =>
    number machine = number start + turns.countP counts
  · rfl
  · intro turns machine now counted
    rw [List.countP_append, List.countP_singleton, ← Nat.add_assoc, ← counted]
    exact cycle ⟨machine, now⟩
  · intro turns machine moved pressed counted
    rw [key, counted]

end Machine

end ChipEight
