import ChipEight.Proofs.Switches
import Mathlib.Data.List.Forall2

namespace ChipEight

/-!
# Input channels

What a program does depends on its own bytes and on three channels from outside:
the clock, which it sees in the delay timer, the seed, which it sees in the
random bytes, and the keys.  Few operations listen to each channel.  As long as
none of them is fetched, two runs that differ only in what comes through the
channel do the same, cycle by cycle.  They raise the same faults, and they leave
the same contents in every part that the channel does not move.

The clock is the least simple of the three.  It moves the timers in both runs at
different cycles, and a program may set the timers without ever reading them.
Seed and keys move a part that no other operation writes.

Only the first run is asked not to listen.  That the second does not either is
a consequence, because both fetch the same words.
-/

/-- The ways in which something from outside reaches a program. -/
inductive Channel where
  | clock
  | seed
  | keys
deriving DecidableEq

/-- The channel that an operation listens to, if it listens to any. -/
def Operation.listensTo : Operation → Option Channel
  | .readDelay _ => some .clock
  | .random _ _ => some .seed
  | .skipIfKey _ | .skipIfNoKey _ | .awaitKey _ => some .keys
  | _ => none

namespace Channel

/-- The parts of a machine that a channel moves. -/
def parts : Channel → List Part
  | .clock => timerParts
  | .seed => [.random]
  | .keys => [.keypad]

/-- Two histories differ in nothing but what comes through a channel.  The
cycles of both correspond to each other, with other readings only if the channel
is the clock, and keys are moved alike unless the channel is the keys.  A seed is
not part of a history. -/
inductive Twins (channel : Channel) : List Event → List Event → Prop where
  | nil : Twins channel [] []
  | same {events others : List Event} (event : Event)
      (rest : Twins channel events others) :
      Twins channel (event :: events) (event :: others)
  | reading {events others : List Event} (clock : channel = .clock)
      (now later : Float) (rest : Twins channel events others) :
      Twins channel (.cycle now :: events) (.cycle later :: others)
  | keyHere {events others : List Event} (keys : channel = .keys)
      (number : Int) (pressed : Bool) (rest : Twins channel events others) :
      Twins channel (.key number pressed :: events) others
  | keyThere {events others : List Event} (keys : channel = .keys)
      (number : Int) (pressed : Bool) (rest : Twins channel events others) :
      Twins channel events (.key number pressed :: others)

/-- Two steps do the same outside a channel.  Behaviour and variant are left
out here, because they are chosen before anything comes through a channel. -/
structure Agree (channel : Channel) (first second : Step) : Prop where
  fault : second.fault = first.fault
  records : second.records = first.records
  parts : Machine.Frame (channel.parts ++ [.behaviour, .variant]) first.machine
    second.machine

/-- The mask over the parts that a channel moves. -/
def mask : Channel → Mask
  | .clock => .timers
  | .seed => .random
  | .keys => .keypad

/-- Two machines have the same switches on, and differ in nothing else but what
a channel moves and how the switches are written. -/
structure Alike (channel : Channel) (first second : Machine) : Prop where
  switches : ∀ switch,
    first.behaviour.isOn switch = second.behaviour.isOn switch
  same : second.masked channel.mask =
    (first.under second.behaviour second.variant).masked channel.mask

end Channel

/-! ## What the mask of a channel covers -/

namespace Machine

variable {channel : Channel}

theorem masked_frame (machine : Machine) :
    Frame channel.parts machine (machine.masked channel.mask) := by
  intro part outside
  cases channel <;> cases part <;>
    first | exact absurd (by decide) outside | rfl

theorem under_frame (machine : Machine) (behaviour : Behaviour)
    (variant : Variant) :
    Frame [.behaviour, .variant] machine (machine.under behaviour variant) := by
  intro part outside
  cases part <;> first | exact absurd (by decide) outside | rfl

/-- An operation that does not listen to a channel reads nothing under its
mask. -/
theorem readsAlike_of_unheard {operation : Operation}
    (unheard : operation.listensTo ≠ some channel) (machine : Machine) :
    operation.ReadsAlike machine (machine.masked channel.mask) := by
  cases operation with
  | readDelay _ =>
      cases channel with
      | clock => exact absurd rfl unheard
      | seed | keys => rfl
  | random _ _ =>
      cases channel with
      | seed => exact absurd rfl unheard
      | clock | keys => rfl
  | skipIfKey _ | skipIfNoKey _ | awaitKey _ =>
      cases channel with
      | keys => exact absurd rfl unheard
      | clock | seed => rfl
  | or _ _ | and _ _ | xor _ _ | shiftRight _ _ | shiftLeft _ _
  | storeRegisters _ | loadRegisters _ =>
      cases channel <;> rfl
  | _ => trivial

end Machine

/-! ## Events of two runs -/

namespace Channel

open Machine

variable {channel : Channel} {first second : Machine}

/-- What is left of the agreement when the switches and the mask are taken
off. -/
theorem Alike.agree {one other : Step}
    (same : other.masked channel.mask =
      (one.under second.behaviour second.variant).masked channel.mask) :
    channel.Agree one other := by
  have sameMachine : other.machine.masked channel.mask =
      (one.machine.under second.behaviour second.variant).masked channel.mask :=
    (congrArg Step.machine same :)
  constructor
  case fault => exact (congrArg Step.fault same :)
  case records => exact (congrArg Step.records same :)
  case parts =>
    intro part outside
    have unmoved : part ∉ channel.parts := fun present =>
      outside (List.mem_append_left _ present)
    have unchosen : part ∉ [Part.behaviour, .variant] := fun present =>
      outside (List.mem_append_right _ present)
    have there := other.machine.masked_frame part unmoved
    rw [sameMachine] at there
    have here := under_frame one.machine second.behaviour second.variant part
      unchosen
    exact (here.trans (masked_frame _ part unmoved)).trans there.symm

/-- A cycle whose operation does not listen keeps two machines alike, and does
the same to both. -/
theorem Alike.cycle (alike : channel.Alike first second) {now later : Float}
    (reading : SameReading channel.mask now later)
    (unheard : ∀ operation, first.Fetches operation →
      operation.listensTo ≠ some channel) :
    channel.Alike (first.cycle now).machine (second.cycle later).machine ∧
      channel.Agree (first.cycle now) (second.cycle later) := by
  let redressed := first.under second.behaviour second.variant
  have lockstep : redressed.cycle now =
      (first.cycle now).under second.behaviour second.variant :=
    first.cycle_under now fun operation _ switch _ => alike.switches switch
  have same : (second.cycle later).masked channel.mask =
      ((first.cycle now).under second.behaviour second.variant).masked
        channel.mask := by
    rw [← lockstep]
    apply cycle_masked alike.same reading
    · intro operation fetches
      exact readsAlike_of_unheard (unheard operation fetches) _
    · intro operation fetches
      exact readsAlike_of_unheard
        (unheard operation ((fetches_of_same_masked alike.same).mp fetches)) _
  rcases second.respond_setup (.cycle later) with ⟨secondBehaviour, secondVariant⟩
  simp only [respond] at secondBehaviour secondVariant
  refine ⟨⟨?_, ?_⟩, Alike.agree same⟩
  · have firstBehaviour := (first.respond_setup (.cycle now)).1
    simp only [respond] at firstBehaviour
    rw [firstBehaviour, secondBehaviour]
    exact alike.switches
  · rw [secondBehaviour, secondVariant]
    exact congrArg Step.machine same

/-- A key that is moved in both runs keeps their machines alike, whether or not
the channel is the keys. -/
theorem Alike.keyBoth (alike : channel.Alike first second) (number : Int)
    (pressed : Bool) :
    channel.Alike (first.respond (.key number pressed))
      (second.respond (.key number pressed)) := by
  rcases second.respond_setup (.key number pressed) with
    ⟨secondBehaviour, secondVariant⟩
  constructor
  · rw [(first.respond_setup (.key number pressed)).1, secondBehaviour]
    exact alike.switches
  · rw [secondBehaviour, secondVariant, ← respond_key_under,
      ← second.respond_key_masked, alike.same, respond_key_masked]

theorem Alike.keyHere (alike : channel.Alike first second)
    (keys : channel = .keys) (number : Int) (pressed : Bool) :
    channel.Alike (first.respond (.key number pressed)) second := by
  subst keys
  rcases first.respond_key number pressed with ⟨keypad, moved⟩
  rw [moved]
  exact ⟨alike.switches, alike.same⟩

theorem Alike.keyThere (alike : channel.Alike first second)
    (keys : channel = .keys) (number : Int) (pressed : Bool) :
    channel.Alike first (second.respond (.key number pressed)) := by
  subst keys
  rcases second.respond_key number pressed with ⟨keypad, moved⟩
  rw [moved]
  exact ⟨alike.switches, alike.same⟩

/-! ## Two histories -/

/-- Cycles hear nothing from a channel if none of the operations that they
fetch listens to it. -/
theorem unheard_of_fetched {turns : List Turn}
    (quiet : ∀ turn ∈ turns,
      turn.machine.fetched?.bind Operation.listensTo ≠ some channel) :
    ∀ turn ∈ turns, ∀ operation,
      turn.machine.Fetches operation → operation.listensTo ≠ some channel := by
  intro turn present operation fetches
  have unheard := quiet turn present
  rw [fetched?_eq_some_iff.mpr fetches] at unheard
  exact unheard

/-- Machines that are alike stay so through histories that differ only in what
comes through the channel, and all their cycles agree. -/
theorem Twins.agree {events others : List Event}
    (twins : channel.Twins events others)
    (alike : channel.Alike first second)
    (unheard : ∀ turn ∈ first.turns events, ∀ operation,
      turn.machine.Fetches operation → operation.listensTo ≠ some channel) :
    List.Forall₂ channel.Agree ((first.turns events).map Turn.step)
      ((second.turns others).map Turn.step) := by
  induction twins generalizing first second with
  | nil => exact .nil
  | same event rest inductionHypothesis =>
      cases event with
      | cycle now =>
          rcases alike.cycle (Or.inr rfl) (unheard _ List.mem_cons_self) with
            ⟨next, agree⟩
          apply List.Forall₂.cons agree
          apply inductionHypothesis next
          intro turn later
          exact unheard turn (List.mem_cons_of_mem _ later)
      | key number pressed =>
          exact inductionHypothesis (alike.keyBoth number pressed) unheard
  | reading clock now later rest inductionHypothesis =>
      have covered : channel.mask = .timers := by
        rw [clock]
        rfl
      rcases alike.cycle (Or.inl covered) (unheard _ List.mem_cons_self) with
        ⟨next, agree⟩
      apply List.Forall₂.cons agree
      apply inductionHypothesis next
      intro turn later
      exact unheard turn (List.mem_cons_of_mem _ later)
  | keyHere keys number pressed rest inductionHypothesis =>
      exact inductionHypothesis (alike.keyHere keys number pressed) unheard
  | keyThere keys number pressed rest inductionHypothesis =>
      exact inductionHypothesis (alike.keyThere keys number pressed) unheard

section Loading

variable {request other : LoadRequest} {here there : Surroundings}
  {one another : Step}

/-- Machines that are loaded with the same program and the same switches are
alike, if seed and clock reading are the same or come through the channel. -/
theorem load_alike (loaded : load request here = .ok one)
    (otherLoaded : load other there = .ok another)
    (sameProgram : request.source.read here.lookup =
      other.source.read there.lookup)
    (sameSwitches : ∀ switch, one.machine.behaviour.isOn switch =
      another.machine.behaviour.isOn switch)
    (sameSeed : channel ≠ .seed → chosenSeed request here.timestamp =
      chosenSeed other there.timestamp)
    (sameClock : channel ≠ .clock → here.now = there.now) :
    channel.Alike one.machine another.machine := by
  rcases load_boots loaded with ⟨rom, variant, found, _, _, booted⟩
  rcases load_boots otherLoaded with ⟨otherRom, otherVariant, otherFound, _, _,
    otherBooted⟩
  have sameRom : otherRom = rom := by
    rw [sameProgram, otherFound] at found
    exact Except.ok.inj found
  refine ⟨sameSwitches, ?_⟩
  rw [booted, otherBooted, sameRom]
  cases channel with
  | clock =>
      rw [sameSeed (by simp)]
      rfl
  | seed =>
      rw [sameClock (by simp)]
      simp only [boot, fresh, under, masked, Channel.mask, Mask.randomOf]
  | keys =>
      rw [sameSeed (by simp), sameClock (by simp)]
      rfl

end Loading

end Channel

namespace Machine

/-- Take two machines that were loaded with the same program and have the same
switches on, and two histories.  If they differ only in what comes through one
channel, and no cycle of the first fetches an operation that listens to this
channel, then the cycles of both correspond to each other.  Each cycle raises
the same fault as the other or none, and leaves the same contents outside the
channel.  Nothing that happens changes the behaviour or the variant that were
chosen on loading. -/
theorem unheard_channel_leaves_no_trace (channel : Channel)
    {request other : LoadRequest} {here there : Surroundings}
    {first second : Step} {events others : List Event}
    (loaded : load request here = .ok first)
    (otherLoaded : load other there = .ok second)
    (sameProgram : request.source.read here.lookup =
      other.source.read there.lookup)
    (sameSwitches : ∀ switch, first.machine.behaviour.isOn switch =
      second.machine.behaviour.isOn switch)
    (sameSeed : channel ≠ .seed → chosenSeed request here.timestamp =
      chosenSeed other there.timestamp)
    (sameClock : channel ≠ .clock → here.now = there.now)
    (twins : channel.Twins events others)
    (unheard : ∀ turn ∈ first.machine.turns events, ∀ operation,
      turn.machine.Fetches operation → operation.listensTo ≠ some channel) :
    List.Forall₂ channel.Agree ((first.machine.turns events).map Turn.step)
        ((second.machine.turns others).map Turn.step) ∧
      ∀ (machine : Machine) (history : List Event),
        (machine.follow history).behaviour = machine.behaviour ∧
          (machine.follow history).variant = machine.variant := by
  refine ⟨?_, fun machine history => machine.follow_setup history⟩
  apply twins.agree _ unheard
  exact Channel.load_alike loaded otherLoaded sameProgram sameSwitches sameSeed
    sameClock

/-- A program that sets the delay timer and then stores random bytes for
ever. -/
def diceRoller : Rom where
  bytes := [0x60, 0x05, 0xF0, 0x15, 0xC1, 0xFF, 0x12, 0x04]
  nonempty := by decide
  fits := by decide

/-- The program never reads the timer, reads no key, and draws no random byte
in its first two cycles.  The third history moves a key that does not exist. -/
theorem diceRoller_heeds_no_channel :
    ∃ here there first late reseeded, ∃ request other : LoadRequest,
      load request here = .ok first ∧ load request there = .ok late ∧
        load other here = .ok reseeded ∧
        List.Forall₂ (Channel.Agree .clock)
          ((first.machine.turns
            [.cycle 0, .cycle 0, .cycle 0, .cycle 0]).map Turn.step)
          ((late.machine.turns
            [.cycle 3, .cycle 9, .cycle 1, .cycle 9]).map Turn.step) ∧
        List.Forall₂ (Channel.Agree .seed)
          ((first.machine.turns [.cycle 0, .cycle 1]).map Turn.step)
          ((reseeded.machine.turns [.cycle 0, .cycle 1]).map Turn.step) ∧
        List.Forall₂ (Channel.Agree .keys)
          ((first.machine.turns
            [.key 3 true, .cycle 0, .cycle 0, .cycle 0]).map Turn.step)
          ((first.machine.turns
            [.cycle 0, .key 16 true, .cycle 0, .cycle 0]).map Turn.step) := by
  have plain : Behaviour.unknownSwitches [] = [] := by
    simp [Behaviour.unknownSwitches]
  let here : Surroundings := ⟨fun _ => .ok [], 0, 0⟩
  let there : Surroundings := ⟨fun _ => .ok [], 2, 0⟩
  rcases load_of_known diceRoller .chipEight plain 1 here with
    ⟨first, loaded, booted⟩
  rcases load_of_known diceRoller .chipEight plain 1 there with
    ⟨late, lateLoaded, lateBooted⟩
  rcases load_of_known diceRoller .chipEight plain 2 here with
    ⟨reseeded, reseededLoaded, reseededBooted⟩
  refine ⟨here, there, first, late, reseeded, _, _, loaded, lateLoaded,
    reseededLoaded, ?_, ?_, ?_⟩
  · refine (unheard_channel_leaves_no_trace .clock loaded lateLoaded rfl ?_
      (fun _ => rfl) (fun other => absurd rfl other) ?_ ?_).1
    · rw [booted, lateBooted]
      exact fun _ => rfl
    · iterate 4 apply Channel.Twins.reading rfl
      exact .nil
    · rw [booted]
      exact Channel.unheard_of_fetched (by decide +kernel)
  · refine (unheard_channel_leaves_no_trace .seed loaded reseededLoaded rfl ?_
      (fun other => absurd rfl other) (fun _ => rfl) ?_ ?_).1
    · rw [booted, reseededBooted]
      exact fun _ => rfl
    · iterate 2 apply Channel.Twins.same
      exact .nil
    · rw [booted]
      exact Channel.unheard_of_fetched (by decide +kernel)
  · refine (unheard_channel_leaves_no_trace .keys loaded loaded rfl
      (fun _ => rfl) (fun _ => rfl) (fun _ => rfl) ?_ ?_).1
    · apply Channel.Twins.keyHere rfl
      apply Channel.Twins.same
      apply Channel.Twins.keyThere rfl
      iterate 2 apply Channel.Twins.same
      exact .nil
    · rw [booted]
      exact Channel.unheard_of_fetched (by decide +kernel)

end Machine

end ChipEight
