import ChipEight.Proofs.Frames
import ChipEight.Proofs.Masks

namespace ChipEight

/-!
# Where the switches matter

The behaviour of a machine is three switches.  The bitwise operations consult
one of them, the shifts another, storing and loading registers the last, and all
other operations none.  The variant is consulted nowhere: it only decides how the
switches are set at first.

So two machines that were loaded alike, except for their variants and overrides,
stay in lockstep as long as the operations they execute consult switches that
are on in both or in neither.  What is on is all that counts, not the value that
a host wrote to turn it on.

The proof replaces the behaviour and the variant of a machine, which is one of
the masks, and shows that this commutes with a cycle and then with a history.
-/

/-- The switches of the behaviour. -/
inductive Switch where
  | logic
  | shifting
  | memory
  deriving DecidableEq

/-- The name by which a host overrides a switch. -/
def Switch.name : Switch → String
  | .logic => "logic"
  | .shifting => "shifting"
  | .memory => "memory"

/-- The switch that an operation consults, if it consults any. -/
def Operation.consults : Operation → Option Switch
  | .or _ _ | .and _ _ | .xor _ _ => some .logic
  | .shiftRight _ _ | .shiftLeft _ _ => some .shifting
  | .storeRegisters _ | .loadRegisters _ => some .memory
  | _ => none

namespace Behaviour

/-- Whether a switch is on. -/
def isOn (behaviour : Behaviour) : Switch → Bool
  | .logic => behaviour.logic.isOn
  | .shifting => behaviour.shifting.isOn
  | .memory => behaviour.memory.isOn

/-- The switch that an operation consults is on in both behaviours or in
neither. -/
def AgreeFor (first second : Behaviour) (operation : Operation) : Prop :=
  ∀ switch, operation.consults = some switch →
    first.isOn switch = second.isOn switch

/-- Setting a switch by its name decides this switch and no other. -/
theorem set_isOn (behaviour : Behaviour) (name : String) (setting : Setting)
    (switch : Switch) :
    (behaviour.set name setting).isOn switch =
      if name = switch.name then setting.isOn else behaviour.isOn switch := by
  cases switch <;> grind [set, isOn, Switch.name]

/-- Every switch is overridden, and each override is on or each is off. -/
def AllOverridden (overrides : List (String × Setting)) (on : Bool) : Prop :=
  (∀ switch : Switch, switch.name ∈ overrides.map Prod.fst) ∧
    ∀ entry ∈ overrides, entry.2.isOn = on

/-- Overrides that agree decide each switch that they name, and leave a switch
that was already set like them. -/
theorem override_isOn {overrides : List (String × Setting)} {on : Bool}
    (alike : ∀ entry ∈ overrides, entry.2.isOn = on) {behaviour : Behaviour}
    {switch : Switch}
    (decided : switch.name ∈ overrides.map Prod.fst ∨
      behaviour.isOn switch = on) :
    (behaviour.override overrides).isOn switch = on := by
  induction overrides generalizing behaviour with
  | nil => exact decided.resolve_left List.not_mem_nil
  | cons entry rest inductionHypothesis =>
      refine inductionHypothesis
        (fun later present => alike later (List.mem_cons_of_mem _ present)) ?_
      rw [set_isOn, alike entry List.mem_cons_self]
      rcases decided with named | already
      · rcases List.mem_cons.mp named with first | later
        · rw [if_pos first.symm]
          exact Or.inr rfl
        · exact Or.inl later
      · rw [already, ite_self]
        exact Or.inr rfl

end Behaviour

/-- Whether the switches of a variant are on. -/
def Variant.switchesOn : Variant → Bool
  | .chipEight => true
  | .superChip => false

theorem Behaviour.ofVariant_isOn (variant : Variant) (switch : Switch) :
    (ofVariant variant).isOn switch = variant.switchesOn := by
  cases variant <;> cases switch <;> rfl

/-! ## Another behaviour -/

namespace Machine

/-- A machine with another behaviour and another variant. -/
def under (behaviour : Behaviour) (variant : Variant) (machine : Machine) :
    Machine :=
  { machine with behaviour := behaviour, variant := variant }

end Machine

/-- A step that leaves its machine with another behaviour and another variant. -/
def Step.under (behaviour : Behaviour) (variant : Variant) (step : Step) : Step :=
  { step with machine := step.machine.under behaviour variant }

namespace Machine

/-! ## Cycles -/

section Cycles

variable {behaviour : Behaviour} {variant : Variant} (machine : Machine)

/-- Another behaviour is no difference to an operation for which it agrees with
the present one. -/
theorem readsAlike_under {operation : Operation}
    (agree : machine.behaviour.AgreeFor behaviour operation) :
    operation.ReadsAlike machine (machine.under behaviour variant) := by
  cases operation with
  | or _ _ | and _ _ | xor _ _ => exact agree .logic rfl
  | shiftRight _ _ | shiftLeft _ _ => exact agree .shifting rfl
  | storeRegisters _ | loadRegisters _ => exact agree .memory rfl
  | readDelay _ | random _ _ | skipIfKey _ | skipIfNoKey _ | awaitKey _ =>
      exact rfl
  | _ => trivial

theorem under_of_same {left : Machine} (sameBehaviour : left.behaviour = behaviour)
    (sameVariant : left.variant = variant) : left.under behaviour variant = left := by
  cases left
  cases sameBehaviour
  cases sameVariant
  rfl

/-- A cycle leaves the behaviour and the variant that it was given. -/
theorem cycle_under_setup (now : Float) :
    ((machine.under behaviour variant).cycle now).under behaviour variant =
      (machine.under behaviour variant).cycle now := by
  rcases (machine.under behaviour variant).respond_setup (.cycle now) with
    ⟨sameBehaviour, sameVariant⟩
  have sameMachine := under_of_same sameBehaviour sameVariant
  exact congrArg (fun left => { (machine.under behaviour variant).cycle now with
    machine := left }) sameMachine

/-- A cycle that executes an operation for which the behaviours agree does the
same under both.  A cycle that executes nothing consults nothing. -/
theorem cycle_under (now : Float)
    (agree : ∀ operation, machine.Fetches operation →
      machine.behaviour.AgreeFor behaviour operation) :
    (machine.under behaviour variant).cycle now =
      (machine.cycle now).under behaviour variant := by
  rw [← cycle_under_setup]
  have same : (machine.under behaviour variant).masked (.setup behaviour variant) =
      machine.masked (.setup behaviour variant) := rfl
  apply cycle_masked same (Or.inr rfl)
  · intro operation fetches
    apply readsAlike_under
    rw [advanced_eq]
    exact agree operation fetches
  · intro operation _
    apply readsAlike_under
    rw [advanced_eq]
    exact fun _ _ => rfl

end Cycles

/-! ## Histories -/

/-- The fault that an event raises, if it raises one. -/
def faultOf (machine : Machine) : Event → Option Fault
  | .cycle now => (machine.cycle now).fault
  | .key number pressed =>
      match machine.setKey number pressed with
      | .ok _ => none
      | .error fault => some fault

/-- Every operation that a history executes consults only switches that are on
in both behaviours or in neither. -/
def AgreesThrough (machine : Machine) (behaviour : Behaviour)
    (events : List Event) : Prop :=
  ∀ earlier now later operation, events = earlier ++ .cycle now :: later →
    (machine.follow earlier).Fetches operation →
      machine.behaviour.AgreeFor behaviour operation

section Histories

variable {machine : Machine} {behaviour : Behaviour} {variant : Variant}
  {event : Event} {events rest : List Event}

theorem AgreesThrough.head
    (agrees : machine.AgreesThrough behaviour (event :: rest))
    {now : Float} (cycles : event = .cycle now) (operation : Operation)
    (fetches : machine.Fetches operation) :
    machine.behaviour.AgreeFor behaviour operation :=
  agrees [] now rest operation (by rw [cycles]; rfl) fetches

/-- What happened does not change the behaviour. -/
theorem AgreesThrough.after (earlier : List Event) {later : List Event}
    (agrees : machine.AgreesThrough behaviour (earlier ++ later)) :
    (machine.follow earlier).AgreesThrough behaviour later := by
  intro between now rest operation split fetches
  rw [(machine.follow_setup earlier).1]
  refine agrees (earlier ++ between) now rest operation ?_ ?_
  · rw [split, List.append_assoc]
  · rw [follow, List.foldl_append]
    exact fetches

theorem AgreesThrough.before {earlier later : List Event}
    (agrees : machine.AgreesThrough behaviour (earlier ++ later)) :
    machine.AgreesThrough behaviour earlier := by
  intro start now rest operation split fetches
  refine agrees start now (rest ++ later) operation ?_ fetches
  rw [split, List.append_assoc, List.cons_append]

theorem setKey_under (number : Int) (pressed : Bool) :
    (machine.under behaviour variant).setKey number pressed =
      (machine.setKey number pressed).map (under behaviour variant) := by
  have sameKeypad : (machine.under behaviour variant).keypad = machine.keypad := rfl
  rw [setKey, setKey, sameKeypad]
  cases machine.keypad.set number pressed <;> rfl

theorem respond_key_under (number : Int) (pressed : Bool) :
    (machine.under behaviour variant).respond (.key number pressed) =
      (machine.respond (.key number pressed)).under behaviour variant := by
  simp only [respond, setKey_under]
  cases machine.setKey number pressed <;> rfl

theorem respond_under
    (agrees : machine.AgreesThrough behaviour (event :: rest)) :
    (machine.under behaviour variant).respond event =
      (machine.respond event).under behaviour variant := by
  cases event with
  | cycle now =>
      exact congrArg Step.machine (machine.cycle_under now (agrees.head rfl))
  | key number pressed => exact respond_key_under number pressed

theorem faultOf_under
    (agrees : machine.AgreesThrough behaviour (event :: rest)) :
    (machine.under behaviour variant).faultOf event = machine.faultOf event := by
  cases event with
  | cycle now =>
      have cycled : (machine.under behaviour variant).cycle now =
          (machine.cycle now).under behaviour variant :=
        machine.cycle_under now (agrees.head rfl)
      rw [faultOf, cycled]
      rfl
  | key number pressed =>
      simp only [faultOf, setKey_under]
      cases machine.setKey number pressed <;> rfl

theorem follow_under (agrees : machine.AgreesThrough behaviour events) :
    (machine.under behaviour variant).follow events =
      (machine.follow events).under behaviour variant := by
  induction events generalizing machine with
  | nil => rfl
  | cons event rest inductionHypothesis =>
      change ((machine.under behaviour variant).respond event).follow rest = _
      rw [respond_under agrees]
      exact inductionHypothesis (agrees.after [event])

end Histories

/-! ## Two machines side by side -/

/-- Two machines have the same content in every part but the behaviour and the
variant. -/
structure Alike (first second : Machine) : Prop where
  pc : first.pc = second.pc
  index : first.index = second.index
  registers : first.registers = second.registers
  memory : first.memory = second.memory
  stack : first.stack = second.stack
  timers : first.timers = second.timers
  display : first.display = second.display
  keypad : first.keypad = second.keypad
  random : first.random = second.random
  tally : first.tally = second.tally

theorem alike_under (machine : Machine) (behaviour : Behaviour)
    (variant : Variant) : Alike machine (machine.under behaviour variant) :=
  ⟨rfl, rfl, rfl, rfl, rfl, rfl, rfl, rfl, rfl, rfl⟩

/-- Two machines are alike before, between and after the events of a history,
and every event raises the same fault in both or in neither. -/
structure Lockstep (first second : Machine) (events : List Event) : Prop where
  states : ∀ earlier later, events = earlier ++ later →
    Alike (first.follow earlier) (second.follow earlier)
  faults : ∀ earlier event later, events = earlier ++ event :: later →
    (first.follow earlier).faultOf event = (second.follow earlier).faultOf event

theorem AgreesThrough.lockstep {machine : Machine} {behaviour : Behaviour}
    {events : List Event} (agrees : machine.AgreesThrough behaviour events)
    (variant : Variant) :
    Lockstep machine (machine.under behaviour variant) events where
  states := by
    rintro earlier later rfl
    rw [follow_under agrees.before]
    exact alike_under _ behaviour variant
  faults := by
    rintro earlier event later rfl
    rw [follow_under agrees.before, faultOf_under (agrees.after earlier)]

/-- Two loaded machines with the same program, seed and clock differ in nothing
but their behaviour and variant. -/
theorem load_under {request other : LoadRequest} {here there : Surroundings}
    {first second : Step} (loaded : load request here = .ok first)
    (otherLoaded : load other there = .ok second)
    (sameProgram : request.source.read here.lookup =
      other.source.read there.lookup)
    (sameSeed : chosenSeed request here.timestamp =
      chosenSeed other there.timestamp)
    (sameClock : here.now = there.now) :
    second.machine =
      first.machine.under second.machine.behaviour second.machine.variant := by
  rcases load_boots loaded with ⟨rom, variant, found, _, _, booted⟩
  rcases load_boots otherLoaded with ⟨otherRom, otherVariant, otherFound, _, _,
    otherBooted⟩
  have sameRom : otherRom = rom := by
    rw [sameProgram, otherFound] at found
    exact Except.ok.inj found
  rw [otherBooted, booted, sameRom, ← sameSeed, ← sameClock]
  rfl

/-- Two machines that are loaded with the same program, seed and clock, under
any variants and overrides, stay in lockstep through every history in which the
first executes only operations that consult switches on which both agree.  If
all switches of the first are overridden as the variant of the second has them,
and the second is not overridden, then they stay in lockstep through every
history, whatever it executes. -/
theorem switches_decide {request other : LoadRequest}
    {here there : Surroundings} {first second : Step}
    (loaded : load request here = .ok first)
    (otherLoaded : load other there = .ok second)
    (sameProgram : request.source.read here.lookup =
      other.source.read there.lookup)
    (sameSeed : chosenSeed request here.timestamp =
      chosenSeed other there.timestamp)
    (sameClock : here.now = there.now) :
    (∀ events,
      first.machine.AgreesThrough second.machine.behaviour events →
        Lockstep first.machine second.machine events) ∧
      ∀ variant, Variant.ofSetting? other.variant = some variant →
        other.overrides = [] →
          Behaviour.AllOverridden request.overrides variant.switchesOn →
            ∀ events, Lockstep first.machine second.machine events := by
  have redressed :=
    load_under loaded otherLoaded sameProgram sameSeed sameClock
  have lockstep : ∀ events,
      first.machine.AgreesThrough second.machine.behaviour events →
        Lockstep first.machine second.machine events := by
    intro events agrees
    rw [redressed]
    exact agrees.lockstep second.machine.variant
  refine ⟨lockstep, ?_⟩
  intro variant named plain overridden events
  -- No switch tells the machines apart, so it does not matter what is executed.
  apply lockstep
  intro earlier now later operation _ _ switch _
  rcases load_boots loaded with ⟨rom, _, _, _, _, booted⟩
  rcases load_boots otherLoaded with ⟨_, otherVariant, _, otherNamed, _,
    otherBooted⟩
  cases named.symm.trans otherNamed
  rw [booted, otherBooted, plain]
  change ((Behaviour.ofVariant _).override request.overrides).isOn switch =
    (Behaviour.ofVariant variant).isOn switch
  rw [Behaviour.ofVariant_isOn,
    Behaviour.override_isOn overridden.2 (Or.inl (overridden.1 switch))]

/-- A program that shifts a register and then rests. -/
def shifter : Rom where
  bytes := [0x80, 0x16, 0x12, 0x02]
  nonempty := by decide
  fits := by decide

/-- In the first pair of machines one has the switch for bitwise operations off
and one has it on, but the program executes no such operation.  In the second
pair they are of different variants, and the values 0, "" and nothing turn the
three switches off. -/
theorem shifter_in_lockstep :
    (∃ request other surroundings first second,
      load request surroundings = .ok first ∧
        load other surroundings = .ok second ∧
          first.machine.behaviour.isOn .logic ≠
            second.machine.behaviour.isOn .logic ∧
          Lockstep first.machine second.machine
            [.cycle 0, .key 3 true, .cycle 0]) ∧
      ∃ request other surroundings first second,
        load request surroundings = .ok first ∧
          load other surroundings = .ok second ∧
            first.machine.variant ≠ second.machine.variant ∧
            ∀ events, Lockstep first.machine second.machine events := by
  have plain : Behaviour.unknownSwitches [] = [] := by
    simp [Behaviour.unknownSwitches]
  let surroundings : Surroundings := ⟨fun _ => .ok [], 0, 0⟩
  constructor
  · have known : Behaviour.unknownSwitches [("logic", .number 0)] = [] := by
      simp [Behaviour.unknownSwitches, Behaviour.switches]
    rcases load_of_known shifter .chipEight known 0 surroundings with
      ⟨first, loaded, booted⟩
    rcases load_of_known shifter .chipEight plain 0 surroundings with
      ⟨second, otherLoaded, otherBooted⟩
    refine ⟨_, _, surroundings, first, second, loaded, otherLoaded, ?_, ?_⟩
    · rw [booted, otherBooted]
      decide
    refine (switches_decide loaded otherLoaded rfl rfl rfl).1 _ ?_
    intro earlier now later operation split fetches switch consulted
    rcases earlier with _ | ⟨one, _ | ⟨two, _ | ⟨three, rest⟩⟩⟩
    · have shifts : first.machine.Fetches (.shiftRight 0 1) := by
        rw [booted]
        decide +kernel
      cases fetches.unique shifts
      cases consulted
      rw [booted, otherBooted]
      rfl
    · simp at split
    · simp only [List.cons_append, List.nil_append, List.cons.injEq] at split
      rcases split with ⟨rfl, rfl, _⟩
      have jumps : (first.machine.follow [.cycle 0, .key 3 true]).Fetches
          (.jump 0x202) := by
        rw [booted]
        decide +kernel
      cases fetches.unique jumps
      contradiction
    · simp at split
  · let overrides : List (String × Setting) :=
      [("memory", .null), ("logic", .number 0), ("shifting", .text "")]
    have known : Behaviour.unknownSwitches overrides = [] := by
      simp [overrides, Behaviour.unknownSwitches, Behaviour.switches]
    have overridden : Behaviour.AllOverridden overrides false := by
      refine ⟨fun switch => ?_, ?_⟩
      · cases switch <;> decide
      · simp [overrides, Setting.isOn]
    rcases load_of_known shifter .chipEight known 0 surroundings with
      ⟨first, loaded, booted⟩
    rcases load_of_known shifter .superChip plain 0 surroundings with
      ⟨second, otherLoaded, otherBooted⟩
    refine ⟨_, _, surroundings, first, second, loaded, otherLoaded, ?_, ?_⟩
    · rw [booted, otherBooted]
      decide
    · exact (switches_decide loaded otherLoaded rfl rfl rfl).2 .superChip
        (by decide) rfl overridden

end Machine

end ChipEight
