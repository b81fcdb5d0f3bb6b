import ChipEight.Proofs.Effects
import ChipEight.Proofs.History

namespace ChipEight

/-!
# Frames

Each operation writes a few parts of the machine and leaves the others as they
are, whether it is accepted or refused and whatever its operands are.  The table
`Operation.writes` names these parts.  A cycle moves the program counter, the
timers and the counters besides.  No operation writes the keypad, the behaviour
or the variant.

`Effect` says how the steering parts move.  A frame says less about the parts
that may change and more about those that may not: here memory, registers and
display are told apart.
-/

/-- The parts of a machine. -/
inductive Part where
  | memory
  | registers
  | index
  | pc
  | stack
  | delay
  | sound
  | reference
  | display
  | keypad
  | random
  | behaviour
  | variant
  /-- The counter of the countdowns. -/
  | countdowns
  /-- The other counters. -/
  | tally
  deriving DecidableEq

/-- The counters without that of the countdowns. -/
def Tally.others (tally : Tally) : Tally :=
  { tally with timerTicks := 0 }

/-- Two machines have the same content in a part. -/
def Part.Same : Part → Machine → Machine → Prop
  | .memory, before, after => after.memory = before.memory
  | .registers, before, after => after.registers = before.registers
  | .index, before, after => after.index = before.index
  | .pc, before, after => after.pc = before.pc
  | .stack, before, after => after.stack = before.stack
  | .delay, before, after => after.timers.delay = before.timers.delay
  | .sound, before, after => after.timers.sound = before.timers.sound
  | .reference, before, after => after.timers.reference = before.timers.reference
  | .display, before, after => after.display = before.display
  | .keypad, before, after => after.keypad = before.keypad
  | .random, before, after => after.random = before.random
  | .behaviour, before, after => after.behaviour = before.behaviour
  | .variant, before, after => after.variant = before.variant
  | .countdowns, before, after =>
      after.tally.timerTicks = before.tally.timerTicks
  | .tally, before, after => after.tally.others = before.tally.others

theorem Part.Same.refl (part : Part) (machine : Machine) :
    part.Same machine machine := by
  cases part <;> rfl

theorem Part.Same.symm {part : Part} {first second : Machine}
    (same : part.Same first second) : part.Same second first := by
  cases part <;> exact Eq.symm same

theorem Part.Same.trans {part : Part} {first second third : Machine}
    (one : part.Same first second) (other : part.Same second third) :
    part.Same first third := by
  cases part <;> exact Eq.trans other one

/-- The parts that an operation may write. -/
def Operation.writes : Operation → List Part
  | .system _ | .unassigned _ => []
  | .clearDisplay => [.display, .tally]
  | .returnFromCall | .call _ => [.pc, .stack, .tally]
  | .jump _ | .jumpOffset _ => [.pc, .tally]
  | .skipIfEqual _ _ | .skipIfNotEqual _ _ | .skipIfSame _ _
  | .skipIfDifferent _ _ | .skipIfKey _ | .skipIfNoKey _ => [.pc]
  | .load _ _ | .add _ _ | .copy _ _ | .or _ _ | .and _ _ | .xor _ _
  | .addRegister _ _ | .subtract _ _ | .subtractFrom _ _ | .shiftRight _ _
  | .shiftLeft _ _ | .readDelay _ => [.registers]
  | .setIndex _ | .addIndex _ | .setIndexToGlyph _ => [.index]
  | .random _ _ => [.registers, .random]
  | .draw _ _ _ => [.registers, .display, .tally]
  | .awaitKey _ => [.registers, .pc, .tally]
  | .setDelay _ => [.delay]
  | .setSound _ => [.sound]
  | .storeDecimal _ => [.memory]
  | .storeRegisters _ => [.memory, .index]
  | .loadRegisters _ => [.registers, .index]

/-- The parts that counting the timers down may write. -/
def timerParts : List Part :=
  [.delay, .sound, .reference, .countdowns]

/-- The parts that only a host writes: the keys, which it moves, and the
behaviour and the variant, which it chooses when it loads. -/
def hostParts : List Part :=
  [.keypad, .behaviour, .variant]

theorem Operation.hostParts_unwritten (operation : Operation) {part : Part}
    (host : part ∈ hostParts) : part ∉ operation.writes := by
  simp only [hostParts, List.mem_cons, List.not_mem_nil, or_false] at host
  rcases host with rfl | rfl | rfl <;> cases operation <;> simp [writes]

namespace Machine

/-- All parts outside a list have the same content in two machines. -/
def Frame (parts : List Part) (before after : Machine) : Prop :=
  ∀ part, part ∉ parts → part.Same before after

section Frames

variable {machine after : Machine} {parts : List Part}

theorem Frame.refl : Frame parts machine machine :=
  fun part _ => Part.Same.refl part machine

theorem attempt_frame {result : Except Fault Machine}
    (accepted : ∀ after, result = .ok after → Frame parts machine after) :
    Frame parts machine (Step.attempt machine result).machine := by
  cases result with
  | ok after => exact accepted after rfl
  | error fault => exact .refl

theorem withRegisters_frame {registers : Except Fault Registers}
    (accepted : machine.withRegisters registers = .ok after) :
    Frame [.registers] machine after := by
  rcases accepted_map accepted with ⟨content, _, rfl⟩
  intro part outside
  cases part <;> first | exact absurd (by decide) outside | rfl

theorem continueAt_frame {address : Int}
    (accepted : machine.continueAt address = .ok after) :
    Frame [.pc] machine after := by
  rcases accepted_map accepted with ⟨target, _, rfl⟩
  intro part outside
  cases part <;> first | exact absurd (by decide) outside | rfl

theorem jump_frame {address : Int}
    (accepted : machine.jump address = .ok after) :
    Frame [.pc, .tally] machine after := by
  rcases accepted_map accepted with ⟨moved, continued, rfl⟩
  rcases accepted_map continued with ⟨target, _, rfl⟩
  intro part outside
  cases part <;> first | exact absurd (by decide) outside | rfl

theorem skipIf_frame {condition : Bool}
    (accepted : machine.skipIf condition = .ok after) :
    Frame [.pc] machine after := by
  unfold skipIf at accepted
  split at accepted
  · exact continueAt_frame accepted
  · cases accepted
    exact .refl

theorem skipOn_frame {x : Int} {condition : UInt8 → Bool}
    (accepted : machine.skipOn x condition = .ok after) :
    Frame [.pc] machine after := by
  rcases accepted_bind accepted with ⟨first, _, skipped⟩
  exact skipIf_frame skipped

theorem skipOnPair_frame {x y : Int} {condition : UInt8 → UInt8 → Bool}
    (accepted : machine.skipOnPair x y condition = .ok after) :
    Frame [.pc] machine after := by
  rcases accepted_bind accepted with ⟨first, _, rest⟩
  rcases accepted_bind rest with ⟨second, _, skipped⟩
  exact skipIf_frame skipped

theorem call_frame {address : Int}
    (accepted : machine.call address = .ok after) :
    Frame [.pc, .stack, .tally] machine after := by
  rcases accepted_bind accepted with ⟨target, _, rest⟩
  rcases accepted_bind rest with ⟨stack, _, called⟩
  cases called
  intro part outside
  cases part <;> first | exact absurd (by decide) outside | rfl

/-- A return that is refused late has written the stack, but nothing else. -/
theorem returnFromCall_frame :
    Frame [.pc, .stack, .tally] machine machine.returnFromCall.machine := by
  cases popped : machine.stack.pop with
  | error fault =>
      rw [returnFromCall, popped]
      exact .refl
  | ok content =>
      rw [machine.returnFromCall_of_popped popped]
      intro part outside
      split <;> cases part <;>
        first | exact absurd (by decide) outside | rfl

theorem awaitKey_frame {x : Int} (accepted : machine.awaitKey x = .ok after) :
    Frame [.registers, .pc, .tally] machine after := by
  unfold awaitKey at accepted
  intro part outside
  split at accepted
  · rcases accepted_map accepted with ⟨content, _, rfl⟩
    cases part <;> first | exact absurd (by decide) outside | rfl
  · cases accepted
    cases part <;> first | exact absurd (by decide) outside | rfl

theorem setDelay_frame {x : Int} (accepted : machine.setDelay x = .ok after) :
    Frame [.delay] machine after := by
  rcases accepted_map accepted with ⟨byte, _, rfl⟩
  intro part outside
  cases part <;> first | exact absurd (by decide) outside | rfl

theorem setSound_frame {x : Int} (accepted : machine.setSound x = .ok after) :
    Frame [.sound] machine after := by
  rcases accepted_map accepted with ⟨byte, _, rfl⟩
  intro part outside
  cases part <;> first | exact absurd (by decide) outside | rfl

theorem indexFrom_frame {x : Int} {index : UInt8 → Int}
    (accepted : machine.indexFrom x index = .ok after) :
    Frame [.index] machine after := by
  rcases accepted_map accepted with ⟨byte, _, rfl⟩
  intro part outside
  cases part <;> first | exact absurd (by decide) outside | rfl

theorem storeDecimal_frame {x : Int}
    (accepted : machine.storeDecimal x = .ok after) :
    Frame [.memory] machine after := by
  rcases accepted_bind accepted with ⟨byte, _, rest⟩
  rcases accepted_bind rest with ⟨memory, _, stored⟩
  cases stored
  intro part outside
  cases part <;> first | exact absurd (by decide) outside | rfl

theorem storeRegisters_frame {x : Int}
    (accepted : machine.storeRegisters x = .ok after) :
    Frame [.memory, .index] machine after := by
  rcases accepted_bind accepted with ⟨memory, _, stored⟩
  cases stored
  intro part outside
  unfold passBlock
  split <;> cases part <;> first | exact absurd (by decide) outside | rfl

theorem loadRegisters_frame {x : Int}
    (accepted : machine.loadRegisters x = .ok after) :
    Frame [.registers, .index] machine after := by
  rcases accepted_bind accepted with ⟨block, _, rest⟩
  simp only at rest
  split at rest
  · cases rest
    intro part outside
    unfold passBlock
    split <;> cases part <;> first | exact absurd (by decide) outside | rfl
  · contradiction

theorem clearDisplay_frame :
    Frame [.display, .tally] machine machine.clearDisplay := by
  intro part outside
  cases part <;> first | exact absurd (by decide) outside | rfl

theorem setIndex_frame (index : Int) :
    Frame [.index] machine { machine with index := index } := by
  intro part outside
  cases part <;> first | exact absurd (by decide) outside | rfl

theorem drawSprite_frame (x y height : Int) :
    Frame [.registers, .display, .tally] machine
      (machine.drawSprite x y height).machine := by
  unfold drawSprite
  split
  · exact .refl
  · intro part outside
    cases part <;> first | exact absurd (by decide) outside | rfl

theorem randomise_frame (x mask : Int) :
    Frame [.registers, .random] machine (machine.randomise x mask).machine := by
  intro part outside
  cases found : Registers.slot x with
  | error fault =>
      rw [machine.randomise_of_missing found]
      cases part <;> first | exact absurd (by decide) outside | rfl
  | ok register =>
      simp only [randomise, withRegisters, Registers.write, found, Except.map]
      cases part <;> first | exact absurd (by decide) outside | rfl

end Frames

/-- Executing an instruction leaves the parts that its operation does not
write. -/
theorem execute_frame (machine : Machine) (instruction : Instruction) :
    Frame instruction.operation.writes machine
      (machine.execute instruction).machine := by
  rcases instruction with ⟨word, operation⟩
  cases operation with
  | system _ | unassigned _ => exact .refl
  | clearDisplay => exact clearDisplay_frame
  | returnFromCall => exact returnFromCall_frame
  | jump _ | jumpOffset _ =>
      exact attempt_frame fun _ accepted => jump_frame accepted
  | call _ => exact attempt_frame fun _ accepted => call_frame accepted
  | skipIfEqual _ _ | skipIfNotEqual _ _ | skipIfKey _ | skipIfNoKey _ =>
      exact attempt_frame fun _ accepted => skipOn_frame accepted
  | skipIfSame _ _ | skipIfDifferent _ _ =>
      exact attempt_frame fun _ accepted => skipOnPair_frame accepted
  | load _ _ | add _ _ | copy _ _ | or _ _ | and _ _ | xor _ _
  | addRegister _ _ | subtract _ _ | subtractFrom _ _ | shiftRight _ _
  | shiftLeft _ _ | readDelay _ =>
      exact attempt_frame fun _ accepted => withRegisters_frame accepted
  | setIndex address => exact setIndex_frame address
  | random x mask => exact randomise_frame x mask
  | draw x y height => exact drawSprite_frame x y height
  | awaitKey _ => exact attempt_frame fun _ accepted => awaitKey_frame accepted
  | setDelay _ => exact attempt_frame fun _ accepted => setDelay_frame accepted
  | setSound _ => exact attempt_frame fun _ accepted => setSound_frame accepted
  | addIndex _ | setIndexToGlyph _ =>
      exact attempt_frame fun _ accepted => indexFrom_frame accepted
  | storeDecimal _ =>
      exact attempt_frame fun _ accepted => storeDecimal_frame accepted
  | storeRegisters _ =>
      exact attempt_frame fun _ accepted => storeRegisters_frame accepted
  | loadRegisters _ =>
      exact attempt_frame fun _ accepted => loadRegisters_frame accepted

/-! ## Cycles -/

/-- The parts that a cycle may write besides those of its operation. -/
def cycleParts : List Part :=
  timerParts ++ [.pc, .tally]

section Cycles

variable (machine : Machine)

theorem tick_frame (now : Float) :
    Frame timerParts machine (machine.tick now) := by
  intro part outside
  rw [tick_eq]
  cases part <;> first | exact absurd (by decide) outside | rfl

theorem advanced_frame (now : Float) :
    Frame [.pc] (machine.tick now) (machine.advanced now) := by
  intro part outside
  cases part <;> first | exact absurd (by decide) outside | rfl

theorem countInstruction_frame :
    Frame [.tally] machine machine.countInstruction := by
  intro part outside
  cases part <;> first | exact absurd (by decide) outside | rfl

/-- Behind the countdown, a cycle moves only the program counter, the counters
and what the operation that it fetches writes. -/
theorem cycle_frame_ticked (now : Float) {part : Part}
    (steady : part ∉ [Part.pc, .tally])
    (unwritten : ∀ operation, machine.Fetches operation →
      part ∉ operation.writes) :
    part.Same (machine.tick now) (machine.cycle now).machine := by
  have unmoved : part ∉ [Part.pc] := fun present =>
    steady (List.mem_append_left [Part.tally] present)
  have uncounted : part ∉ [Part.tally] := fun present =>
    steady (List.mem_append_right [Part.pc] present)
  have fetchedSame := machine.advanced_frame now part unmoved
  apply machine.cycle_induction now (part.Same (machine.tick now))
  · exact .refl part _
  · exact fetchedSame
  · intro operation fetches
    have executed := (machine.advanced now).execute_frame
      ⟨machine.word, operation⟩ part (unwritten operation fetches)
    exact fetchedSame.trans executed
  · intro left same
    exact same.trans (countInstruction_frame left part uncounted)

/-- A part that a cycle does not move of itself, and that the operation it
fetches does not write, keeps its content. -/
theorem cycle_frame (now : Float) {part : Part} (steady : part ∉ cycleParts)
    (unwritten : ∀ operation, machine.Fetches operation →
      part ∉ operation.writes) :
    part.Same machine (machine.cycle now).machine := by
  have untimed : part ∉ timerParts := fun present =>
    steady (List.mem_append_left _ present)
  have ticked := machine.tick_frame now part untimed
  apply ticked.trans
  apply machine.cycle_frame_ticked now _ unwritten
  exact fun present => steady (List.mem_append_right _ present)

/-- A host that moves a key writes the keypad. -/
theorem key_frame (number : Int) (pressed : Bool) :
    Frame [.keypad] machine (machine.respond (.key number pressed)) := by
  rcases machine.respond_key number pressed with ⟨keypad, moved⟩
  rw [moved]
  intro part outside
  cases part <;> first | exact absurd (by decide) outside | rfl

/-- A cycle leaves the parts that only a host writes, because no operation
writes them. -/
theorem cycle_hostParts (now : Float) {part : Part} (host : part ∈ hostParts) :
    part.Same machine (machine.cycle now).machine := by
  apply machine.cycle_frame now
  · intro moved
    cases part <;> revert host moved <;> decide
  · intro operation _
    exact operation.hostParts_unwritten host

/-- No event changes the behaviour or the variant. -/
theorem respond_setup (event : Event) :
    (machine.respond event).behaviour = machine.behaviour ∧
      (machine.respond event).variant = machine.variant := by
  cases event with
  | cycle now =>
      have kept : ∀ part ∈ hostParts,
          part.Same machine (machine.cycle now).machine :=
        fun part host => machine.cycle_hostParts now host
      exact ⟨kept .behaviour (by decide), kept .variant (by decide)⟩
  | key number pressed =>
      have kept := machine.key_frame number pressed
      exact ⟨kept .behaviour (by decide), kept .variant (by decide)⟩

theorem follow_setup (events : List Event) :
    (machine.follow events).behaviour = machine.behaviour ∧
      (machine.follow events).variant = machine.variant := by
  induction events generalizing machine with
  | nil => exact ⟨rfl, rfl⟩
  | cons event rest inductionHypothesis =>
      rcases machine.respond_setup event with ⟨sameBehaviour, sameVariant⟩
      rcases inductionHypothesis (machine.respond event) with
        ⟨laterBehaviour, laterVariant⟩
      exact ⟨laterBehaviour.trans sameBehaviour, laterVariant.trans sameVariant⟩

end Cycles

end Machine

end ChipEight
