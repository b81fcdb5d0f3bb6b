import ChipEight.Proofs.Fetch
import ChipEight.Proofs.History
import ChipEight.Proofs.Outcome

namespace ChipEight

/-!
# What an operation does not read

A mask puts fixed contents in place of some parts of a machine.  An operation
that reads none of these parts cannot tell the machine from the masked one: it
is accepted or refused alike, with the same fault and the same records, and what
it leaves differs at most behind the mask.

An operation may write a part that it does not read, as setting a timer does.
So the two executions are compared under the mask, and not by moving the mask
through the execution.

Memory, registers, display, index, program counter and stack are never masked.
Which of the other parts an operation reads is listed in `ReadsAlike`.
-/

/-- The parts of a machine that a mask replaces. -/
inductive Mask where
  /-- The timers, together with the counter of their countdowns. -/
  | timers
  | random
  | keypad
  /-- The behaviour and the variant, which become the given ones. -/
  | setup (behaviour : Behaviour) (variant : Variant)

namespace Mask

/-- The timers under a mask. -/
def timersOf (mask : Mask) (timers : Timers) : Timers :=
  match mask with
  | .timers => .start 0
  | .random | .keypad | .setup _ _ => timers

/-- The counter of countdowns under a mask. -/
def ticksOf (mask : Mask) (ticks : Nat) : Nat :=
  match mask with
  | .timers => 0
  | .random | .keypad | .setup _ _ => ticks

/-- The random stream under a mask. -/
def randomOf (mask : Mask) (random : RandomStream) : RandomStream :=
  match mask with
  | .random => ⟨0, 0, none⟩
  | .timers | .keypad | .setup _ _ => random

/-- The keypad under a mask. -/
def keypadOf (mask : Mask) (keypad : Keypad) : Keypad :=
  match mask with
  | .keypad => .released
  | .timers | .random | .setup _ _ => keypad

/-- The behaviour under a mask. -/
def behaviourOf (mask : Mask) (behaviour : Behaviour) : Behaviour :=
  match mask with
  | .setup replacement _ => replacement
  | .timers | .random | .keypad => behaviour

/-- The variant under a mask. -/
def variantOf (mask : Mask) (variant : Variant) : Variant :=
  match mask with
  | .setup _ replacement => replacement
  | .timers | .random | .keypad => variant

end Mask

/-- A machine under a mask. -/
def Machine.masked (mask : Mask) (machine : Machine) : Machine :=
  { machine with
    timers := mask.timersOf machine.timers
    random := mask.randomOf machine.random
    keypad := mask.keypadOf machine.keypad
    behaviour := mask.behaviourOf machine.behaviour
    variant := mask.variantOf machine.variant
    tally.timerTicks := mask.ticksOf machine.tally.timerTicks }

/-- A step that leaves its machine under a mask. -/
def Step.masked (mask : Mask) (step : Step) : Step :=
  { step with machine := step.machine.masked mask }

/-- Two machines have the same contents wherever an operation reads a part that
a mask may replace. -/
def Operation.ReadsAlike (first second : Machine) : Operation → Prop
  | .or _ _ | .and _ _ | .xor _ _ =>
      first.behaviour.logic.isOn = second.behaviour.logic.isOn
  | .shiftRight _ _ | .shiftLeft _ _ =>
      first.behaviour.shifting.isOn = second.behaviour.shifting.isOn
  | .storeRegisters _ | .loadRegisters _ =>
      first.behaviour.memory.isOn = second.behaviour.memory.isOn
  | .readDelay _ => first.timers.delay = second.timers.delay
  | .random _ _ => first.random = second.random
  | .skipIfKey _ | .skipIfNoKey _ | .awaitKey _ => first.keypad = second.keypad
  | _ => True

namespace Machine

variable {mask : Mask}

/-! ## Results under a mask -/

section Results

variable {α : Type} {result : Except Fault α}

theorem map_masked {change other : α → Machine}
    (same : ∀ content,
      (other content).masked mask = (change content).masked mask) :
    (result.map other).map (masked mask) =
      (result.map change).map (masked mask) := by
  cases result with
  | ok content => exact congrArg Except.ok (same content)
  | error fault => rfl

theorem bind_masked {next other : α → Except Fault Machine}
    (same : ∀ content,
      (other content).map (masked mask) = (next content).map (masked mask)) :
    (result >>= other).map (masked mask) =
      (result >>= next).map (masked mask) := by
  cases result with
  | ok content => exact same content
  | error fault => rfl

end Results

variable (machine : Machine)

theorem masked_masked :
    (machine.masked mask).masked mask = machine.masked mask := by
  cases mask <;> rfl

/-- Attempts with the same result under a mask are the same steps under it. -/
theorem attempt_masked {result other : Except Fault Machine}
    (same : other.map (masked mask) = result.map (masked mask)) :
    (Step.attempt (machine.masked mask) other).masked mask =
      (Step.attempt machine result).masked mask := by
  cases result with
  | ok after =>
      cases other with
      | ok otherAfter =>
          have left := Except.ok.inj same
          simp only [Step.attempt_ok, Step.done, Step.masked, left]
      | error fault => contradiction
  | error fault =>
      cases other with
      | ok otherAfter => contradiction
      | error otherFault =>
          cases same
          simp only [Step.attempt_error, Step.stopped, Step.masked, masked_masked]

/-! ## The operations -/

theorem continueAt_masked (address : Int) :
    ((machine.masked mask).continueAt address).map (masked mask) =
      (machine.continueAt address).map (masked mask) := by
  apply map_masked
  intro target
  cases mask <;> rfl

theorem jump_masked (address : Int) :
    ((machine.masked mask).jump address).map (masked mask) =
      (machine.jump address).map (masked mask) := by
  unfold jump continueAt
  cases landing address with
  | ok target => cases mask <;> rfl
  | error fault => rfl

theorem call_masked (address : Int) :
    ((machine.masked mask).call address).map (masked mask) =
      (machine.call address).map (masked mask) := by
  apply bind_masked
  intro target
  apply bind_masked
  intro stack
  cases mask <;> rfl

theorem returnFromCall_masked :
    ((machine.masked mask).returnFromCall).masked mask =
      machine.returnFromCall.masked mask := by
  cases popped : machine.stack.pop with
  | error fault =>
      have same : (machine.masked mask).stack.pop = .error fault := popped
      rw [returnFromCall, returnFromCall, popped, same]
      exact congrArg (Step.stopped · fault) machine.masked_masked
  | ok content =>
      have same : (machine.masked mask).stack.pop = .ok content := popped
      rw [returnFromCall_of_popped _ popped, returnFromCall_of_popped _ same]
      split <;> cases mask <;> rfl

theorem skipIf_masked (condition : Bool) :
    ((machine.masked mask).skipIf condition).map (masked mask) =
      (machine.skipIf condition).map (masked mask) := by
  cases condition with
  | false => exact congrArg Except.ok machine.masked_masked
  | true => exact machine.continueAt_masked _

theorem skipOn_masked (x : Int) (condition : UInt8 → Bool) :
    ((machine.masked mask).skipOn x condition).map (masked mask) =
      (machine.skipOn x condition).map (masked mask) := by
  apply bind_masked
  intro first
  exact machine.skipIf_masked (condition first)

theorem skipOnPair_masked (x y : Int) (condition : UInt8 → UInt8 → Bool) :
    ((machine.masked mask).skipOnPair x y condition).map (masked mask) =
      (machine.skipOnPair x y condition).map (masked mask) := by
  apply bind_masked
  intro first
  apply bind_masked
  intro second
  exact machine.skipIf_masked (condition first second)

theorem withRegisters_masked (registers : Except Fault Registers) :
    ((machine.masked mask).withRegisters registers).map (masked mask) =
      (machine.withRegisters registers).map (masked mask) := by
  apply map_masked
  intro content
  cases mask <;> rfl

theorem combineBits_masked
    (alike : machine.behaviour.logic.isOn =
      (machine.masked mask).behaviour.logic.isOn)
    (x y : Int) (combine : UInt8 → UInt8 → UInt8) :
    ((machine.masked mask).combineBits x y combine).map (masked mask) =
      (machine.combineBits x y combine).map (masked mask) := by
  unfold combineBits
  rw [← alike]
  exact machine.withRegisters_masked _

theorem shift_masked
    (alike : machine.behaviour.shifting.isOn =
      (machine.masked mask).behaviour.shifting.isOn)
    (x y : Int) (result : UInt8 → UInt8) (flag : UInt8 → Bool) :
    ((machine.masked mask).shift x y result flag).map (masked mask) =
      (machine.shift x y result flag).map (masked mask) := by
  unfold shift
  rw [← alike]
  exact machine.withRegisters_masked _

theorem randomise_masked
    (alike : machine.random = (machine.masked mask).random) (x value : Int) :
    ((machine.masked mask).randomise x value).masked mask =
      (machine.randomise x value).masked mask := by
  have sameRegisters : (machine.masked mask).registers = machine.registers := rfl
  simp only [randomise, ← alike, sameRegisters]
  cases machine.registers.write x (machine.random.next.1 &&& lowByte value) <;>
    cases mask <;> rfl

theorem readDelay_masked
    (alike : machine.timers.delay = (machine.masked mask).timers.delay)
    (x : Int) :
    ((machine.masked mask).assign x (machine.masked mask).timers.delay).map
        (masked mask) =
      (machine.assign x machine.timers.delay).map (masked mask) := by
  rw [← alike]
  exact machine.withRegisters_masked _

theorem skipOnKey_masked
    (alike : machine.keypad = (machine.masked mask).keypad) (x : Int)
    (change : Bool → Bool) :
    ((machine.masked mask).skipOn x fun byte =>
        change ((machine.masked mask).keyDown byte)).map (masked mask) =
      (machine.skipOn x fun byte => change (machine.keyDown byte)).map
        (masked mask) := by
  unfold keyDown
  rw [← alike]
  exact machine.skipOn_masked x _

theorem awaitKey_masked
    (alike : machine.keypad = (machine.masked mask).keypad) (x : Int) :
    ((machine.masked mask).awaitKey x).map (masked mask) =
      (machine.awaitKey x).map (masked mask) := by
  unfold awaitKey
  rw [← alike]
  cases machine.keypad.firstDown? with
  | some key => exact machine.withRegisters_masked _
  | none => cases mask <;> rfl

theorem setDelay_masked (x : Int) :
    ((machine.masked mask).setDelay x).map (masked mask) =
      (machine.setDelay x).map (masked mask) := by
  apply map_masked
  intro byte
  cases mask <;> rfl

theorem setSound_masked (x : Int) :
    ((machine.masked mask).setSound x).map (masked mask) =
      (machine.setSound x).map (masked mask) := by
  apply map_masked
  intro byte
  cases mask <;> rfl

theorem indexFrom_masked (x : Int) (index : UInt8 → Int) :
    ((machine.masked mask).indexFrom x index).map (masked mask) =
      (machine.indexFrom x index).map (masked mask) := by
  apply map_masked
  intro byte
  cases mask <;> rfl

/-- Passing a block under a mask, whatever the block left in memory and
registers. -/
theorem passBlock_masked
    (alike : machine.behaviour.memory.isOn =
      (machine.masked mask).behaviour.memory.isOn)
    (memory : Memory) (registers : Registers) (x : Int) :
    ({ machine.masked mask with
        memory := memory
        registers := registers }.passBlock x).masked mask =
      ({ machine with
        memory := memory
        registers := registers }.passBlock x).masked mask := by
  simp only [passBlock, ← alike]
  split <;> cases mask <;> rfl

theorem storeDecimal_masked (x : Int) :
    ((machine.masked mask).storeDecimal x).map (masked mask) =
      (machine.storeDecimal x).map (masked mask) := by
  apply bind_masked
  intro byte
  apply bind_masked
  intro memory
  cases mask <;> rfl

theorem storeRegisters_masked
    (alike : machine.behaviour.memory.isOn =
      (machine.masked mask).behaviour.memory.isOn) (x : Int) :
    ((machine.masked mask).storeRegisters x).map (masked mask) =
      (machine.storeRegisters x).map (masked mask) := by
  apply bind_masked
  intro memory
  exact congrArg Except.ok
    (machine.passBlock_masked alike memory machine.registers x)

theorem loadRegisters_masked
    (alike : machine.behaviour.memory.isOn =
      (machine.masked mask).behaviour.memory.isOn) (x : Int) :
    ((machine.masked mask).loadRegisters x).map (masked mask) =
      (machine.loadRegisters x).map (masked mask) := by
  apply bind_masked
  intro block
  simp only
  split
  · exact congrArg Except.ok
      (machine.passBlock_masked alike machine.memory
        (machine.registers.overlay 0 block) x)
  · rfl

theorem drawSprite_masked (x y height : Int) :
    ((machine.masked mask).drawSprite x y height).masked mask =
      (machine.drawSprite x y height).masked mask := by
  have same : (machine.masked mask).sprite x y height =
      machine.sprite x y height := rfl
  rw [drawSprite, drawSprite, same]
  cases machine.sprite x y height <;> cases mask <;> rfl

/-- Under a mask over parts that it does not read, an operation does the same to
a machine and to the masked one. -/
theorem execute_masked {operation : Operation}
    (alike : operation.ReadsAlike machine (machine.masked mask)) (word : Int) :
    ((machine.masked mask).execute ⟨word, operation⟩).masked mask =
      (machine.execute ⟨word, operation⟩).masked mask := by
  cases operation with
  | system _ | unassigned _ | clearDisplay | setIndex _ => cases mask <;> rfl
  | returnFromCall => exact machine.returnFromCall_masked
  | jump _ | jumpOffset _ => exact machine.attempt_masked (machine.jump_masked _)
  | call address => exact machine.attempt_masked (machine.call_masked address)
  | skipIfEqual _ _ | skipIfNotEqual _ _ =>
      exact machine.attempt_masked (machine.skipOn_masked _ _)
  | skipIfSame _ _ | skipIfDifferent _ _ =>
      exact machine.attempt_masked (machine.skipOnPair_masked _ _ _)
  | skipIfKey x =>
      exact machine.attempt_masked (machine.skipOnKey_masked alike x id)
  | skipIfNoKey x =>
      exact machine.attempt_masked (machine.skipOnKey_masked alike x not)
  | load _ _ | add _ _ | copy _ _ | addRegister _ _ | subtract _ _
  | subtractFrom _ _ =>
      exact machine.attempt_masked (machine.withRegisters_masked _)
  | readDelay x => exact machine.attempt_masked (machine.readDelay_masked alike x)
  | or _ _ | and _ _ | xor _ _ =>
      exact machine.attempt_masked (machine.combineBits_masked alike _ _ _)
  | shiftRight _ _ | shiftLeft _ _ =>
      exact machine.attempt_masked (machine.shift_masked alike _ _ _ _)
  | random x value => exact machine.randomise_masked alike x value
  | draw x y height => exact machine.drawSprite_masked x y height
  | awaitKey x => exact machine.attempt_masked (machine.awaitKey_masked alike x)
  | setDelay x => exact machine.attempt_masked (machine.setDelay_masked x)
  | setSound x => exact machine.attempt_masked (machine.setSound_masked x)
  | addIndex _ | setIndexToGlyph _ =>
      exact machine.attempt_masked (machine.indexFrom_masked _ _)
  | storeDecimal x => exact machine.attempt_masked (machine.storeDecimal_masked x)
  | storeRegisters x =>
      exact machine.attempt_masked (machine.storeRegisters_masked alike x)
  | loadRegisters x =>
      exact machine.attempt_masked (machine.loadRegisters_masked alike x)

/-- Moving a key does the same to a machine and to the masked one. -/
theorem respond_key_masked (number : Int) (pressed : Bool) :
    ((machine.masked mask).respond (.key number pressed)).masked mask =
      (machine.respond (.key number pressed)).masked mask := by
  by_cases covered : mask = .keypad
  · rcases machine.respond_key number pressed with ⟨keypad, moved⟩
    rcases (machine.masked mask).respond_key number pressed with
      ⟨otherKeypad, otherMoved⟩
    rw [moved, otherMoved, covered]
    rfl
  · have sameKeypad : (machine.masked mask).keypad = machine.keypad := by
      cases mask <;> first | rfl | exact absurd rfl covered
    simp only [respond, setKey, sameKeypad]
    cases machine.keypad.set number pressed with
    | ok keypad => cases mask <;> rfl
    | error fault => exact machine.masked_masked

/-! ## Cycles under a mask -/

section Cycles

variable {first second : Machine} {operation : Operation}

/-- Executing the same operation on machines that differ only behind a mask
leaves machines that differ only behind it. -/
theorem execute_same_masked
    (same : second.masked mask = first.masked mask)
    (firstAlike : operation.ReadsAlike first (first.masked mask))
    (secondAlike : operation.ReadsAlike second (second.masked mask))
    (word : Int) :
    (second.execute ⟨word, operation⟩).masked mask =
      (first.execute ⟨word, operation⟩).masked mask := by
  rw [← second.execute_masked secondAlike, same, first.execute_masked firstAlike]

theorem countInstruction_masked :
    machine.countInstruction.masked mask =
      (machine.masked mask).countInstruction := by
  cases mask <;> rfl

theorem executeFrom_masked {instruction : Instruction}
    (same : (second.execute instruction).masked mask =
      (first.execute instruction).masked mask) (location : Int) :
    (second.executeFrom location instruction).masked mask =
      (first.executeFrom location instruction).masked mask := by
  have sameMachine : (second.execute instruction).machine.masked mask =
      (first.execute instruction).machine.masked mask :=
    congrArg Step.machine same
  have sameRecords : (second.execute instruction).records =
      (first.execute instruction).records :=
    (congrArg Step.records same :)
  have sameFault : (second.execute instruction).fault =
      (first.execute instruction).fault :=
    (congrArg Step.fault same :)
  simp only [executeFrom, sameFault]
  split
  · simp only [Step.masked, countInstruction_masked, sameMachine, sameRecords]
  · split <;> simp only [Step.masked, sameMachine, sameRecords, sameFault]

theorem masked_timers :
    machine.masked .timers =
      { machine with
        timers := .start 0
        tally.timerTicks := 0 } :=
  rfl

/-- Two readings of the clock are the same, or the timers are masked. -/
def SameReading (mask : Mask) (now later : Float) : Prop :=
  mask = .timers ∨ later = now

variable {now later : Float}

theorem tick_masked (reading : SameReading mask now later) :
    ((machine.masked mask).tick later).masked mask =
      (machine.tick now).masked mask := by
  rw [tick_eq, tick_eq]
  cases mask with
  | timers => simp only [masked_timers]
  | random | keypad | setup _ _ =>
      rcases reading with covered | rfl
      · contradiction
      · rfl

theorem advanced_masked (reading : SameReading mask now later) :
    ((machine.masked mask).advanced later).masked mask =
      (machine.advanced now).masked mask := by
  rw [advanced_eq, advanced_eq]
  cases mask with
  | timers => simp only [masked_timers]
  | random | keypad | setup _ _ =>
      rcases reading with covered | rfl
      · contradiction
      · rfl

/-- What is fetched lies in no masked part. -/
theorem fetches_of_same_masked (same : second.masked mask = first.masked mask) :
    second.Fetches operation ↔ first.Fetches operation := by
  have hidden : (second.masked mask).Fetches operation ↔
      (first.masked mask).Fetches operation := by
    rw [same]
  exact hidden

/-- Two cycles of machines that differ only behind a mask leave machines that
differ only behind it, provided that neither executes an operation which reads
what the mask replaces. -/
theorem cycle_masked (same : second.masked mask = first.masked mask)
    (reading : SameReading mask now later)
    (firstAlike : ∀ operation, first.Fetches operation →
      operation.ReadsAlike (first.advanced now)
        ((first.advanced now).masked mask))
    (secondAlike : ∀ operation, second.Fetches operation →
      operation.ReadsAlike (second.advanced later)
        ((second.advanced later).masked mask)) :
    (second.cycle later).masked mask = (first.cycle now).masked mask := by
  have samePc : second.pc = first.pc := (congrArg Machine.pc same :)
  have sameWord : second.word = first.word := (congrArg word same :)
  have sameLater : SameReading mask later later := Or.inr rfl
  have sameTick : (second.tick later).masked mask =
      (first.tick now).masked mask := by
    rw [← second.tick_masked sameLater, same]
    exact first.tick_masked reading
  have sameAdvanced : (second.advanced later).masked mask =
      (first.advanced now).masked mask := by
    rw [← second.advanced_masked sameLater, same]
    exact first.advanced_masked reading
  rcases first.fetch_cases with
    outside | ⟨inside, rejected⟩ | ⟨operation, fetches⟩
  · have secondOutside : ¬ second.CanFetch := by
      rw [CanFetch, samePc]
      exact outside
    rw [first.cycle_of_unfetched now outside,
      second.cycle_of_unfetched later secondOutside, samePc]
    simp only [Step.masked, sameTick]
  · have secondInside : second.CanFetch := by
      rw [CanFetch, samePc]
      exact inside
    have secondRejected : Instruction.decode? second.word = none := by
      rw [sameWord]
      exact rejected
    rw [first.cycle_of_undecoded now inside rejected,
      second.cycle_of_undecoded later secondInside secondRejected, samePc,
      sameWord]
    simp only [Step.masked, sameAdvanced]
  · have secondFetches := (fetches_of_same_masked same).mpr fetches
    rw [cycle_of_fetches now fetches, cycle_of_fetches later secondFetches,
      samePc, sameWord]
    exact congrArg (Step.after _)
      (executeFrom_masked
        (execute_same_masked sameAdvanced (firstAlike operation fetches)
          (secondAlike operation secondFetches) _) _)

end Cycles

end Machine

end ChipEight
