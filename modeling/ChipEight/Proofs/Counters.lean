import ChipEight.Proofs.Frames

namespace ChipEight

/-!
# What the counters tell

Each counter of a machine is the number of cycles of its history that pass a
test of its own.  An operation that is accepted adds to its counters once, a
refused one to none, and neither a countdown nor a key adds to any.  The
counter of the countdowns is the subject of `TimerHistory`.

A cycle that succeeds counts as an instruction, and passes at most one of the
tests for what it did besides.  So these counters together never exceed that of
the instructions.

Calls are never lost.  Each one that was accepted was returned from, or is still
on the stack, or was taken off by a return that was refused because its address
leaves no room for an instruction.
-/

/-- The counters, without that of the countdowns. -/
inductive Counter where
  | instructions
  | clears
  | drawings
  | collisions
  | calls
  | returns
  | jumps
  | keyWaits
  deriving DecidableEq

/-- The counter that tells how often an operation was done.  Waiting for a key
is only counted if there is none. -/
def Operation.counter? : Operation → Option Counter
  | .clearDisplay => some .clears
  | .draw _ _ _ => some .drawings
  | .call _ => some .calls
  | .returnFromCall => some .returns
  | .jump _ | .jumpOffset _ => some .jumps
  | .awaitKey _ => some .keyWaits
  | _ => none

namespace Turn

/-- The operation that a cycle executes, if it succeeds. -/
def executed? (turn : Turn) : Option Operation :=
  if turn.step.fault = none then turn.machine.fetched? else none

/-- A cycle succeeds with an operation of a counter. -/
def does (turn : Turn) (counter : Counter) : Bool :=
  turn.executed?.any fun operation => operation.counter? == some counter

/-- A cycle waits for a key while none is down. -/
def waits (turn : Turn) : Bool :=
  (turn.machine.fetched? matches some (.awaitKey _)) &&
    decide (∀ key, turn.machine.keypad.isDown key = false)

/-- A cycle returns, but cannot go on at the address that it takes off the
stack. -/
def strands (turn : Turn) : Bool :=
  (turn.machine.fetched? matches some .returnFromCall) &&
    (turn.step.fault matches some (.unmapped _ _))

end Turn

namespace Counter

/-- The content of a counter. -/
def value : Counter → Tally → Nat
  | .instructions, tally => tally.instructions
  | .clears, tally => tally.clears
  | .drawings, tally => tally.drawings
  | .collisions, tally => tally.collisions
  | .calls, tally => tally.calls
  | .returns, tally => tally.returns
  | .jumps, tally => tally.jumps
  | .keyWaits, tally => tally.keyWaits

/-- The test for the cycles that a counter counts. -/
def counts : Counter → Turn → Bool
  | .instructions, turn => decide (turn.step.fault = none)
  | .clears, turn => turn.does .clears
  | .drawings, turn => turn.does .drawings
  | .collisions, turn =>
      turn.does .drawings &&
        turn.step.machine.registers.get flagRegister == 1
  | .calls, turn => turn.does .calls
  | .returns, turn => turn.does .returns
  | .jumps, turn => turn.does .jumps
  | .keyWaits, turn => turn.waits

end Counter

/-- The counters behind an operation that is accepted, where no key was down or
one was, and where the flag is set afterwards or is not. -/
def Tally.record (tally : Tally) (idle flag : Bool) : Operation → Tally
  | .clearDisplay => { tally with clears := tally.clears + 1 }
  | .draw _ _ _ =>
      { tally with
        drawings := tally.drawings + 1
        collisions := tally.collisions + if flag then 1 else 0 }
  | .call _ => { tally with calls := tally.calls + 1 }
  | .returnFromCall => { tally with returns := tally.returns + 1 }
  | .jump _ | .jumpOffset _ => { tally with jumps := tally.jumps + 1 }
  | .awaitKey _ =>
      { tally with keyWaits := tally.keyWaits + if idle then 1 else 0 }
  | _ => tally

theorem Keypad.isNone_firstDown? (keypad : Keypad) :
    keypad.firstDown?.isNone = decide (∀ key, keypad.isDown key = false) := by
  rw [Bool.eq_iff_iff]
  simp [firstDown?]

namespace Machine

/-! ## What one operation counts -/

section Execution

variable (machine : Machine)

/-- An operation that has no counters leaves them all. -/
theorem execute_tally_of_unwritten (instruction : Instruction)
    (unwritten : Part.tally ∉ instruction.operation.writes) :
    (machine.execute instruction).machine.tally = machine.tally := by
  have untimed : Part.countdowns ∉ instruction.operation.writes := by
    cases instruction.operation <;> simp [Operation.writes]
  have others : Tally.others _ = Tally.others _ :=
    machine.execute_frame instruction .tally unwritten
  have countdowns : Tally.timerTicks _ = Tally.timerTicks _ :=
    machine.execute_frame instruction .countdowns untimed
  calc (machine.execute instruction).machine.tally
    _ = { (machine.execute instruction).machine.tally.others with
          timerTicks := (machine.execute instruction).machine.tally.timerTicks } := rfl
    _ = { machine.tally.others with timerTicks := machine.tally.timerTicks } := by
        rw [others, countdowns]
    _ = machine.tally := rfl

/-- An attempt counts what it is accepted with, or nothing. -/
theorem attempt_tally {result : Except Fault Machine} {counted : Tally}
    (accepted : ∀ after, result = .ok after → after.tally = counted) :
    (Step.attempt machine result).machine.tally =
      if (Step.attempt machine result).fault = none then counted
      else machine.tally := by
  cases result with
  | ok after => exact accepted after rfl
  | error fault => rfl

theorem jump_tally {address : Int} {after : Machine}
    (accepted : machine.jump address = .ok after) :
    after.tally = { machine.tally with jumps := machine.tally.jumps + 1 } := by
  rcases accepted_map accepted with ⟨moved, continued, rfl⟩
  rcases accepted_map continued with ⟨target, _, rfl⟩
  rfl

theorem call_tally {address : Int} {after : Machine}
    (accepted : machine.call address = .ok after) :
    after.tally = { machine.tally with calls := machine.tally.calls + 1 } := by
  rcases accepted_bind accepted with ⟨target, _, rest⟩
  rcases accepted_bind rest with ⟨stack, _, called⟩
  cases called
  rfl

theorem returnFromCall_tally :
    machine.returnFromCall.machine.tally =
      if machine.returnFromCall.fault = none then
        { machine.tally with returns := machine.tally.returns + 1 }
      else machine.tally := by
  cases popped : machine.stack.pop with
  | error fault =>
      rw [returnFromCall, popped]
      rfl
  | ok content =>
      rw [machine.returnFromCall_of_popped popped]
      split <;> rfl

theorem awaitKey_tally (x : Fin 16) {after : Machine}
    (accepted : machine.awaitKey x.val = .ok after) :
    after.tally =
      { machine.tally with
        keyWaits := machine.tally.keyWaits +
          if machine.keypad.firstDown?.isNone then 1 else 0 } := by
  rw [awaitKey_register] at accepted
  cases found : machine.keypad.firstDown? with
  | some key | none =>
      rw [found] at accepted
      cases accepted
      rfl

/-- The flag tells whether a drawing collided. -/
theorem paint_tally (sprite : Sprite) :
    (machine.paint sprite).tally =
      { machine.tally with
        drawings := machine.tally.drawings + 1
        collisions := machine.tally.collisions +
          if (machine.paint sprite).registers.get flagRegister == 1 then 1
          else 0 } := by
  have flag : ((machine.paint sprite).registers.get flagRegister == 1) =
      machine.display.collides sprite.x.toNat sprite.y.toNat sprite.rows := by
    simp only [paint, Registers.setFlag, Registers.get_set_same]
    cases machine.display.collides sprite.x.toNat sprite.y.toNat sprite.rows <;>
      rfl
  rw [flag]
  rfl

theorem drawSprite_tally (x y : Fin 16) (height : Int) :
    let step := machine.drawSprite x.val y.val height
    step.machine.tally =
      if step.fault = none then
        { machine.tally with
          drawings := machine.tally.drawings + 1
          collisions := machine.tally.collisions +
            if step.machine.registers.get flagRegister == 1 then 1 else 0 }
      else machine.tally := by
  rw [drawSprite_register]
  split
  · exact machine.paint_tally _
  · rfl

/-- An operation that is accepted adds to its own counters, and a refused one to
none. -/
theorem execute_tally (word : Int) {operation : Operation}
    (fits : operation.FitsWord) :
    let step := machine.execute ⟨word, operation⟩
    step.machine.tally =
      if step.fault = none then
        machine.tally.record machine.keypad.firstDown?.isNone
          (step.machine.registers.get flagRegister == 1) operation
      else machine.tally := by
  intro step
  cases operation with
  | clearDisplay => rfl
  | returnFromCall => exact machine.returnFromCall_tally
  | jump _ | jumpOffset _ =>
      exact machine.attempt_tally fun _ accepted => machine.jump_tally accepted
  | call _ =>
      exact machine.attempt_tally fun _ accepted => machine.call_tally accepted
  | draw first second height =>
      rcases exists_register first fits.x with ⟨x, rfl⟩
      rcases exists_register second fits.y with ⟨y, rfl⟩
      exact machine.drawSprite_tally x y height
  | awaitKey number =>
      rcases exists_register number fits.x with ⟨x, rfl⟩
      exact machine.attempt_tally fun _ accepted =>
        machine.awaitKey_tally x accepted
  | _ =>
      have same : step.machine.tally = machine.tally :=
        machine.execute_tally_of_unwritten _ (by simp [Operation.writes])
      rw [same]
      exact (ite_self _).symm

end Execution

end Machine

/-! ## What one cycle counts -/

namespace Turn

open Machine

variable {turn : Turn}

/-- The execution of a cycle starts from the counters behind the countdown. -/
theorem executed_tally {operation : Operation}
    (fetches : turn.machine.Fetches operation) :
    ((turn.machine.advanced turn.now).execute
      ⟨turn.machine.word, operation⟩).machine.tally =
      if turn.step.fault = none then
        (turn.machine.tick turn.now).tally.record
          turn.machine.keypad.firstDown?.isNone
          (turn.step.machine.registers.get flagRegister == 1) operation
      else (turn.machine.tick turn.now).tally := by
  have sameKeys : (turn.machine.advanced turn.now).keypad =
      turn.machine.keypad := by
    rw [advanced_eq]
  have sameFault : turn.step.fault = _ := cycle_fault_of_fetches turn.now fetches
  have sameRegisters : turn.step.machine.registers = _ :=
    cycle_part_of_fetches turn.now fetches registers fun _ => rfl
  rw [sameFault, sameRegisters, ← sameKeys]
  exact (turn.machine.advanced turn.now).execute_tally turn.machine.word
    fetches.fitsWord

/-- A cycle that succeeds adds to the counters of its operation and to that of
the instructions. -/
theorem tally_of_accepted {operation : Operation}
    (fetches : turn.machine.Fetches operation)
    (accepted : turn.step.fault = none) :
    turn.step.machine.tally =
      let counted := (turn.machine.tick turn.now).tally.record
        turn.machine.keypad.firstDown?.isNone
        (turn.step.machine.registers.get flagRegister == 1) operation
      { counted with instructions := counted.instructions + 1 } := by
  have left : turn.step.machine = _ := cycle_machine_of_fetches turn.now fetches
  have executed := executed_tally fetches
  rw [if_pos accepted] at executed
  rw [← executed]
  exact congrArg tally (left.trans (if_pos accepted))

/-- A cycle that fails counts nothing. -/
theorem tally_of_refused (refused : turn.step.fault ≠ none) :
    turn.step.machine.tally = (turn.machine.tick turn.now).tally := by
  rcases turn.machine.fetch_cases with
    outside | ⟨inside, rejected⟩ | ⟨operation, fetches⟩
  · rw [step, turn.machine.cycle_of_unfetched turn.now outside]
  · rw [step, turn.machine.cycle_of_undecoded turn.now inside rejected]
    rfl
  · have left : turn.step.machine = _ :=
      cycle_machine_of_fetches turn.now fetches
    have executed := executed_tally fetches
    rw [if_neg refused] at executed
    exact (congrArg tally (left.trans (if_neg refused))).trans executed

/-- A cycle that waits for a key succeeds. -/
theorem waits_eq :
    turn.waits =
      (turn.does .keyWaits && turn.machine.keypad.firstDown?.isNone) := by
  rw [waits, ← Keypad.isNone_firstDown?]
  congr 1
  cases fetched : turn.machine.fetched? with
  | none => simp [does, executed?, fetched]
  | some operation =>
      cases operation with
      | awaitKey x =>
          have fetches := fetched?_eq_some_iff.mp fetched
          rcases exists_register x fetches.fitsWord.x with ⟨register, rfl⟩
          have accepted : turn.step.fault = none := by
            rw [step, cycle_fault_of_fetches turn.now fetches]
            exact congrArg (fun result => (Step.attempt _ result).fault)
              ((turn.machine.advanced turn.now).awaitKey_register register)
          simp [does, executed?, accepted, fetched, Operation.counter?]
      | _ =>
          by_cases accepted : turn.step.fault = none <;>
            simp [does, executed?, accepted, fetched, Operation.counter?]

end Turn

namespace Counter

open Machine

variable (counter : Counter)

/-- Counting the timers down adds to no counter. -/
theorem value_tick (machine : Machine) (now : Float) :
    counter.value (machine.tick now).tally = counter.value machine.tally := by
  rw [tick_eq]
  cases counter <;> rfl

/-- A cycle adds to the counters whose tests it passes. -/
theorem value_step (turn : Turn) :
    counter.value turn.step.machine.tally =
      counter.value turn.machine.tally + if counter.counts turn then 1 else 0 := by
  rw [← counter.value_tick turn.machine turn.now]
  by_cases accepted : turn.step.fault = none
  · rcases fetches_of_accepted accepted with ⟨operation, fetches⟩
    have executed : turn.executed? = some operation := by
      rw [Turn.executed?, if_pos accepted]
      exact fetched?_eq_some_iff.mpr fetches
    rw [Turn.tally_of_accepted fetches accepted]
    cases counter <;>
      simp only [counts, Turn.does, accepted, executed, Turn.waits_eq] <;>
      cases operation <;> rfl
  · have executed : turn.executed? = none := if_neg accepted
    rw [Turn.tally_of_refused accepted]
    cases counter <;>
      simp [counts, Turn.does, accepted, executed, Turn.waits_eq]

/-- A history adds one to a counter for each cycle that passes its test. -/
theorem value_follow (start : Machine) (events : List Event) :
    counter.value (start.follow events).tally =
      counter.value start.tally + (start.turns events).countP counter.counts := by
  apply follow_count fun machine => counter.value machine.tally
  · exact counter.value_step
  · intro machine number pressed
    rcases machine.respond_key number pressed with ⟨keypad, moved⟩
    rw [moved]

end Counter

/-! ## Deeds and instructions -/

namespace Counter

open Machine

/-- The counters of what a cycle does besides counting as an instruction. -/
def deeds : List Counter :=
  [.clears, .drawings, .calls, .returns, .jumps, .keyWaits]

/-- A cycle passes the test of at most one deed, and only if it succeeds. -/
theorem countP_deeds (turn : Turn) :
    (deeds.countP fun deed => deed.counts turn) ≤
      if instructions.counts turn then 1 else 0 := by
  cases executed : turn.executed? with
  | none => simp [deeds, counts, Turn.does, executed, Turn.waits_eq]
  | some operation =>
      have accepted : turn.step.fault = none := by
        by_cases accepted : turn.step.fault = none
        · exact accepted
        · rw [Turn.executed?, if_neg accepted] at executed
          contradiction
      simp only [deeds, List.countP_cons, List.countP_nil]
      simp only [counts, Turn.does, executed, Turn.waits_eq, accepted,
        Option.any_some]
      -- Only the counter of the operation matters.
      cases operation.counter? with
      | none => simp
      | some counter =>
          cases counter <;>
            cases turn.machine.keypad.firstDown?.isNone <;> simp

/-- The contents of several counters together. -/
def total (tally : Tally) : List Counter → Nat
  | [] => 0
  | counter :: rest => counter.value tally + total tally rest

/-- A cycle adds to several counters together as many as it passes tests of
theirs. -/
theorem total_step (counters : List Counter) (turn : Turn) :
    total turn.step.machine.tally counters =
      total turn.machine.tally counters +
        counters.countP fun counter => counter.counts turn := by
  induction counters with
  | nil => rfl
  | cons counter rest inductionHypothesis =>
      simp only [total, List.countP_cons, inductionHypothesis,
        counter.value_step turn]
      omega

/-- The deeds of a machine do not exceed its instructions. -/
def Covered (machine : Machine) : Prop :=
  total machine.tally deeds ≤ machine.tally.instructions

theorem covered_respond (machine : Machine) (event : Event)
    (covered : Covered machine) : Covered (machine.respond event) := by
  cases event with
  | cycle now =>
      have added : total (machine.cycle now).machine.tally deeds = _ :=
        total_step deeds ⟨machine, now⟩
      have counted : (machine.cycle now).machine.tally.instructions = _ :=
        instructions.value_step ⟨machine, now⟩
      have single := countP_deeds ⟨machine, now⟩
      change total (machine.cycle now).machine.tally deeds ≤
        (machine.cycle now).machine.tally.instructions
      rw [added, counted]
      exact Nat.add_le_add covered single
  | key number pressed =>
      rcases machine.respond_key number pressed with ⟨keypad, moved⟩
      rw [moved]
      exact covered

theorem covered_follow {start : Machine} (initial : Covered start)
    (events : List Event) : Covered (start.follow events) :=
  follow_induction initial covered_respond events

end Counter

/-! ## Calls and returns -/

/-- A push that is accepted makes the stack one deeper. -/
theorem CallStack.depth_of_push {stack pushed : CallStack} {address : Int}
    (accepted : stack.push address = .ok pushed) :
    pushed.depth = stack.depth + 1 := by
  unfold push at accepted
  split at accepted
  · split at accepted
    · contradiction
    · cases accepted
      rfl
  · contradiction

namespace Machine

/-- A call makes the stack one deeper, if it is accepted. -/
theorem call_depth (machine : Machine) (address : Int) :
    (Step.attempt machine (machine.call address)).machine.stack.depth =
      machine.stack.depth +
        if (Step.attempt machine (machine.call address)).fault = none then 1
        else 0 := by
  cases result : machine.call address with
  | error fault => rfl
  | ok after =>
      rcases accepted_bind result with ⟨target, _, rest⟩
      rcases accepted_bind rest with ⟨stack, pushed, called⟩
      cases called
      exact CallStack.depth_of_push pushed

/-- A return takes an address off the stack, whether it is accepted or cannot go
on there. -/
theorem returnFromCall_depth (machine : Machine) :
    machine.returnFromCall.machine.stack.depth +
      (if machine.returnFromCall.fault = none then 1 else 0) +
      (if machine.returnFromCall.fault matches some (.unmapped _ _) then 1
        else 0) =
      machine.stack.depth := by
  cases content : machine.stack.newestFirst with
  | nil =>
      rw [machine.returnFromCall_of_empty content]
      rfl
  | cons newest older =>
      rcases machine.stack.pop_of_nonempty content with
        ⟨rest, popped, sameRest, _⟩
      have depth : machine.stack.depth = rest.depth + 1 := by
        rw [CallStack.depth, CallStack.depth, content, sameRest, List.length_cons]
      rw [machine.returnFromCall_of_popped popped, depth]
      split <;> rfl

end Machine

namespace Turn

open Machine

variable {turn : Turn}

theorem depth_of_call {address : Int}
    (fetches : turn.machine.Fetches (.call address)) :
    turn.step.machine.stack.depth =
      turn.machine.stack.depth + if turn.step.fault = none then 1 else 0 := by
  have sameStack : (turn.machine.advanced turn.now).stack =
      turn.machine.stack := by
    rw [advanced_eq]
  have sameFault : turn.step.fault = _ := cycle_fault_of_fetches turn.now fetches
  have left : turn.step.machine.stack = _ :=
    cycle_part_of_fetches turn.now fetches stack fun _ => rfl
  rw [left, sameFault, ← sameStack]
  exact call_depth _ address

theorem depth_of_return (fetches : turn.machine.Fetches .returnFromCall) :
    turn.step.machine.stack.depth +
      (if turn.step.fault = none then 1 else 0) +
      (if turn.step.fault matches some (.unmapped _ _) then 1 else 0) =
      turn.machine.stack.depth := by
  have sameStack : (turn.machine.advanced turn.now).stack =
      turn.machine.stack := by
    rw [advanced_eq]
  have sameFault : turn.step.fault = _ := cycle_fault_of_fetches turn.now fetches
  have left : turn.step.machine.stack = _ :=
    cycle_part_of_fetches turn.now fetches stack fun _ => rfl
  rw [left, sameFault, ← sameStack]
  exact returnFromCall_depth _

/-- What a cycle takes off the stack, by returning or by being refused to, and
what it puts on by calling make up the change of the depth. -/
theorem depth_step (turn : Turn) :
    turn.step.machine.stack.depth +
      (if Counter.returns.counts turn then 1 else 0) +
      (if turn.strands then 1 else 0) =
      turn.machine.stack.depth +
        if Counter.calls.counts turn then 1 else 0 := by
  have same : (∀ operation, turn.machine.Fetches operation →
      Part.stack ∉ operation.writes) →
        turn.step.machine.stack = turn.machine.stack :=
    turn.machine.cycle_frame turn.now (by decide)
  cases fetched : turn.machine.fetched? with
  | none =>
      have unexecuted : ∀ operation, ¬ turn.machine.Fetches operation := by
        intro operation fetches
        rw [fetched?_eq_some_iff.mpr fetches] at fetched
        contradiction
      rw [same fun operation fetches => absurd fetches (unexecuted operation)]
      simp [Counter.counts, does, executed?, strands, fetched]
  | some operation =>
      have fetches := fetched?_eq_some_iff.mp fetched
      cases operation with
      | call address =>
          rw [depth_of_call fetches]
          by_cases accepted : turn.step.fault = none <;>
            simp [Counter.counts, does, executed?, strands, fetched, accepted,
              Operation.counter?]
      | returnFromCall =>
          rw [← depth_of_return fetches]
          by_cases accepted : turn.step.fault = none <;>
            simp [Counter.counts, does, executed?, strands, fetched, accepted,
              Operation.counter?]
      | _ =>
          rw [same fun other alike => by
            rw [← fetches.unique alike]
            simp [Operation.writes]]
          by_cases accepted : turn.step.fault = none <;>
            simp [Counter.counts, does, executed?, strands, fetched, accepted,
              Operation.counter?]

end Turn

namespace Machine

/-- The calls of a machine are those that it returned from, those that are still
on its stack, and those that its history lost. -/
theorem calls_balanced {start : Machine}
    (initial : start.tally.calls = start.tally.returns + start.stack.depth)
    (events : List Event) :
    (start.follow events).tally.calls =
      (start.follow events).tally.returns + (start.follow events).stack.depth +
        (start.turns events).countP Turn.strands := by
  apply turns_induction fun turns machine =>
    machine.tally.calls =
      machine.tally.returns + machine.stack.depth + turns.countP Turn.strands
  · exact initial
  · intro turns machine now balanced
    have calls : (machine.cycle now).machine.tally.calls = _ :=
      Counter.calls.value_step ⟨machine, now⟩
    have returns : (machine.cycle now).machine.tally.returns = _ :=
      Counter.returns.value_step ⟨machine, now⟩
    have depth := Turn.depth_step ⟨machine, now⟩
    simp only [Counter.value, Turn.step] at calls returns depth
    rw [List.countP_append, List.countP_singleton, calls, returns]
    omega
  · intro turns machine number pressed balanced
    rcases machine.respond_key number pressed with ⟨keypad, moved⟩
    rw [moved]
    exact balanced

/-- Every counter of a machine is exact, at any point of any history from
loading and whichever of its cycles fail.  What was done besides never exceeds
the instructions.  And no call gets lost, except by a return that fails for want
of room at its address. -/
theorem counters_exact {start : Machine} (loaded : Loaded start)
    (events : List Event) :
    let turns := start.turns events
    let left := start.follow events
    (∀ counter : Counter,
      counter.value left.tally = turns.countP counter.counts) ∧
    left.tally.clears + left.tally.drawings + left.tally.calls +
        left.tally.returns + left.tally.jumps + left.tally.keyWaits ≤
      left.tally.instructions ∧
    left.tally.calls =
      left.tally.returns + left.stack.depth + turns.countP Turn.strands := by
  intro turns left
  rcases loaded_iff.mp loaded with
    ⟨rom, variant, overrides, seed, now, _, booted⟩
  have untouched : start.tally = {} ∧ start.stack.depth = 0 := by
    rw [booted]
    exact ⟨rfl, rfl⟩
  rcases untouched with ⟨blank, empty⟩
  refine ⟨?_, ?_, ?_⟩
  · intro counter
    have counted := counter.value_follow start events
    rw [blank] at counted
    cases counter <;> simpa [Counter.value] using counted
  · have initial : Counter.Covered start := by
      rw [Counter.Covered, blank]
      decide
    have covered := Counter.covered_follow initial events
    simp only [Counter.Covered, Counter.deeds, Counter.total, Counter.value]
      at covered
    simp only [left]
    omega
  · apply calls_balanced
    rw [blank, empty]

/-- A program that waits for a key, and then writes a call into the last word of
memory and jumps there.  The subroutine is the return behind the program. -/
def strandedCaller : Rom where
  bytes := [0xF0, 0x0A, 0xAF, 0xFE, 0x60, 0x22, 0x61, 0x0C, 0xF1, 0x55, 0x1F, 0xFE,
    0x00, 0xEE]
  nonempty := by decide
  fits := by decide

/-- That program when it is loaded. -/
def strandedStart : Machine :=
  boot strandedCaller .chipEight (.ofVariant .chipEight) 0 0

/-- What happens to that program: a key is pressed when it has waited once, and
in the end it fails to return. -/
def strandedRun : List Event :=
  [.cycle 0, .key 99 true, .key 3 true] ++ List.replicate 8 (.cycle 0)

/-- One of the nine cycles waits, and one return is refused.  Its call is missing
from the returns and from the stack. -/
theorem strandedRun_counters :
    Counter.keyWaits.value (strandedStart.follow strandedRun).tally = 1 ∧
      (strandedStart.follow strandedRun).tally.calls =
        (strandedStart.follow strandedRun).tally.returns +
          (strandedStart.follow strandedRun).stack.depth + 1 := by
  have loaded : Loaded strandedStart :=
    loaded_boot strandedCaller .chipEight 0 0
  rcases counters_exact loaded strandedRun with ⟨counted, _, balanced⟩
  have tests : (strandedStart.turns strandedRun).countP Turn.waits = 1 ∧
      (strandedStart.turns strandedRun).countP Turn.strands = 1 := by
    decide +kernel
  rw [tests.2] at balanced
  exact ⟨(counted .keyWaits).trans tests.1, balanced⟩

end Machine

end ChipEight
