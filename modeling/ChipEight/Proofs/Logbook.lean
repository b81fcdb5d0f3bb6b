import ChipEight.Proofs.Counters
import ChipEight.Proofs.CycleFaults
import ChipEight.Proofs.Loading
import Mathlib.Data.List.Basic

namespace ChipEight

/-!
# The log of a history

A cycle leaves at most three records: the word that it fetched, the sprite that
it drew, and a complaint if it failed.  Each is described here from the machine
before the cycle and from the outcome of the cycle, without the steps that emit
it, and the records of a cycle are shown to be these three in this order.

A complaint is only made for faults that can stop a program, and an execution
records its drawing before it is known to be accepted.  So both the bounds of a
reachable machine and the faults of decoded operations are needed.

What holds of every cycle then gives what a whole log tells: which words were
fetched and where, what was drawn, and which cycles failed and why.
-/

namespace Record

/-- The word and the place that a record of a fetch names. -/
def fetch? : Record → Option (Int × Int)
  | .fetched word location => some (word, location)
  | _ => none

/-- The column, the row and the height that a record of a drawing names. -/
def drawing? : Record → Option (Nat × Nat × Int)
  | .drawing x y height => some (x, y, height)
  | _ => none

/-- The record of a word that was fetched from a place. -/
def ofFetch (fetch : Int × Int) : Record :=
  .fetched fetch.1 fetch.2

/-- The record of a drawing of some height in a column and a row. -/
def ofDrawing (drawing : Nat × Nat × Int) : Record :=
  .drawing drawing.1 drawing.2.1 drawing.2.2

@[simp] theorem fetch?_ofFetch (fetch : Int × Int) :
    (ofFetch fetch).fetch? = some fetch := rfl

@[simp] theorem fetch?_ofDrawing (drawing : Nat × Nat × Int) :
    (ofDrawing drawing).fetch? = none := rfl

@[simp] theorem drawing?_ofFetch (fetch : Int × Int) :
    (ofFetch fetch).drawing? = none := rfl

@[simp] theorem drawing?_ofDrawing (drawing : Nat × Nat × Int) :
    (ofDrawing drawing).drawing? = some drawing := rfl

@[simp] theorem level_ofFetch (fetch : Int × Int) :
    (ofFetch fetch).level = .debug := rfl

@[simp] theorem level_ofDrawing (drawing : Nat × Nat × Int) :
    (ofDrawing drawing).level = .debug := rfl

end Record

namespace Machine

/-- The column, the row and the height of the sprite that an operation draws, if
it draws one. -/
def sketch? (machine : Machine) : Operation → Option (Nat × Nat × Int)
  | .draw x y height =>
      some ((machine.registers.content x).toNat,
        (machine.registers.content y).toNat, height)
  | _ => none

end Machine

namespace Turn

/-- The word that a cycle fetches and the place where it is, if there is one. -/
def fetch? (turn : Turn) : Option (Int × Int) :=
  match turn.machine.memory.readWord turn.machine.pc with
  | .ok word => some (word, turn.machine.pc)
  | .error _ => none

/-- What a cycle draws, if it succeeds in drawing. -/
def drawing? (turn : Turn) : Option (Nat × Nat × Int) :=
  turn.executed?.bind turn.machine.sketch?

/-- The complaint about a cycle that fails.  It names the place that the cycle
fetched from, and is of the kind of the part that failed. -/
def complaint (turn : Turn) : Record :=
  match turn.machine.memory.readWord turn.machine.pc with
  | .error _ => .fetchFailed turn.machine.pc
  | .ok word =>
      match Instruction.decode? word with
      | none => .decodeFailed word turn.machine.pc
      | some instruction => .executeFailed instruction turn.machine.pc

/-- The records that a cycle should leave. -/
def entries (turn : Turn) : List Record :=
  (turn.fetch?.map Record.ofFetch).toList ++
    (turn.drawing?.map Record.ofDrawing).toList ++
    if turn.step.fault = none then [] else [turn.complaint]

end Turn

namespace Machine

/-! ## The records of an execution -/

section Execution

variable (machine : Machine)

@[simp] theorem attempt_records (before : Machine)
    (result : Except Fault Machine) : (Step.attempt before result).records = [] := by
  cases result <;> rfl

theorem returnFromCall_records : machine.returnFromCall.records = [] := by
  unfold returnFromCall
  split
  · rfl
  · exact attempt_records _ _

/-- An execution records what it draws if it is accepted, and nothing else. -/
theorem execute_records (word : Int) {operation : Operation}
    (fits : operation.FitsWord) :
    let step := machine.execute ⟨word, operation⟩
    step.records =
      if step.fault = none then
        ((machine.sketch? operation).map Record.ofDrawing).toList
      else [] := by
  intro step
  cases operation with
  | draw first second height =>
      rcases exists_register first fits.x with ⟨x, rfl⟩
      rcases exists_register second fits.y with ⟨y, rfl⟩
      have drawn : step = machine.drawSprite x.val y.val height := rfl
      rw [drawn, drawSprite_register]
      simp only [sketch?, Registers.content_register]
      split <;> rfl
  | _ =>
      have silent : step.records = [] := by
        first
        | rfl
        | exact machine.returnFromCall_records
        | exact attempt_records _ _
      rw [silent]
      exact (ite_self _).symm

end Execution

end Machine

/-! ## The records of a cycle -/

namespace Turn

open Machine

variable {turn : Turn}

theorem readWord_of_inside (inside : turn.machine.CanFetch) :
    turn.machine.memory.readWord turn.machine.pc = .ok turn.machine.word := by
  rw [Memory.readWord, if_pos (turn.machine.spans_pc.mpr inside)]
  rfl

theorem readWord_of_outside (outside : ¬ turn.machine.CanFetch) :
    turn.machine.memory.readWord turn.machine.pc =
      .error (.unmapped turn.machine.pc 2) := by
  rw [Memory.readWord, if_neg (mt turn.machine.spans_pc.mp outside)]

theorem fetch?_of_inside (inside : turn.machine.CanFetch) :
    turn.fetch? = some ((turn.machine.word : Int), turn.machine.pc) := by
  rw [fetch?, readWord_of_inside inside]

/-- A cycle that is accepted has fetched a word. -/
theorem isSome_fetch?_of_accepted (accepted : turn.step.fault = none) :
    turn.fetch?.isSome = true := by
  rcases fetches_of_accepted accepted with ⟨operation, fetches⟩
  rw [fetch?_of_inside fetches.1]
  rfl

theorem entries_of_unfetched (outside : ¬ turn.machine.CanFetch) :
    turn.step.records = turn.entries := by
  have failed : turn.step = _ :=
    turn.machine.cycle_of_unfetched turn.now outside
  simp [entries, fetch?, drawing?, executed?, complaint, failed,
    readWord_of_outside outside]

theorem entries_of_undecoded (inside : turn.machine.CanFetch)
    (rejected : Instruction.decode? turn.machine.word = none) :
    turn.step.records = turn.entries := by
  have failed : turn.step = _ :=
    turn.machine.cycle_of_undecoded turn.now inside rejected
  simp [entries, fetch?, drawing?, executed?, complaint, failed,
    readWord_of_inside inside, rejected, Record.ofFetch]

/-- What an operation draws does not depend on the countdown or on the program
counter. -/
theorem sketch?_advanced (machine : Machine) (now : Float)
    (operation : Operation) :
    (machine.advanced now).sketch? operation = machine.sketch? operation := by
  rw [advanced_eq]
  cases operation <;> rfl

/-- A cycle that executes records the fetch, then what the execution records,
and then a complaint if that failed. -/
theorem records_of_fetches (bounded : turn.machine.Bounded)
    {operation : Operation} (fetches : turn.machine.Fetches operation) :
    turn.step.records =
      .fetched turn.machine.word turn.machine.pc ::
        (((turn.machine.advanced turn.now).execute
            ⟨turn.machine.word, operation⟩).records ++
          if turn.step.fault = none then [] else
            [.executeFailed ⟨turn.machine.word, operation⟩ turn.machine.pc]) := by
  have sameFault : turn.step.fault = _ :=
    cycle_fault_of_fetches turn.now fetches
  have made : turn.step = _ := cycle_of_fetches turn.now fetches
  rw [sameFault, made]
  simp only [executeFrom, Step.after]
  cases outcome : ((turn.machine.advanced turn.now).execute
    ⟨turn.machine.word, operation⟩).fault with
  | none => simp
  | some fault =>
      have stops : fault.stopsPrograms = true :=
        bounded.cycle_stops (sameFault.trans outcome)
      simp [stops]

theorem entries_of_fetches (bounded : turn.machine.Bounded)
    {operation : Operation} (fetches : turn.machine.Fetches operation) :
    turn.step.records = turn.entries := by
  have sameFault : turn.step.fault = _ :=
    cycle_fault_of_fetches turn.now fetches
  have executed : ((turn.machine.advanced turn.now).execute
      ⟨turn.machine.word, operation⟩).records = _ :=
    execute_records _ turn.machine.word fetches.fitsWord
  rw [← sameFault, sketch?_advanced] at executed
  have fetched := fetched?_eq_some_iff.mpr fetches
  rw [records_of_fetches bounded fetches, executed, entries,
    fetch?_of_inside fetches.1]
  by_cases accepted : turn.step.fault = none
  · simp [drawing?, executed?, accepted, fetched, Record.ofFetch]
  · simp [drawing?, executed?, accepted, complaint,
      readWord_of_inside fetches.1, fetches.2, Record.ofFetch]

/-- The records of a cycle are those that it should leave. -/
theorem records_eq_entries (bounded : turn.machine.Bounded) :
    turn.step.records = turn.entries := by
  rcases turn.machine.fetch_cases with
    outside | ⟨inside, rejected⟩ | ⟨operation, fetches⟩
  · exact entries_of_unfetched outside
  · exact entries_of_undecoded inside rejected
  · exact entries_of_fetches bounded fetches

/-- A complaint is an error.  It is neither of a fetch nor of a drawing. -/
theorem complaint_kind :
    turn.complaint.level = .error ∧ turn.complaint.fetch? = none ∧
      turn.complaint.drawing? = none := by
  unfold complaint
  split
  · exact ⟨rfl, rfl, rfl⟩
  · split <;> exact ⟨rfl, rfl, rfl⟩

theorem entries_fetch? :
    turn.entries.filterMap Record.fetch? = turn.fetch?.toList := by
  cases fetched : turn.fetch? <;> cases drawn : turn.drawing? <;>
    by_cases accepted : turn.step.fault = none <;>
      simp [entries, fetched, drawn, accepted, complaint_kind.2.1,
        List.filterMap_cons]

theorem entries_drawing? :
    turn.entries.filterMap Record.drawing? = turn.drawing?.toList := by
  cases fetched : turn.fetch? <;> cases drawn : turn.drawing? <;>
    by_cases accepted : turn.step.fault = none <;>
      simp [entries, fetched, drawn, accepted, complaint_kind.2.2,
        List.filterMap_cons]

/-- Before the complaint, a cycle leaves no error. -/
theorem level_of_uncomplaining :
    ∀ record ∈ (turn.fetch?.map Record.ofFetch).toList ++
      (turn.drawing?.map Record.ofDrawing).toList, record.level ≠ .error := by
  cases turn.fetch? <;> cases turn.drawing? <;> simp

/-- A cycle that succeeds leaves no error. -/
theorem records_of_accepted (bounded : turn.machine.Bounded)
    (accepted : turn.step.fault = none) :
    ∀ record ∈ turn.step.records, record.level ≠ .error := by
  rw [records_eq_entries bounded, entries, if_pos accepted, List.append_nil]
  exact level_of_uncomplaining

/-- A cycle that fails leaves one error, which is the last of its records. -/
theorem records_of_refused (bounded : turn.machine.Bounded)
    (refused : turn.step.fault ≠ none) :
    ∃ earlier, turn.step.records = earlier ++ [turn.complaint] ∧
      turn.complaint.level = .error ∧
        ∀ record ∈ earlier, record.level ≠ .error := by
  refine ⟨(turn.fetch?.map Record.ofFetch).toList ++
    (turn.drawing?.map Record.ofDrawing).toList, ?_, complaint_kind.1,
    level_of_uncomplaining⟩
  rw [records_eq_entries bounded, entries, if_neg refused]

/-- A cycle that draws, draws at the place that it records. -/
theorem display_of_drawing {x y : Nat} {height : Int}
    (draws : turn.drawing? = some (x, y, height)) :
    turn.step.machine.display =
      turn.machine.display.draw x y
        (turn.machine.memory.slice turn.machine.index.toNat height.toNat) := by
  rcases Option.bind_eq_some_iff.mp draws with ⟨operation, executed, sketched⟩
  have accepted : turn.step.fault = none := by
    by_cases accepted : turn.step.fault = none
    · exact accepted
    · rw [executed?, if_neg accepted] at executed
      contradiction
  rw [executed?, if_pos accepted] at executed
  have fetches := fetched?_eq_some_iff.mp executed
  cases operation with
  | draw first second size =>
      cases sketched
      rcases exists_register first fetches.fitsWord.x with ⟨x, rfl⟩
      rcases exists_register second fetches.fitsWord.y with ⟨y, rfl⟩
      have sameFault : turn.step.fault = _ :=
        cycle_fault_of_fetches turn.now fetches
      have left : turn.step.machine.display = _ :=
        cycle_part_of_fetches turn.now fetches display fun _ => rfl
      have drawn : (turn.machine.advanced turn.now).execute
          ⟨turn.machine.word, .draw x.val y.val height⟩ = _ :=
        (turn.machine.advanced turn.now).drawSprite_register x y height
      rw [drawn] at left sameFault
      rw [left, Registers.content_register, Registers.content_register]
      split at sameFault
      · rename_i inside
        rw [if_pos inside, advanced_eq]
        rfl
      · rw [accepted] at sameFault
        contradiction
  | _ => contradiction

/-- Whether a cycle draws is what the counter of the drawings tests. -/
theorem isSome_drawing? : turn.drawing?.isSome = turn.does .drawings := by
  unfold drawing? does
  cases turn.executed? with
  | none => rfl
  | some operation => cases operation <;> rfl

end Turn

/-! ## The log of a history -/

namespace Machine

/-- What each cycle shows in its records, a history shows in its log. -/
theorem log_filterMap {Shown : Type} {project : Record → Option Shown}
    {shows : Turn → Option Shown} {turns : List Turn}
    (each : ∀ turn ∈ turns,
      turn.step.records.filterMap project = (shows turn).toList) :
    (turns.flatMap fun turn => turn.step.records).filterMap project =
      turns.filterMap shows := by
  rw [List.filterMap_flatMap, List.filterMap_eq_flatMap_toList]
  exact List.flatMap_congr each

/-- The bounds hold before every cycle of a history. -/
theorem turns_bounded {start : Machine} (bounded : start.Bounded)
    (events : List Event) :
    ∀ turn ∈ start.turns events, turn.machine.Bounded := by
  induction events generalizing start with
  | nil => exact fun _ present => nomatch present
  | cons event rest inductionHypothesis =>
      have later := inductionHypothesis (respond_bounded bounded event)
      cases event with
      | cycle now => exact List.forall_mem_cons.mpr ⟨bounded, later⟩
      | key number pressed => exact later

/-- Loading records neither a fetch nor a drawing. -/
theorem records_of_load {request : LoadRequest} {surroundings : Surroundings}
    {step : Step} (success : load request surroundings = .ok step) :
    step.records.filterMap Record.fetch? = [] ∧
      step.records.filterMap Record.drawing? = [] := by
  rcases load_eq_ok_iff.mp success with ⟨rom, variant, _, _, _, _, rfl⟩
  exact ⟨rfl, rfl⟩

/-- A counter of a machine that was just loaded is at zero. -/
theorem Loaded.value_eq_zero {machine : Machine} (loaded : Loaded machine)
    (counter : Counter) : counter.value machine.tally = 0 := by
  rcases loaded_iff.mp loaded with ⟨rom, variant, overrides, seed, now, _, rfl⟩
  cases counter <;> rfl

/-- The cycles that fetch are those that succeed and those that fail later. -/
theorem countP_fetch? (turns : List Turn) :
    turns.countP (fun turn => turn.fetch?.isSome) =
      turns.countP Counter.instructions.counts + turns.countP fun turn =>
        turn.step.fault ≠ none ∧ turn.fetch?.isSome := by
  induction turns with
  | nil => rfl
  | cons turn rest inductionHypothesis =>
      simp only [List.countP_cons, inductionHypothesis, Counter.counts]
      by_cases accepted : turn.step.fault = none
      · have fetched := turn.isSome_fetch?_of_accepted accepted
        simp [accepted, fetched]
        omega
      · simp [accepted]
        omega

/-- The log of a history from loading tells the truth, and all of it.

The words that were fetched are recorded in order, each with the program counter
before its cycle.  A cycle that fails leaves one error, at its end, which names
that program counter and says which part failed, and a cycle that succeeds leaves
none.  Every drawing is recorded with the content that its registers had and is
made at that place.  So the log agrees with the counters: there is a record for
each drawing, and a record of a fetch for each instruction and for each cycle
that failed later than in its fetch. -/
theorem log_faithful {request : LoadRequest} {surroundings : Surroundings}
    {step : Step} (success : load request surroundings = .ok step)
    (events : List Event) :
    let turns := step.machine.turns events
    let left := step.machine.follow events
    let log := step.records ++ turns.flatMap fun turn => turn.step.records
    log.filterMap Record.fetch? = turns.filterMap Turn.fetch? ∧
    (∀ turn ∈ turns, turn.step.fault = none →
      ∀ record ∈ turn.step.records, record.level ≠ .error) ∧
    (∀ turn ∈ turns, turn.step.fault ≠ none →
      ∃ earlier, turn.step.records = earlier ++ [turn.complaint] ∧
        turn.complaint.level = .error ∧
          ∀ record ∈ earlier, record.level ≠ .error) ∧
    log.filterMap Record.drawing? = turns.filterMap Turn.drawing? ∧
    (∀ turn ∈ turns, ∀ x y height, turn.drawing? = some (x, y, height) →
      turn.step.machine.display =
        turn.machine.display.draw x y
          (turn.machine.memory.slice turn.machine.index.toNat height.toNat)) ∧
    (log.filterMap Record.drawing?).length = left.tally.drawings ∧
    (log.filterMap Record.fetch?).length =
      left.tally.instructions + turns.countP fun turn =>
        turn.step.fault ≠ none ∧ turn.fetch?.isSome := by
  intro turns left log
  have loaded : Loaded step.machine := ⟨request, surroundings, step, success, rfl⟩
  have bounded : ∀ turn ∈ turns, turn.machine.Bounded :=
    turns_bounded loaded.reachable.bounded events
  have fetches : log.filterMap Record.fetch? = turns.filterMap Turn.fetch? := by
    rw [List.filterMap_append, (records_of_load success).1, List.nil_append]
    refine log_filterMap fun turn present => ?_
    rw [Turn.records_eq_entries (bounded turn present), Turn.entries_fetch?]
  have drawings :
      log.filterMap Record.drawing? = turns.filterMap Turn.drawing? := by
    rw [List.filterMap_append, (records_of_load success).2, List.nil_append]
    refine log_filterMap fun turn present => ?_
    rw [Turn.records_eq_entries (bounded turn present), Turn.entries_drawing?]
  have counted : ∀ counter : Counter,
      counter.value left.tally = turns.countP counter.counts := by
    intro counter
    rw [counter.value_follow, loaded.value_eq_zero, Nat.zero_add]
  refine ⟨fetches, ?_, ?_, drawings, ?_, ?_, ?_⟩
  · exact fun turn present => Turn.records_of_accepted (bounded turn present)
  · exact fun turn present => Turn.records_of_refused (bounded turn present)
  · exact fun turn _ x y height => Turn.display_of_drawing
  · rw [drawings, List.length_filterMap_eq_countP]
    refine Eq.trans ?_ (counted .drawings).symm
    exact congrArg (turns.countP ·) (funext fun turn => turn.isSome_drawing?)
  · rw [fetches, List.length_filterMap_eq_countP, countP_fetch?]
    exact congrArg (· + _) (counted .instructions).symm

/-- A program that draws the glyph of zero in column 10 and row 3, returns from
nowhere, and goes on to a word that stands for nothing. -/
def sketcher : Rom where
  bytes := [0x60, 0x0A, 0x61, 0x03, 0xA0, 0x50, 0xD0, 0x15, 0x00, 0xEE, 0xFF, 0xFF]
  nonempty := by decide
  fits := by decide

/-- That program when it is loaded. -/
def sketcherStart : Machine :=
  boot sketcher .chipEight (.ofVariant .chipEight) 0 0

/-- Six cycles of that program, the last two of which fail. -/
def sketcherRun : List Event :=
  List.replicate 6 (.cycle 0)

/-- There is a record of one drawing and of six fetches, although only four
instructions were executed. -/
theorem sketcherRun_log :
    ∃ step, load ⟨.bytes sketcher.bytes, .text "chip8", [], some 0⟩
        ⟨fun _ => .error .missing, 0, 0⟩ = .ok step ∧
      let log := step.records ++
        (step.machine.turns sketcherRun).flatMap fun turn => turn.step.records
      log.filterMap Record.drawing? = [(10, 3, 5)] ∧
        log.filterMap Record.fetch? =
          [(0x600A, 0x200), (0x6103, 0x202), (0xA050, 0x204), (0xD015, 0x206),
            (0x00EE, 0x208), (0xFFFF, 0x20A)] ∧
        (step.machine.follow sketcherRun).tally.instructions = 4 := by
  rcases load_of_known sketcher .chipEight Behaviour.unknownSwitches_nil 0
    ⟨fun _ => .error .missing, 0, 0⟩ with ⟨step, success, booted⟩
  have start : step.machine = sketcherStart := booted
  have evaluated :
      (sketcherStart.turns sketcherRun).filterMap Turn.drawing? = [(10, 3, 5)] ∧
        (sketcherStart.turns sketcherRun).filterMap Turn.fetch? =
          [(0x600A, 0x200), (0x6103, 0x202), (0xA050, 0x204), (0xD015, 0x206),
            (0x00EE, 0x208), (0xFFFF, 0x20A)] ∧
        (sketcherStart.follow sketcherRun).tally.instructions = 4 := by
    decide +kernel
  rcases log_faithful success sketcherRun with ⟨fetches, _, _, drawings, _⟩
  rw [← start] at evaluated
  exact ⟨step, success, drawings.trans evaluated.1, fetches.trans evaluated.2.1,
    evaluated.2.2⟩

end Machine

end ChipEight
