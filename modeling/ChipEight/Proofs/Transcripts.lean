import ChipEight.Proofs.Runs
import ChipEight.Session

namespace ChipEight

/-!
# Sessions and their transcripts

A session asks for one file, starts at most one trace, saves at most one image and
prints no line twice.  So a world is described by one answer to each of these
questions, by a time, by what it grants to arrays, and by clock readings that are
numbered in the order in which they are taken.  Nothing is assumed about any of
them.

What a session does in a world is kept in a transcript, the oldest line first.
Each part of a session is shown to add to the transcript what can be said
without its host: lines, records, an image.  A part that is interrupted adds what it
did before.
-/

/-- The answers that a session gets from outside. -/
structure World where
  storage : Storage
  folder : String
  file : String → Except FileFault (List UInt8)
  tracing : String → Except FileFault Unit
  saving : String → Image → Except FileFault Unit
  clock : Nat → Float
  timestamp : Int
  printing : Outlet → String → Except OutputFault Unit

/-- What a session has done so far, with the number of its clock readings. -/
structure Transcript where
  readings : Nat := 0
  printed : List String := []
  reported : List String := []
  traced : List String := []
  saved : List (String × Image) := []

namespace Session

/-- A record is reported.  Errors always are. -/
def Recording.reports (recording : Recording) (record : Record) : Bool :=
  recording.everything || record.level == .error

/-- The status that tells whether a run ended with a fault. -/
def runStatus (run : Run) : Nat :=
  if run.fault.isNone then 0 else 1

end Session

namespace Transcript

open Session

/-- Add lines to what was printed. -/
def print (transcript : Transcript) (lines : List String) : Transcript :=
  { transcript with printed := transcript.printed ++ lines }

/-- Add lines to what was reported. -/
def report (transcript : Transcript) (lines : List String) : Transcript :=
  { transcript with reported := transcript.reported ++ lines }

/-- Add lines to what went through an outlet. -/
def write (transcript : Transcript) : Outlet → List String → Transcript
  | .output => transcript.print
  | .errors => transcript.report

/-- Add lines to the trace. -/
def trace (transcript : Transcript) (lines : List String) : Transcript :=
  { transcript with traced := transcript.traced ++ lines }

/-- Add an image to what was saved. -/
def save (transcript : Transcript) (path : String) (image : Image) :
    Transcript :=
  { transcript with saved := transcript.saved ++ [(path, image)] }

/-- Count clock readings. -/
def read (transcript : Transcript) (count : Nat) : Transcript :=
  { transcript with readings := transcript.readings + count }

/-- Add records to the report and to the trace. -/
def note (transcript : Transcript) (recording : Recording)
    (records : List Record) : Transcript :=
  (transcript.report ((records.filter recording.reports).map recordLine)).trace
    (if recording.traced then records.map recordLine else [])

/-- What a session has told of a run before it goes on to the image. -/
def tell (transcript : Transcript) (settings : CommandLine.RunSettings)
    (run : Run) : Transcript :=
  (transcript.report (faultLines run.fault)).print
    (runLines settings run.machine run.fault)

variable (transcript : Transcript)

@[simp] theorem report_nil : transcript.report [] = transcript := by
  simp [report]

@[simp] theorem write_nil (outlet : Outlet) :
    transcript.write outlet [] = transcript := by
  cases outlet <;> simp [write, print, report]

@[simp] theorem write_write (outlet : Outlet) (first second : List String) :
    (transcript.write outlet first).write outlet second =
      transcript.write outlet (first ++ second) := by
  cases outlet <;> simp [write, print, report]

@[simp] theorem trace_nil : transcript.trace [] = transcript := by
  simp [trace]

@[simp] theorem note_nil (recording : Recording) :
    transcript.note recording [] = transcript := by
  simp [note, report, trace]

@[simp] theorem note_note (recording : Recording) (first second : List Record) :
    (transcript.note recording first).note recording second =
      transcript.note recording (first ++ second) := by
  cases traced : recording.traced <;> simp [note, report, trace, traced]

theorem read_read (first second : Nat) :
    (transcript.read first).read second = transcript.read (first + second) := by
  simp only [read, Nat.add_assoc]

/-- What is noted does not depend on the clock readings. -/
theorem note_read (recording : Recording) (records : List Record)
    (count : Nat) :
    (transcript.read count).note recording records =
      (transcript.note recording records).read count := rfl

end Transcript

namespace World

/-- The host that gives the answers of a world and writes a transcript. -/
def host (world : World) : Host (StateM Transcript) where
  storage := world.storage
  workingFolder := fun transcript => (world.folder, transcript)
  readFile path := fun transcript => (world.file path, transcript)
  openTrace path := fun transcript => (world.tracing path, transcript)
  trace line := fun transcript => ((), transcript.trace [line])
  saveImage path image := fun transcript =>
    match world.saving path image with
    | .error fault => (.error fault, transcript)
    | .ok () => (.ok (), transcript.save path image)
  clock := fun transcript => (world.clock transcript.readings, transcript.read 1)
  timestamp := fun transcript => (world.timestamp, transcript)
  print outlet line := fun transcript =>
    match world.printing outlet line with
    | .error fault => (.error fault, transcript)
    | .ok () => (.ok (), transcript.write outlet [line])
  log line := fun transcript => ((), transcript.report [line])

/-- What a session in a world ends with. -/
def session (world : World) (words : List String) : Ending × Transcript :=
  Session.main world.host words {}

/-- What a world refuses of some lines: the first one that it does not take. -/
def refusal? (world : World) (outlet : Outlet) (lines : List String) :
    Option OutputFault :=
  lines.findSome? fun line =>
    match world.printing outlet line with
    | .error fault => some fault
    | .ok () => none

open Session

variable (world : World) (transcript : Transcript)

/-! ## Steps -/

section Steps

variable {First Second : Type} {transcript : Transcript}

/-- What an action does is known before the next one starts. -/
theorem bind_apply {action : StateM Transcript First}
    {next : First → StateM Transcript Second} {value : First}
    {after : Transcript} (done : action transcript = (value, after)) :
    (action >>= next) transcript = next value after := by
  simp only [bind, StateT.bind, done]

variable {command : Command (StateM Transcript) First}
  {next : First → Command (StateM Transcript) Second} {after : Transcript}

/-- A command that ends goes on. -/
theorem run_bind_of_ok {value : First}
    (done : command.run transcript = (.ok value, after)) :
    (command >>= next).run transcript = (next value).run after := by
  rw [ExceptT.run_bind, bind_apply done]

/-- A command that is interrupted does not go on. -/
theorem run_bind_of_error {reason : Interruption}
    (stopped : command.run transcript = (.error reason, after)) :
    (command >>= next).run transcript = (.error reason, after) := by
  rw [ExceptT.run_bind, bind_apply stopped]
  rfl

/-- A question to the host interrupts nothing. -/
theorem run_liftM {action : StateM Transcript First} {value : First}
    (done : action transcript = (value, after)) :
    (liftM action : Command (StateM Transcript) First).run transcript =
      (.ok value, after) := by
  change (Except.ok <$> action) transcript = _
  simp only [Functor.map, StateT.map, bind, done]
  rfl

theorem run_liftM_bind {action : StateM Transcript First} {value : First}
    (done : action transcript = (value, after)) :
    ((liftM action : Command (StateM Transcript) First) >>= next).run transcript =
      (next value).run after :=
  run_bind_of_ok (run_liftM done)

end Steps

/-! ## Lines -/

section Lines

variable {outlet : Outlet}

theorem printLine_of_taken {line : String}
    (taken : world.printing outlet line = .ok ()) :
    (printLine world.host outlet line).run transcript =
      (.ok (), transcript.write outlet [line]) := by
  have printed : world.host.print outlet line transcript =
      (.ok (), transcript.write outlet [line]) := by
    simp only [host, taken]
  rw [printLine, run_liftM_bind printed]
  rfl

theorem printLine_of_refused {line : String} {fault : OutputFault}
    (refused : world.printing outlet line = .error fault) :
    (printLine world.host outlet line).run transcript =
      (.error (.failure fault.message), transcript) := by
  have printed : world.host.print outlet line transcript =
      (.error fault, transcript) := by
    simp only [host, refused]
  rw [printLine, run_liftM_bind printed]
  rfl

theorem refusal?_cons (line : String) (rest : List String) :
    world.refusal? outlet (line :: rest) =
      match world.printing outlet line with
      | .error fault => some fault
      | .ok () => world.refusal? outlet rest := by
  rw [refusal?, List.findSome?_cons]
  cases world.printing outlet line <;> rfl

theorem refusal?_eq_none_iff {lines : List String} :
    world.refusal? outlet lines = none ↔
      ∀ line ∈ lines, world.printing outlet line = .ok () := by
  rw [refusal?, List.findSome?_eq_none_iff]
  refine forall₂_congr fun line _ => ?_
  cases world.printing outlet line <;> simp

theorem printLines_of_taken {lines : List String}
    (taken : ∀ line ∈ lines, world.printing outlet line = .ok ()) :
    (printLines world.host outlet lines).run transcript =
      (.ok (), transcript.write outlet lines) := by
  induction lines generalizing transcript with
  | nil =>
      rw [Transcript.write_nil]
      rfl
  | cons line rest inductionHypothesis =>
      rcases List.forall_mem_cons.mp taken with ⟨first, others⟩
      have printed := inductionHypothesis (transcript.write outlet [line]) others
      rw [Transcript.write_write] at printed
      rw [printLines, run_bind_of_ok (printLine_of_taken world transcript first)]
      exact printed

/-- The lines before the first one that is refused are printed. -/
theorem printLines_of_refused {lines : List String} {fault : OutputFault}
    (refused : world.refusal? outlet lines = some fault) :
    ∃ before, before <+: lines ∧
      (printLines world.host outlet lines).run transcript =
        (.error (.failure fault.message), transcript.write outlet before) := by
  induction lines generalizing transcript with
  | nil => contradiction
  | cons line rest inductionHypothesis =>
      rw [refusal?_cons] at refused
      cases printed : world.printing outlet line with
      | error reason =>
          rw [printed] at refused
          refine ⟨[], List.nil_prefix, ?_⟩
          rw [printLines,
            run_bind_of_error (printLine_of_refused world transcript printed),
            Transcript.write_nil, Option.some.inj refused]
      | ok done =>
          rw [printed] at refused
          rcases inductionHypothesis (transcript.write outlet [line]) refused with
            ⟨before, earlier, stopped⟩
          rw [Transcript.write_write] at stopped
          refine ⟨line :: before, List.prefix_cons_inj line |>.mpr earlier, ?_⟩
          rw [printLines,
            run_bind_of_ok (printLine_of_taken world transcript printed)]
          exact stopped

end Lines

/-! ## Records and cycles -/

/-- Whether a record is reported and whether it is traced are decided one after
the other. -/
theorem emit_cons (recording : Recording) (record : Record)
    (rest : List Record) :
    emit world.host recording (record :: rest) transcript =
      emit world.host recording rest (transcript.note recording [record]) := by
  have heard : recording.reports record = true ↔
      recording.everything ∨ record.level = .error := by
    simp [Recording.reports]
  simp only [emit, ← heard, Transcript.note, List.filter_cons, List.filter_nil]
  cases recording.reports record <;> cases recording.traced <;>
    simp only [Bool.false_eq_true, if_false, if_true, List.map_cons,
      List.map_nil, Transcript.report_nil, Transcript.trace_nil] <;>
    rfl

theorem emit_apply (recording : Recording) (records : List Record) :
    emit world.host recording records transcript =
      ((), transcript.note recording records) := by
  induction records generalizing transcript with
  | nil => rw [Transcript.note_nil]; rfl
  | cons record rest inductionHypothesis =>
      rw [emit_cons, inductionHypothesis, Transcript.note_note]
      rfl

/-- One more cycle of a session. -/
theorem runCycles_succ (recording : Recording) (count : Nat)
    (machine : Machine) {step : Step}
    (made : machine.cycle (world.clock transcript.readings) = step) :
    runCycles world.host recording (count + 1) machine transcript =
      match step.fault with
      | some fault =>
          ((step.machine, some fault),
            (transcript.read 1).note recording step.records)
      | none =>
          runCycles world.host recording count step.machine
            ((transcript.read 1).note recording step.records) := by
  subst made
  have clocked : world.host.clock transcript =
      (world.clock transcript.readings, transcript.read 1) := rfl
  rw [runCycles, bind_apply clocked, bind_apply (emit_apply _ _ _ _)]
  cases (machine.cycle (world.clock transcript.readings)).fault <;> rfl

/-- The cycles of a session are those of the library, and their records are
passed on. -/
theorem runCycles_apply (recording : Recording) (run : Run)
    (going : run.fault = none) (count : Nat) :
    let final := run.continueFor world.clock transcript.readings count
    ∃ records taken, final.records.toList = run.records.toList ++ records ∧
      runCycles world.host recording count run.machine transcript =
        ((final.machine, final.fault),
          (transcript.note recording records).read taken) := by
  intro final
  induction count generalizing run transcript with
  | zero =>
      refine ⟨[], 0, (List.append_nil _).symm, ?_⟩
      rw [Transcript.note_nil]
      change ((run.machine, none), transcript) = _
      rw [← going]
      rfl
  | succ count inductionHypothesis =>
      let now := world.clock transcript.readings
      let step := run.machine.cycle now
      let next := run.extend now
      let noted := (transcript.read 1).note recording step.records
      have ended : final = next.continueFor world.clock noted.readings count :=
        Run.continueFor_succ _ _ _ going
      have added : next.records.toList = run.records.toList ++ step.records := by
        simp only [next, Run.extend, Array.toList_append]
        rfl
      have made : run.machine.cycle now = step := rfl
      have divided := runCycles_succ world transcript recording count run.machine
        made
      cases outcome : step.fault with
      | some fault =>
          have failed : next.fault = some fault := outcome
          have stopped : final = next :=
            ended.trans (Run.continueFor_of_failed _ _ _ failed)
          rw [outcome] at divided
          refine ⟨step.records, 1, by rw [stopped, added], ?_⟩
          rw [stopped, failed]
          exact divided
      | none =>
          rcases inductionHypothesis noted next outcome with
            ⟨records, taken, rest, same⟩
          rw [outcome] at divided
          refine ⟨step.records ++ records, 1 + taken, ?_, ?_⟩
          · rw [ended, rest, added, List.append_assoc]
          · have noted_rest : (noted.note recording records).read taken =
                (transcript.note recording (step.records ++ records)).read
                  (1 + taken) := by
              simp only [noted, Transcript.note_read, Transcript.note_note,
                Transcript.read_read]
            rw [ended, ← noted_rest]
            exact divided.trans same

/-! ## The parts of a session -/

/-- How a session goes on that has run a machine: it reports on the run and saves
the image, if there is to be one. -/
def finish (settings : CommandLine.RunSettings) (scale : Int) (run : Run) :
    Command (StateM Transcript) Nat :=
  finishRun world.host settings scale run.machine run.fault

/-- A session that runs a machine notes the records of the run and finishes it. -/
theorem runMachine_apply (settings : CommandLine.RunSettings)
    (cycles scale : Int) (recording : Recording) (machine : Machine) :
    let run := (Run.start machine).continueFor world.clock transcript.readings
      cycles.toNat
    ∃ taken,
      (runMachine world.host settings cycles scale recording machine).run
          transcript =
        (world.finish settings scale run).run
          ((transcript.note recording run.records.toList).read taken) := by
  intro run
  rcases runCycles_apply world transcript recording (.start machine) rfl
    cycles.toNat with ⟨records, taken, made, ran⟩
  have all : run.records.toList = records := made
  have ended : runCycles world.host recording cycles.toNat machine transcript =
      ((run.machine, run.fault), (transcript.note recording records).read taken) :=
    ran
  refine ⟨taken, ?_⟩
  rw [runMachine, run_liftM_bind ended, all]
  rfl

/-! ## The image -/

section Image

variable {display : Display} {path : String} {scale : Int}

/-- The refusal of an image is reported, or the session breaks off. -/
theorem saveDisplay_of_refused {fault : Fault}
    (refused : display.image world.storage scale = .error fault) :
    (saveDisplay world.host display path scale).run transcript =
      (.error (.ofImage fault), transcript) := by
  have asked : display.image world.host.storage scale = .error fault := refused
  rw [saveDisplay, asked]
  rfl

variable {image : Image}
  (made : display.image world.storage scale = .ok image)

include made

theorem saveDisplay_of_unsaved {fault : FileFault}
    (failed : world.saving path image = .error fault) :
    (saveDisplay world.host display path scale).run transcript =
      (.error (.failure (fault.openMessage path)), transcript) := by
  have asked : world.host.saveImage path image transcript =
      (.error fault, transcript) := by
    simp only [host, failed]
  have same : display.image world.host.storage scale = .ok image := made
  simp only [saveDisplay, same]
  rw [run_liftM_bind asked]
  rfl

section Saved

variable (done : world.saving path image = .ok ())

include done

/-- Once an image is saved, a line tells of it. -/
theorem saveDisplay_eq_printLine :
    (saveDisplay world.host display path scale).run transcript =
      (printLine world.host .output (savedLine path)).run
        (transcript.save path image) := by
  have asked : world.host.saveImage path image transcript =
      (.ok (), transcript.save path image) := by
    simp only [host, done]
  have same : display.image world.host.storage scale = .ok image := made
  simp only [saveDisplay, same]
  rw [run_liftM_bind asked]

theorem saveDisplay_of_taken
    (taken : world.printing .output (savedLine path) = .ok ()) :
    (saveDisplay world.host display path scale).run transcript =
      (.ok (), (transcript.save path image).print [savedLine path]) :=
  (saveDisplay_eq_printLine world transcript made done).trans
    (printLine_of_taken world _ taken)

theorem saveDisplay_of_unheard {fault : OutputFault}
    (refused : world.printing .output (savedLine path) = .error fault) :
    (saveDisplay world.host display path scale).run transcript =
      (.error (.failure fault.message), transcript.save path image) :=
  (saveDisplay_eq_printLine world transcript made done).trans
    (printLine_of_refused world _ refused)

end Saved

end Image

/-! ## Loading -/

/-- What loading takes from a world, at the start of a session. -/
def surroundings : Surroundings :=
  ⟨world.file, world.clock 0, world.timestamp⟩

/-- What a session asks to be loaded. -/
def request (rom : String) (settings : CommandLine.RunSettings)
    (variant : Variant) : LoadRequest :=
  ⟨.file rom, .text variant.label, [], settings.seed⟩

section Loading

variable {rom : String} {settings : CommandLine.RunSettings}
  {variant : Variant} {scale : Int} {recording : Recording}

/-- A session that loads reads one file and takes one clock reading. -/
theorem run_apply :
    (Session.run world.host rom settings variant scale recording).run {} =
      (match Machine.load (request rom settings variant) world.surroundings with
        | .error fault => throw (.failure fault.message)
        | .ok step => do
            liftM (emit world.host recording step.records)
            match settings.cycles with
            | none => throw (.breakdown .noCycles)
            | some cycles =>
                runMachine world.host settings cycles scale recording
                  step.machine : Command (StateM Transcript) Nat).run
        (Transcript.read {} 1) := by
  have sameFile : Machine.load (request rom settings variant) world.surroundings =
      Machine.load ⟨.file rom, .text variant.label, [], settings.seed⟩
        ⟨fun _ => world.file rom, world.clock 0, world.timestamp⟩ := rfl
  rw [sameFile]
  rfl

theorem run_of_refused {fault : LoadFault}
    (refused : Machine.load (request rom settings variant) world.surroundings =
      .error fault) :
    (Session.run world.host rom settings variant scale recording).run {} =
      (.error (.failure fault.message), Transcript.read {} 1) := by
  rw [run_apply, refused]
  rfl

variable {step : Step}
  (loaded : Machine.load (request rom settings variant) world.surroundings =
    .ok step)

include loaded

theorem run_of_uncounted (uncounted : settings.cycles = none) :
    (Session.run world.host rom settings variant scale recording).run {} =
      (.error (.breakdown .noCycles),
        (Transcript.read {} 1).note recording step.records) := by
  simp only [run_apply, loaded, uncounted]
  rw [run_liftM_bind (emit_apply world _ recording step.records)]
  rfl

variable (scale recording) in
/-- A session that has loaded finishes the library's run, whose cycles take the
clock readings behind that of loading. -/
theorem run_of_loaded {cycles : Int} (counted : settings.cycles = some cycles) :
    let run := step.machine.run (fun number => world.clock (number + 1)) cycles
    ∃ taken,
      (Session.run world.host rom settings variant scale recording).run {} =
        (world.finish settings scale run).run
          ((Transcript.note {} recording
            (step.records ++ run.records.toList)).read taken) := by
  intro run
  let noted := (Transcript.read {} 1).note recording step.records
  have shifted : run = (Run.start step.machine).continueFor world.clock
      noted.readings cycles.toNat :=
    Run.continueFor_shift world.clock 0 cycles.toNat (.start step.machine) 1
  rcases runMachine_apply world noted settings cycles scale recording step.machine
    with ⟨taken, ran⟩
  rw [← shifted] at ran
  have all : (noted.note recording run.records.toList).read taken =
      (Transcript.note {} recording (step.records ++ run.records.toList)).read
        (1 + taken) := by
    simp only [noted, Transcript.note_read, Transcript.note_note,
      Transcript.read_read]
  refine ⟨1 + taken, ?_⟩
  simp only [run_apply, loaded, counted]
  rw [run_liftM_bind (emit_apply world _ recording step.records), ran, all]

end Loading

/-! ## Whole sessions -/

section Endings

variable {transcript : Transcript} {command : Command (StateM Transcript) Nat}
  {after : Transcript}

theorem conclude_of_ok {code : Nat}
    (done : command.run transcript = (.ok code, after)) :
    conclude world.host command transcript = (.status code, after) := by
  rw [conclude, bind_apply done]
  rfl

theorem conclude_of_breakdown {reason : Breakdown}
    (stopped : command.run transcript = (.error (.breakdown reason), after)) :
    conclude world.host command transcript = (.broken reason, after) := by
  rw [conclude, bind_apply stopped]
  rfl

/-- A failure is reported, unless its report is refused. -/
theorem conclude_of_failure {message : String}
    (stopped : command.run transcript = (.error (.failure message), after)) :
    conclude world.host command transcript =
      match world.printing .errors (failureLine message) with
      | .error fault => (.broken (.output fault), after)
      | .ok () => (.status 1, after.report [failureLine message]) := by
  rw [conclude, bind_apply stopped]
  cases printed : world.printing .errors (failureLine message) with
  | error fault =>
      have asked : world.host.print .errors (failureLine message) after =
          (.error fault, after) := by
        simp only [host, printed]
      exact (bind_apply asked).trans rfl
  | ok done =>
      have asked : world.host.print .errors (failureLine message) after =
          (.ok (), after.report [failureLine message]) := by
        simp only [host, printed]
        rfl
      exact (bind_apply asked).trans rfl

end Endings

/-- The trace file of a run opens, if there is to be one. -/
def Opens (settings : CommandLine.RunSettings) : Prop :=
  ∀ path, nonEmpty settings.debugFile = some path →
    world.tracing (Path.within world.folder path) = .ok ()

theorem withTrace_of_opened {settings : CommandLine.RunSettings}
    (opens : world.Opens settings) (next : StateM Transcript Ending) :
    withTrace world.host settings.debugFile next transcript = next transcript := by
  unfold withTrace
  cases wanted : nonEmpty settings.debugFile with
  | none => rfl
  | some path =>
      have folder : world.host.workingFolder transcript =
          (world.folder, transcript) := rfl
      have opened : world.host.openTrace (Path.within world.folder path) transcript =
          (.ok (), transcript) :=
        Prod.ext (opens path wanted) rfl
      simp only
      rw [bind_apply folder, bind_apply opened]

/-- What a session does for a request, once its trace file is open. -/
def command : CommandLine.Request → Command (StateM Transcript) Nat
  | .disassemble rom => disassembleRom world.host rom
  | .run rom settings =>
      match settings.scale with
      | none => throw (.breakdown .noScale)
      | some scale =>
          runVariant world.host rom settings scale (.ofSettings settings)

/-- A session for a request ends as its command does. -/
theorem session_of_parsed {words : List String} {request : CommandLine.Request}
    (parsed : CommandLine.request words = .ok request)
    (opens : ∀ rom settings, request = .run rom settings →
      world.Opens settings) :
    world.session words = conclude world.host (world.command request) {} := by
  rw [session, Session.main, parsed]
  cases request with
  | disassemble rom => rfl
  | run rom settings =>
      cases scaled : settings.scale with
      | none =>
          simp only [answer, command, scaled]
          rfl
      | some scale =>
          simp only [answer, command, scaled]
          exact withTrace_of_opened world {} (opens rom settings rfl) _

/-- A session that disassembles reads one file. -/
theorem disassembleRom_apply (rom : String) :
    (disassembleRom world.host rom).run transcript =
      (match (RomSource.file rom).read world.file with
        | .error fault => throw (.failure fault.message)
        | .ok content => do
            printLine world.host .output
              (listing (disassemble programStart content.bytes))
            pure 0 : Command (StateM Transcript) Nat).run transcript := rfl

end World

end ChipEight
