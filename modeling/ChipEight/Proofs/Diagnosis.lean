import ChipEight.Proofs.Reporting

namespace ChipEight

/-!
# What a failure is blamed on

A session that fails reports a line that blames the loading of its program.  This
is right if the program could not be obtained: then the line is all that there is,
and no cycle was made.  But the same line is reported if a program was loaded and
run and its image could not be made or saved, and also if a line about a program
that was obtained is refused.  These are the only three cases.

Files that cannot be read or written, lines that are refused, and the refusals of a
program and of an image are failures of the same kind.  The session handles all of
them in one place.  No command reports such a line itself, which is shown command by
command, so a session reports one exactly if its command fails.
-/

namespace Session

theorem failureLine_start (message : String) :
    (failureLine message).toList.take 2 = ['E', 'r'] := by
  change ("Error loading ROM: " ++ message).toList.take 2 = ['E', 'r']
  rw [String.toList_append]
  rfl

theorem failureLine_inj {first second : String} :
    failureLine first = failureLine second ↔ first = second :=
  String.append_right_inj _

theorem failureLine_mem_singleton {message reason : String} :
    failureLine message ∈ [failureLine reason] ↔ message = reason := by
  rw [List.mem_singleton, failureLine_inj]

/-- The line of a fault does not blame the loading either. -/
theorem failureLine_not_mem_faultLines (fault : Option Fault) (message : String) :
    failureLine message ∉ faultLines fault := by
  intro listed
  cases fault with
  | none => exact List.not_mem_nil listed
  | some reason =>
      have start := failureLine_start message
      rw [List.mem_singleton.mp listed, String.toList_append] at start
      exact absurd start (by simp)

end Session

/-! ## Quiet commands -/

/-- Nothing has been blamed on the loading of a program. -/
def Transcript.Quiet (transcript : Transcript) : Prop :=
  ∀ message, Session.failureLine message ∉ transcript.reported

/-- A command blames nothing on the loading of a program, whether it is interrupted
or not. -/
def Session.KeepsQuiet {Value : Type} (command : Command (StateM Transcript) Value) :
    Prop :=
  ∀ transcript, transcript.Quiet → (command.run transcript).2.Quiet

namespace World

open Session

section Quiet

variable (world : World)

/-- The line of a record starts with the name of its level. -/
theorem quiet_note {transcript : Transcript} (quiet : transcript.Quiet)
    (recording : Recording) (records : List Record) :
    (transcript.note recording records).Quiet := by
  intro message present
  rcases List.mem_append.mp present with earlier | recorded
  · exact quiet message earlier
  · exact not_mem_recordLines (failureLine_start message) (by decide) _ recorded

variable {First Second : Type}

theorem keepsQuiet_pure (value : First) :
    KeepsQuiet (pure value : Command (StateM Transcript) First) :=
  fun _ quiet => quiet

theorem keepsQuiet_throw (reason : Interruption) :
    KeepsQuiet (throw reason : Command (StateM Transcript) First) :=
  fun _ quiet => quiet

/-- The second command only starts if the first one ends. -/
theorem keepsQuiet_bind {command : Command (StateM Transcript) First}
    {next : First → Command (StateM Transcript) Second}
    (first : KeepsQuiet command) (second : ∀ value, KeepsQuiet (next value)) :
    KeepsQuiet (command >>= next) := by
  intro transcript quiet
  have between := first transcript quiet
  rcases ended : command.run transcript with ⟨outcome, after⟩
  rw [ended] at between
  cases outcome with
  | ok value =>
      rw [run_bind_of_ok ended]
      exact second value after between
  | error reason =>
      rw [run_bind_of_error ended]
      exact between

theorem keepsQuiet_liftM {action : StateM Transcript First}
    (kept : ∀ transcript, transcript.Quiet → (action transcript).2.Quiet) :
    KeepsQuiet (liftM action : Command (StateM Transcript) First) := by
  intro transcript quiet
  have asked : action transcript =
      ((action transcript).1, (action transcript).2) := rfl
  rw [run_liftM asked]
  exact kept transcript quiet

theorem keepsQuiet_printLine {outlet : Outlet} {line : String}
    (harmless : outlet = .errors → ∀ message, line ≠ failureLine message) :
    KeepsQuiet (printLine world.host outlet line) := by
  intro transcript quiet
  cases printed : world.printing outlet line with
  | error fault =>
      rw [printLine_of_refused world transcript printed]
      exact quiet
  | ok done =>
      rw [printLine_of_taken world transcript printed]
      cases outlet with
      | output => exact quiet
      | errors =>
          intro message present
          rcases List.mem_append.mp present with earlier | last
          · exact quiet message earlier
          · exact harmless rfl message (List.mem_singleton.mp last).symm

theorem keepsQuiet_printLines {outlet : Outlet} {lines : List String}
    (harmless : outlet = .errors →
      ∀ line ∈ lines, ∀ message, line ≠ failureLine message) :
    KeepsQuiet (printLines world.host outlet lines) := by
  induction lines with
  | nil => exact keepsQuiet_pure ()
  | cons line rest inductionHypothesis =>
      have first := keepsQuiet_printLine world fun errors =>
        harmless errors line List.mem_cons_self
      have others := inductionHypothesis fun errors later listed =>
        harmless errors later (List.mem_cons_of_mem line listed)
      exact keepsQuiet_bind first fun _ => others

theorem keepsQuiet_emit (recording : Recording) (records : List Record) :
    KeepsQuiet (liftM (emit world.host recording records) :
      Command (StateM Transcript) Unit) := by
  apply keepsQuiet_liftM
  intro transcript quiet
  rw [emit_apply]
  exact quiet_note quiet recording records

theorem keepsQuiet_runCycles (recording : Recording) (count : Nat)
    (machine : Machine) :
    KeepsQuiet (liftM (runCycles world.host recording count machine) :
      Command (StateM Transcript) (Machine × Option Fault)) := by
  apply keepsQuiet_liftM
  intro transcript quiet
  rcases runCycles_apply world transcript recording (.start machine) rfl count with
    ⟨records, taken, _, ran⟩
  have ended : (runCycles world.host recording count machine transcript).2 =
      (transcript.note recording records).read taken := congrArg Prod.snd ran
  rw [ended]
  exact quiet_note quiet recording records

theorem keepsQuiet_saveDisplay (display : Display) (path : String)
    (scale : Int) : KeepsQuiet (saveDisplay world.host display path scale) := by
  unfold saveDisplay
  split
  · exact keepsQuiet_throw _
  · refine keepsQuiet_bind (keepsQuiet_liftM fun transcript quiet => ?_) ?_
    · simp only [host]
      split <;> exact quiet
    · intro outcome
      cases outcome with
      | error fault => exact keepsQuiet_throw _
      | ok done =>
          exact keepsQuiet_printLine world fun errors => absurd errors (by decide)

theorem keepsQuiet_saveWanted (settings : CommandLine.RunSettings) (scale : Int)
    (display : Display) :
    KeepsQuiet (saveWanted world.host settings scale display) := by
  unfold saveWanted
  split
  · exact keepsQuiet_saveDisplay world _ _ _
  · exact keepsQuiet_pure ()

theorem keepsQuiet_finishRun (settings : CommandLine.RunSettings) (scale : Int)
    (machine : Machine) (fault : Option Fault) :
    KeepsQuiet (finishRun world.host settings scale machine fault) := by
  have reported : KeepsQuiet (printLines world.host .errors (faultLines fault)) := by
    apply keepsQuiet_printLines world
    rintro - line listed message rfl
    exact failureLine_not_mem_faultLines fault message listed
  have printed : KeepsQuiet
      (printLines world.host .output (runLines settings machine fault)) :=
    keepsQuiet_printLines world fun errors => absurd errors (by decide)
  have saved := keepsQuiet_saveWanted world settings scale machine.display
  exact keepsQuiet_bind reported fun _ => keepsQuiet_bind printed fun _ =>
    keepsQuiet_bind saved fun _ => keepsQuiet_pure _

theorem keepsQuiet_run (rom : String) (settings : CommandLine.RunSettings)
    (variant : Variant) (scale : Int) (recording : Recording) :
    KeepsQuiet (Session.run world.host rom settings variant scale recording) := by
  refine keepsQuiet_bind (keepsQuiet_liftM fun _ quiet => quiet) fun found =>
    keepsQuiet_bind (keepsQuiet_liftM fun _ quiet => quiet) fun timestamp =>
      keepsQuiet_bind (keepsQuiet_liftM fun _ quiet => quiet) fun now => ?_
  simp only
  split
  · exact keepsQuiet_throw _
  · refine keepsQuiet_bind (keepsQuiet_emit world _ _) fun _ => ?_
    split
    · exact keepsQuiet_throw _
    · exact keepsQuiet_bind (keepsQuiet_runCycles world _ _ _) fun _ =>
        keepsQuiet_finishRun world _ _ _ _

theorem keepsQuiet_command (request : CommandLine.Request) :
    KeepsQuiet (world.command request) := by
  cases request with
  | disassemble rom =>
      refine keepsQuiet_bind (keepsQuiet_liftM fun _ quiet => quiet) fun found => ?_
      split
      · exact keepsQuiet_throw _
      · exact keepsQuiet_bind
          (keepsQuiet_printLine world fun errors => absurd errors (by decide))
          fun _ => keepsQuiet_pure 0
  | run rom settings =>
      simp only [command, runVariant]
      split
      · exact keepsQuiet_throw _
      · split
        · exact keepsQuiet_throw _
        · exact keepsQuiet_run world _ _ _ _ _

end Quiet

/-! ## Causes -/

/-- Obtaining the program of a request fails, for a reason with some message: it
cannot be read to be disassembled, or not be loaded to be run.  A variant that
was emptied cannot be loaded either. -/
inductive Unobtained (world : World) : CommandLine.Request → String → Prop where
  | unread {rom : String} {fault : RomFault}
      (unread : (RomSource.file rom).read world.file = .error fault) :
      Unobtained world (.disassemble rom) fault.message
  | unchosen {rom : String} {settings : CommandLine.RunSettings} {scale : Int}
      (scaled : settings.scale = some scale) (unchosen : settings.variant = none) :
      Unobtained world (.run rom settings) (LoadFault.variant (.list [])).message
  | refused {rom : String} {settings : CommandLine.RunSettings} {scale : Int}
      {variant : Variant} {fault : LoadFault}
      (scaled : settings.scale = some scale)
      (chosen : settings.variant = some variant)
      (refused : Machine.load (request rom settings variant)
        world.surroundings = .error fault) :
      Unobtained world (.run rom settings) fault.message

/-- The program of a request is loaded and run, with an image scale. -/
inductive Ran (world : World) (rom : String)
    (settings : CommandLine.RunSettings) : Int → Run → Prop where
  | loaded {variant : Variant} {cycles scale : Int} {step : Step}
      (scaled : settings.scale = some scale)
      (chosen : settings.variant = some variant)
      (success : Machine.load (request rom settings variant)
        world.surroundings = .ok step)
      (counted : settings.cycles = some cycles) :
      Ran world rom settings scale
        (step.machine.run (fun number => world.clock (number + 1)) cycles)

/-- A display cannot be made into an image, or its image not be saved, for a
reason that is reported. -/
inductive ImageFails (world : World) (display : Display) (path : String)
    (scale : Int) : String → Prop where
  | refused {fault : Fault}
      (refused : display.image world.storage scale = .error fault)
      (reported : fault.isReported = true) :
      ImageFails world display path scale fault.message
  | unwritable {image : Image} {fault : FileFault}
      (made : display.image world.storage scale = .ok image)
      (failed : world.saving path image = .error fault) :
      ImageFails world display path scale (fault.openMessage path)

/-- A program is loaded and run, the lines about it are taken, and then its image
fails. -/
inductive Unsaved (world : World) : CommandLine.Request → String → Prop where
  | behind {rom : String} {settings : CommandLine.RunSettings} {scale : Int}
      {run : Run} {path message : String}
      (ran : world.Ran rom settings scale run)
      (heard : world.Hears settings run)
      (wanted : nonEmpty settings.png = some path)
      (fails : world.ImageFails run.machine.display path scale message) :
      Unsaved world (.run rom settings) message

/-- A line about a run is refused: that of its fault, one of those that are printed
before its image, or the one that tells that the image was saved. -/
inductive RunUnheard (world : World) (settings : CommandLine.RunSettings)
    (scale : Int) (run : Run) : OutputFault → Prop where
  | fault {fault : OutputFault}
      (refused : world.refusal? .errors (faultLines run.fault) = some fault) :
      RunUnheard world settings scale run fault
  | account {fault : OutputFault}
      (reported : ∀ line ∈ faultLines run.fault,
        world.printing .errors line = .ok ())
      (refused : world.refusal? .output
        (runLines settings run.machine run.fault) = some fault) :
      RunUnheard world settings scale run fault
  | saved {path : String} {image : Image} {fault : OutputFault}
      (heard : world.Hears settings run)
      (wanted : nonEmpty settings.png = some path)
      (made : run.machine.display.image world.storage scale = .ok image)
      (done : world.saving path image = .ok ())
      (refused : world.printing .output (savedLine path) = .error fault) :
      RunUnheard world settings scale run fault

/-- A program is obtained, and then a line about it is refused: its listing, or a
line about its run. -/
inductive Unheard (world : World) : CommandLine.Request → String → Prop where
  | listing {rom : String} {content : Rom} {fault : OutputFault}
      (read : (RomSource.file rom).read world.file = .ok content)
      (refused : world.printing .output
        (listing (disassemble programStart content.bytes)) = .error fault) :
      Unheard world (.disassemble rom) fault.message
  | behind {rom : String} {settings : CommandLine.RunSettings} {scale : Int}
      {run : Run} {fault : OutputFault}
      (ran : world.Ran rom settings scale run)
      (unheard : world.RunUnheard settings scale run fault) :
      Unheard world (.run rom settings) fault.message

variable {world : World} {message : String}

/-! ## The end of a run -/

section Ends

variable {settings : CommandLine.RunSettings} {scale : Int} {run : Run}
  (told : Transcript) {after : Transcript}

/-- An image that fails interrupts the command that saves it. -/
theorem ImageFails.saveDisplay_fails {display : Display} {path : String}
    (fails : world.ImageFails display path scale message) :
    (saveDisplay world.host display path scale).run told =
      (.error (.failure message), told) := by
  cases fails with
  | refused refused reported =>
      rw [saveDisplay_of_refused world told refused, Interruption.ofImage,
        if_pos reported]
  | unwritable made failed => exact saveDisplay_of_unsaved world told made failed

/-- Before the image, a line that is refused interrupts the end of a run. -/
theorem RunUnheard.finish_fails {fault : OutputFault}
    (unheard : world.RunUnheard settings scale run fault) :
    ((world.finish settings scale run).run told).1 =
      .error (.failure fault.message) := by
  cases unheard with
  | fault refused =>
      rcases printLines_of_refused world told refused with ⟨before, _, stopped⟩
      rw [finish, finishRun, run_bind_of_error stopped]
  | account reported refused =>
      have heard := printLines_of_taken world told reported
      rcases printLines_of_refused world _ refused with ⟨before, _, stopped⟩
      rw [finish, finishRun, run_bind_of_ok heard, run_bind_of_error stopped]
  | saved heard wanted made done refused =>
      rw [finish_of_heard world told heard, saveWanted, wanted,
        run_bind_of_error (saveDisplay_of_unheard world _ made done refused)]

/-- An image that fails interrupts the end of a run. -/
theorem finish_fails_of_imageFails {path : String}
    (heard : world.Hears settings run) (wanted : nonEmpty settings.png = some path)
    (fails : world.ImageFails run.machine.display path scale message) :
    ((world.finish settings scale run).run told).1 =
      .error (.failure message) := by
  rw [finish_of_heard world told heard, saveWanted, wanted,
    run_bind_of_error (fails.saveDisplay_fails _)]

variable {told}

/-- Saving a display fails because of the image, or because of the line that tells
of it. -/
theorem cause_of_saveDisplay {display : Display} {path : String}
    (failed : (saveDisplay world.host display path scale).run told =
      (.error (.failure message), after)) :
    world.ImageFails display path scale message ∨
      ∃ image fault, display.image world.storage scale = .ok image ∧
        world.saving path image = .ok () ∧
        world.printing .output (savedLine path) = .error fault ∧
          message = fault.message := by
  cases made : display.image world.storage scale with
  | error fault =>
      rw [saveDisplay_of_refused world told made, Interruption.ofImage] at failed
      split at failed
      · rename_i reported
        cases failed
        exact Or.inl (.refused made reported)
      · cases failed
  | ok image =>
  cases saved : world.saving path image with
  | error fault =>
      rw [saveDisplay_of_unsaved world told made saved] at failed
      cases failed
      exact Or.inl (.unwritable made saved)
  | ok done =>
  cases noticed : world.printing .output (savedLine path) with
  | error fault =>
      rw [saveDisplay_of_unheard world told made saved noticed] at failed
      cases failed
      exact Or.inr ⟨image, fault, rfl, saved, rfl, rfl⟩
  | ok taken =>
      rw [saveDisplay_of_taken world told made saved noticed] at failed
      cases failed

/-- The end of a run is interrupted by a failure for no other reason. -/
theorem cause_of_finish (failed : ((world.finish settings scale run).run told).1 =
      .error (.failure message)) :
    (∃ path, world.Hears settings run ∧ nonEmpty settings.png = some path ∧
        world.ImageFails run.machine.display path scale message) ∨
      ∃ fault, world.RunUnheard settings scale run fault ∧
        message = fault.message := by
  have blamed {fault : OutputFault}
      (unheard : world.RunUnheard settings scale run fault) :
      ∃ fault, world.RunUnheard settings scale run fault ∧
        message = fault.message := by
    rw [unheard.finish_fails told] at failed
    cases failed
    exact ⟨fault, unheard, rfl⟩
  cases reported : world.refusal? .errors (faultLines run.fault) with
  | some fault => exact Or.inr (blamed (.fault reported))
  | none =>
  have faultTaken := (refusal?_eq_none_iff world).mp reported
  cases printed : world.refusal? .output
      (runLines settings run.machine run.fault) with
  | some fault => exact Or.inr (blamed (.account faultTaken printed))
  | none =>
  have heard : world.Hears settings run :=
    ⟨faultTaken, (refusal?_eq_none_iff world).mp printed⟩
  rw [finish_of_heard world told heard, saveWanted] at failed
  cases wanted : nonEmpty settings.png with
  | none =>
      rw [wanted] at failed
      cases failed
  | some path =>
  rw [wanted] at failed
  rcases ended : (saveDisplay world.host run.machine.display path scale).run
    (told.tell settings run) with ⟨outcome, after⟩
  cases outcome with
  | ok done =>
      rw [run_bind_of_ok ended] at failed
      cases failed
  | error reason =>
      rw [run_bind_of_error ended] at failed
      cases failed
      rcases cause_of_saveDisplay ended with
        fails | ⟨image, fault, made, saved, refused, rfl⟩
      · exact Or.inl ⟨path, heard, rfl, fails⟩
      · exact Or.inr ⟨fault, .saved heard wanted made saved refused, rfl⟩

end Ends

/-! ## Whole commands -/

section Commands

variable {request : CommandLine.Request}

/-- Without a program, a command fails and does nothing else. -/
theorem Unobtained.command_fails (fails : world.Unobtained request message) :
    ∃ taken ≤ 1, (world.command request).run {} =
      (.error (.failure message), Transcript.read {} taken) := by
  cases fails with
  | unread unread =>
      refine ⟨0, Nat.zero_le 1, (disassembleRom_apply world {} _).trans ?_⟩
      rw [unread]
      rfl
  | unchosen scaled unchosen =>
      refine ⟨0, Nat.zero_le 1, ?_⟩
      simp only [command, scaled, runVariant, unchosen]
      rfl
  | refused scaled chosen refused =>
      refine ⟨1, Nat.le_refl 1, ?_⟩
      simp only [command, scaled, runVariant, chosen]
      exact run_of_refused world refused

/-- A command that has run a program ends as the run is finished. -/
theorem Ran.command_run {rom : String} {settings : CommandLine.RunSettings}
    {scale : Int} {run : Run} (ran : world.Ran rom settings scale run) :
    ∃ told, (world.command (.run rom settings)).run {} =
      (world.finish settings scale run).run told := by
  cases ran with
  | loaded scaled chosen success counted =>
      rcases world.command_of_loaded scaled chosen success counted with
        ⟨told, _, same, _⟩
      exact ⟨told, same⟩

theorem Unsaved.command_fails (fails : world.Unsaved request message) :
    ((world.command request).run {}).1 = .error (.failure message) := by
  cases fails with
  | behind ran heard wanted fails =>
      rcases ran.command_run with ⟨told, same⟩
      rw [same]
      exact finish_fails_of_imageFails told heard wanted fails

theorem Unheard.command_fails (fails : world.Unheard request message) :
    ((world.command request).run {}).1 = .error (.failure message) := by
  cases fails with
  | listing read refused =>
      rw [command, disassembleRom_apply, read,
        run_bind_of_error (printLine_of_refused world _ refused)]
  | behind ran unheard =>
      rcases ran.command_run with ⟨told, same⟩
      rw [same]
      exact unheard.finish_fails told

/-- A command fails for no other reason. -/
theorem cause_of_failure
    (failed : ((world.command request).run {}).1 = .error (.failure message)) :
    world.Unobtained request message ∨ world.Unsaved request message ∨
      world.Unheard request message := by
  cases request with
  | disassemble rom =>
      rw [command, disassembleRom_apply] at failed
      cases read : (RomSource.file rom).read world.file with
      | error fault =>
          rw [read] at failed
          rw [← Interruption.failure.inj (Except.error.inj failed)]
          exact Or.inl (.unread read)
      | ok content =>
          rw [read] at failed
          cases printed : world.printing .output
              (listing (disassemble programStart content.bytes)) with
          | error fault =>
              rw [run_bind_of_error (printLine_of_refused world _ printed)] at failed
              rw [← Interruption.failure.inj (Except.error.inj failed)]
              exact Or.inr (Or.inr (.listing read printed))
          | ok taken =>
              rw [run_bind_of_ok (printLine_of_taken world _ printed)] at failed
              cases failed
  | run rom settings =>
      cases scaled : settings.scale with
      | none =>
          simp only [command, scaled] at failed
          cases failed
      | some scale =>
      cases chosen : settings.variant with
      | none =>
          simp only [command, scaled, runVariant, chosen] at failed
          rw [← Interruption.failure.inj (Except.error.inj failed)]
          exact Or.inl (.unchosen scaled chosen)
      | some variant =>
      cases success : Machine.load (World.request rom settings variant)
          world.surroundings with
      | error fault =>
          simp only [command, scaled, runVariant, chosen] at failed
          rw [run_of_refused world success] at failed
          rw [← Interruption.failure.inj (Except.error.inj failed)]
          exact Or.inl (.refused scaled chosen success)
      | ok loaded =>
      cases counted : settings.cycles with
      | none =>
          simp only [command, scaled, runVariant, chosen] at failed
          rw [run_of_uncounted world success counted] at failed
          cases failed
      | some cycles =>
          have ran : world.Ran rom settings scale _ :=
            .loaded scaled chosen success counted
          rcases ran.command_run with ⟨told, same⟩
          rw [same] at failed
          rcases cause_of_finish failed with
            ⟨path, heard, wanted, fails⟩ | ⟨fault, unheard, rfl⟩
          · exact Or.inr (Or.inl (.behind ran heard wanted fails))
          · exact Or.inr (Or.inr (.behind ran unheard))

end Commands

/-! ## Whole sessions -/

/-- A session reports the line of a failure exactly if its command fails and the
line is taken.  No command reports such a line itself. -/
theorem blamed_iff_failed {words : List String} {request : CommandLine.Request}
    (parsed : CommandLine.request words = .ok request)
    (opens : ∀ rom settings, request = .run rom settings → world.Opens settings) :
    failureLine message ∈ (world.session words).2.reported ↔
      ((world.command request).run {}).1 = .error (.failure message) ∧
        world.printing .errors (failureLine message) = .ok () := by
  have quiet := keepsQuiet_command world request {} fun _ => List.not_mem_nil
  rw [session_of_parsed world parsed opens]
  rcases ended : (world.command request).run {} with ⟨outcome, after⟩
  rw [ended] at quiet
  cases outcome with
  | ok code =>
      rw [conclude_of_ok world ended]
      exact iff_of_false (quiet message) fun failed => absurd failed.1 (by simp)
  | error reason =>
      cases reason with
      | breakdown reason =>
          rw [conclude_of_breakdown world ended]
          exact iff_of_false (quiet message) fun failed => absurd failed.1 (by simp)
      | failure reason =>
          have same : Except.error (Interruption.failure reason) =
              (Except.error (.failure message) : Except Interruption Nat) ↔
                reason = message := by
            simp
          rw [conclude_of_failure world ended, same]
          cases printed : world.printing .errors (failureLine reason) with
          | error fault =>
              refine iff_of_false (quiet message) ?_
              rintro ⟨rfl, taken⟩
              rw [printed] at taken
              contradiction
          | ok taken =>
              rw [Transcript.report, List.mem_append,
                or_iff_right (quiet message), failureLine_mem_singleton]
              constructor
              · rintro rfl
                exact ⟨rfl, printed⟩
              · rintro ⟨rfl, _⟩
                rfl

/-- What the line of a failure tells.  A session reports it exactly if the line is
taken and its program could not be obtained, or a program was loaded and run and its
image could not be made or saved, or a program was obtained and a line about it was
refused.  Without a program, the line is all that there is: nothing was printed,
traced or saved, and no cycle was made, which would have taken a second reading of
the clock. -/
theorem failure_blamed_iff {world : World} {words : List String}
    {request : CommandLine.Request}
    (parsed : CommandLine.request words = .ok request)
    (opens : ∀ rom settings, request = .run rom settings → world.Opens settings) :
    let ending := (world.session words).1
    let transcript := (world.session words).2
    (∀ message, failureLine message ∈ transcript.reported ↔
      (world.Unobtained request message ∨ world.Unsaved request message ∨
          world.Unheard request message) ∧
        world.printing .errors (failureLine message) = .ok ()) ∧
    (∀ message, world.Unobtained request message →
      transcript.printed = [] ∧ transcript.traced = [] ∧ transcript.saved = [] ∧
        transcript.readings ≤ 1 ∧
      (world.printing .errors (failureLine message) = .ok () →
        ending = .status 1 ∧ transcript.reported = [failureLine message]) ∧
      ∀ fault, world.printing .errors (failureLine message) = .error fault →
        ending = .broken (.output fault) ∧ transcript.reported = []) := by
  intro ending transcript
  refine ⟨fun message => ?_, fun message fails => ?_⟩
  · rw [blamed_iff_failed parsed opens]
    refine and_congr_left fun _ => ⟨cause_of_failure, ?_⟩
    rintro (unobtained | unsaved | unheard)
    · rcases unobtained.command_fails with ⟨taken, _, alone⟩
      rw [alone]
    · exact unsaved.command_fails
    · exact unheard.command_fails
  · rcases fails.command_fails with ⟨taken, few, alone⟩
    have few_readings : 0 + taken ≤ 1 := by omega
    have concluded := (session_of_parsed world parsed opens).trans
      (conclude_of_failure world alone)
    cases reported : world.printing .errors (failureLine message) with
    | ok done =>
        have ended : world.session words =
            (.status 1, (Transcript.read {} taken).report [failureLine message]) := by
          rw [concluded, reported]
        have status : ending = .status 1 := congrArg Prod.fst ended
        have rest : transcript = _ := congrArg Prod.snd ended
        rw [rest]
        refine ⟨rfl, rfl, rfl, few_readings, fun _ => ⟨status, rfl⟩, ?_⟩
        intro fault refused
        contradiction
    | error fault =>
        have ended : world.session words =
            (.broken (.output fault), Transcript.read {} taken) := by
          rw [concluded, reported]
        have broken : ending = .broken (.output fault) := congrArg Prod.fst ended
        have rest : transcript = _ := congrArg Prod.snd ended
        rw [rest]
        refine ⟨rfl, rfl, rfl, few_readings, ?_, ?_⟩
        · intro taken
          contradiction
        · rintro _ ⟨⟩
          exact ⟨broken, rfl⟩

/-- A program that is not there is blamed, and nothing else happens. -/
theorem missing_program_blamed :
    let outcome := sample.session ["run", "b"]
    outcome.1 = .status 1 ∧
      outcome.2.reported =
        [failureLine "[Errno 2] Cannot read ROM b: No such file or directory"] ∧
      outcome.2.printed = [] := by
  have parsed : CommandLine.request ["run", "b"] = .ok (.run "b" {}) := by
    decide +kernel
  have opens : ∀ rom settings, CommandLine.Request.run "b" {} = .run rom settings →
      sample.Opens settings := by
    rintro _ _ ⟨⟩ path wanted
    exact absurd wanted (by simp [nonEmpty])
  have refused : Machine.load (request "b" {} .chipEight) sample.surroundings =
      .error (.rom (.unreadable "b" .missing)) := rfl
  rcases (failure_blamed_iff parsed opens).2 _ (.refused rfl rfl refused) with
    ⟨printed, _, _, _, told, _⟩
  rcases told rfl with ⟨status, reported⟩
  exact ⟨status, reported, printed⟩

/-- The same world, but without a folder for an image. -/
def folderless : World :=
  { sample with saving := fun _ _ => .error .missing }

/-- A program that is there is blamed as well, because its image has no folder, or
because there is no room left for what is printed. -/
theorem loaded_program_blamed :
    let words := ["run", "a", "--cycles", "0", "--png", "b/c"]
    let settings : CommandLine.RunSettings :=
      { cycles := some 0, png := some "b/c" }
    CommandLine.request words = .ok (.run "a" settings) ∧
      (∃ loaded, Machine.load (request "a" settings .chipEight)
        folderless.surroundings = .ok loaded) ∧
      (∀ message, ¬ folderless.Unobtained (.run "a" settings) message) ∧
      failureLine "[Errno 2] No such file or directory: 'b/c'" ∈
        (folderless.session words).2.reported ∧
      failureLine "[Errno 28] No space left on device" ∈
        (mute.session ["run", "a", "--cycles", "0", "--show"]).2.reported := by
  intro words settings
  have found : (request "a" settings .chipEight).source.read folderless.file =
      .ok clearer := rfl
  have success : Machine.load (request "a" settings .chipEight)
      folderless.surroundings =
        .ok (Machine.bootStep clearer .chipEight (request "a" settings .chipEight)
          folderless.surroundings) :=
    Machine.load_of_sound found rfl (fun _ overridden => nomatch overridden)
      (by decide)
  refine ⟨by decide +kernel, ⟨_, success⟩, ?_, by decide +kernel,
    by decide +kernel⟩
  intro message fails
  cases fails with
  | unchosen _ unchosen => exact absurd unchosen (Option.some_ne_none _)
  | refused _ chosen refused =>
      rw [← Option.some.inj chosen, success] at refused
      contradiction

end World

end ChipEight
