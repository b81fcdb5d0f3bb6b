import ChipEight.Proofs.Exports
import ChipEight.Proofs.Loading
import ChipEight.Proofs.Transcripts

namespace ChipEight

/-!
# What a session tells of a run

A session that runs a program reports on the run that the library makes of the
same program, with the same variant, seed and clock.  The exit status tells
whether a cycle failed, the summary is about the state that the last cycle left,
also if that one failed, and the only faults are those of programs.

All of this holds of a session whose lines are taken and whose image, if there is to
be one, can be made and saved.  An image for which the system grants no storage ends
the session without a status, after everything else was told, and a line that is
refused turns the status of a faultless run into 1.
-/

/-! ## The lines of a session -/

/-- The lines that tell of a run: how it ended, where, and what it counted. -/
def Run.account (run : Run) : List String :=
  let machine := run.machine
  [ if run.fault = none then "Execution completed!" else "Execution stopped.",
    "Program counter: 0x" ++ Text.hex 3 machine.pc,
    "CHIP-8 Emulator Statistics:",
    "------------------------------",
    "instructions_executed    : " ++ toString machine.tally.instructions,
    "display_clears           : " ++ toString machine.tally.clears,
    "display_writes           : " ++ toString machine.tally.drawings,
    "sprite_collisions        : " ++ toString machine.tally.collisions,
    "subroutine_calls         : " ++ toString machine.tally.calls,
    "returns                  : " ++ toString machine.tally.returns,
    "jumps_taken              : " ++ toString machine.tally.jumps,
    "key_waits                : " ++ toString machine.tally.keyWaits,
    "timer_ticks              : " ++ toString machine.tally.timerTicks ]

namespace Session

/-- The column of the names is wide enough for every name. -/
theorem counterLine_of_padded (name title : String)
    (padded : Text.column 25 name ++ ": " = title) (count : Nat) :
    counterLine (name, count) = title ++ toString count := by
  rw [counterLine, padded]

theorem summary_eq_account (run : Run) :
    summary run.machine run.fault = run.account := by
  have rule : String.ofList (Text.fill 30 '-') =
      "------------------------------" := rfl
  simp only [summary, Run.account, Tally.entries, List.map_cons, List.map_nil,
    List.cons_append, List.nil_append, Option.isNone_iff_eq_none, rule,
    counterLine_of_padded "instructions_executed"
      "instructions_executed    : " rfl,
    counterLine_of_padded "display_clears"
      "display_clears           : " rfl,
    counterLine_of_padded "display_writes"
      "display_writes           : " rfl,
    counterLine_of_padded "sprite_collisions"
      "sprite_collisions        : " rfl,
    counterLine_of_padded "subroutine_calls"
      "subroutine_calls         : " rfl,
    counterLine_of_padded "returns"
      "returns                  : " rfl,
    counterLine_of_padded "jumps_taken"
      "jumps_taken              : " rfl,
    counterLine_of_padded "key_waits"
      "key_waits                : " rfl,
    counterLine_of_padded "timer_ticks"
      "timer_ticks              : " rfl]

/-- A record as a line starts with the name of its level. -/
theorem recordLine_start (record : Record) :
    (recordLine record).toList.take 2 = record.level.name.toList.take 2 := by
  simp only [recordLine, String.toList_append]
  cases record.level <;> rfl

/-- A line that does not go on in capitals is not that of a record, which starts
with the name of its level. -/
theorem not_mem_recordLines {line : String} {second : Char}
    (start : line.toList.take 2 = ['E', second]) (small : second ≠ 'R')
    (records : List Record) : line ∉ records.map recordLine := by
  intro present
  rcases List.mem_map.mp present with ⟨record, _, rfl⟩
  rw [recordLine_start] at start
  cases level : record.level <;> rw [level] at start
  case error => exact small (List.cons.inj (List.cons.inj start).2).1.symm
  all_goals exact absurd (List.cons.inj start).1 (by decide)

/-- Behind lines of records, the line of a fault is that of the fault. -/
theorem faultLine_mem_iff {records : List Record} {fault : Option Fault}
    {message : String} :
    "Emulator error: " ++ message ∈ records.map recordLine ++ faultLines fault ↔
      ∃ reason, fault = some reason ∧ message = reason.message := by
  have start : ("Emulator error: " ++ message).toList.take 2 = ['E', 'm'] := by
    rw [String.toList_append]
    rfl
  rw [List.mem_append,
    or_iff_right (not_mem_recordLines start (by decide) records)]
  cases fault with
  | none => simp [faultLines]
  | some reason => simp [faultLines, String.append_right_inj]

end Session

namespace World

open Session

variable (world : World)

/-- A world takes the lines about a run: that of its fault, and those that are
printed before its image. -/
structure Hears (settings : CommandLine.RunSettings) (run : Run) : Prop where
  reported : ∀ line ∈ faultLines run.fault,
    world.printing .errors line = .ok ()
  printed : ∀ line ∈ runLines settings run.machine run.fault,
    world.printing .output line = .ok ()

/-- A world takes what a session has to say of a run: the lines about it, and its
image, if there is to be one, with the line that tells of it. -/
structure Takes (settings : CommandLine.RunSettings) (scale : Int)
    (run : Run) : Prop extends world.Hears settings run where
  saved : ∀ path, nonEmpty settings.png = some path →
    ∃ image, run.machine.display.image world.storage scale = .ok image ∧
      world.saving path image = .ok () ∧
        world.printing .output (savedLine path) = .ok ()

/-- Before the image, a session tells of the run if the lines are taken. -/
theorem finish_of_heard {settings : CommandLine.RunSettings} {scale : Int}
    {run : Run} (told : Transcript) (heard : world.Hears settings run) :
    (world.finish settings scale run).run told =
      (do
        saveWanted world.host settings scale run.machine.display
        pure (runStatus run) : Command (StateM Transcript) Nat).run
        (told.tell settings run) := by
  rw [finish, finishRun,
    run_bind_of_ok (printLines_of_taken world told heard.reported),
    run_bind_of_ok (printLines_of_taken world _ heard.printed)]
  rfl

/-- A session whose lines and image are taken ends with the status of the run. -/
theorem finish_of_taken {settings : CommandLine.RunSettings} {scale : Int}
    {run : Run} (told : Transcript) (takes : world.Takes settings scale run) :
    ∃ finished,
      (world.finish settings scale run).run told =
        (.ok (runStatus run), finished) ∧
      finished.reported = told.reported ++ faultLines run.fault ∧
      finished.printed = told.printed ++
        (runLines settings run.machine run.fault ++
          (nonEmpty settings.png).toList.map savedLine) ∧
      (∀ path, nonEmpty settings.png = some path →
        ∃ image, run.machine.display.image world.storage scale = .ok image ∧
          finished.saved = told.saved ++ [(path, image)]) ∧
      (nonEmpty settings.png = none → finished.saved = told.saved) := by
  rw [finish_of_heard world told takes.toHears]
  cases wanted : nonEmpty settings.png with
  | none =>
      refine ⟨told.tell settings run, ?_, rfl, ?_, ?_, fun _ => rfl⟩
      · rw [saveWanted, wanted]
        rfl
      · simp [Transcript.tell, Transcript.print, Transcript.report]
      · intro path absent
        contradiction
  | some path =>
      rcases takes.saved path wanted with ⟨image, made, done, noticed⟩
      have saved := saveDisplay_of_taken world (told.tell settings run) made done
        noticed
      refine ⟨((told.tell settings run).save path image).print [savedLine path], ?_,
        rfl, ?_, ?_, ?_⟩
      · rw [saveWanted, wanted, run_bind_of_ok saved]
        rfl
      · simp [Transcript.tell, Transcript.print, Transcript.report,
          Transcript.save]
      · rintro _ ⟨⟩
        exact ⟨image, made, rfl⟩
      · intro absent
        contradiction

/-- A session that has loaded a program notes the records of the library's run, and
then finishes it. -/
theorem command_of_loaded {rom : String} {settings : CommandLine.RunSettings}
    {variant : Variant} {cycles scale : Int} {loaded : Step}
    (scaled : settings.scale = some scale)
    (chosen : settings.variant = some variant)
    (success : Machine.load (request rom settings variant) world.surroundings =
      .ok loaded)
    (counted : settings.cycles = some cycles) :
    let run := loaded.machine.run (fun number => world.clock (number + 1)) cycles
    ∃ (told : Transcript) (records : List Record),
      (world.command (.run rom settings)).run {} =
          (world.finish settings scale run).run told ∧
        told.reported = records.map recordLine ∧ told.printed = [] ∧
          told.saved = [] := by
  intro run
  rcases run_of_loaded world scale (.ofSettings settings) success counted with
    ⟨taken, ran⟩
  let records := loaded.records ++ run.records.toList
  refine ⟨(Transcript.note {} (.ofSettings settings) records).read taken,
    records.filter (Recording.ofSettings settings).reports, ?_,
    List.nil_append _, rfl, rfl⟩
  simp only [command, scaled, runVariant, chosen]
  exact ran

/-- A session that runs a program agrees with the library.

The machine is loaded from the same bytes, with the same variant, seed and time,
and its cycles take the readings of the same clock.  If what there is to say of the
library's run is taken, the session ends with status 0 if no cycle fails and with
status 1 otherwise, and does not break off.  It prints the account of that run, the
display if that was asked for, and saves its image.  The counter of the instructions
is the number of cycles that were asked for, or else of those before the one that
failed.  The line of a fault is reported exactly if a cycle failed with that fault,
which is always one of a program. -/
theorem session_agrees_with_library {words : List String} {rom : String}
    {settings : CommandLine.RunSettings} {variant : Variant}
    {cycles scale : Int} {bytes : List UInt8}
    (parsed : CommandLine.request words = .ok (.run rom settings))
    (chosen : settings.variant = some variant)
    (counted : settings.cycles = some cycles)
    (scaled : settings.scale = some scale)
    (untraced : nonEmpty settings.debugFile = none)
    (found : world.file rom = .ok bytes)
    (fits : 1 ≤ bytes.length ∧ bytes.length ≤ 3584)
    (natural : 0 ≤ settings.seed.getD world.timestamp) :
    ∃ loaded,
      Machine.load ⟨.bytes bytes, .text variant.label, [], settings.seed⟩
        world.surroundings = .ok loaded ∧
      let readings := fun number => world.clock (number + 1)
      let run := loaded.machine.run readings cycles
      let ending := (world.session words).1
      let transcript := (world.session words).2
      (world.Takes settings scale run →
        ending = .status (if run.fault = none then 0 else 1) ∧
        transcript.printed =
          run.account ++
            (if settings.showDisplay then
              ["\nDisplay output:", run.machine.display.text "██" "  "] else []) ++
            (nonEmpty settings.png).toList.map ("Display saved to: " ++ ·) ∧
        (∀ path, nonEmpty settings.png = some path →
          ∃ image, run.machine.display.image world.storage scale = .ok image ∧
            transcript.saved = [(path, image)]) ∧
        (nonEmpty settings.png = none → transcript.saved = []) ∧
        (∀ message, "Emulator error: " ++ message ∈ transcript.reported ↔
          ∃ fault, run.fault = some fault ∧ message = fault.message)) ∧
      (∃ completed,
        loaded.machine.EndsAfter readings cycles.toNat run completed ∧
          run.machine.tally.instructions = completed) ∧
      (run.fault = none →
        (run.machine.tally.instructions : Int) = max cycles 0) ∧
      ∀ fault, run.fault = some fault → fault.stopsPrograms = true := by
  rcases Rom.ofBytes_of_fitting fits with ⟨content, accepted, _⟩
  let asked : LoadRequest :=
    ⟨.bytes bytes, .text variant.label, [], settings.seed⟩
  let loaded := Machine.bootStep content variant asked world.surroundings
  have known : asked.KnowsSwitches := fun name overridden => nomatch overridden
  have library : Machine.load asked world.surroundings = .ok loaded :=
    Machine.load_of_sound ((RomSource.StandsFor.bytes).read.trans accepted) rfl
      known natural
  have session : Machine.load (request rom settings variant) world.surroundings =
      .ok loaded :=
    Machine.load_of_sound ((RomSource.StandsFor.file found).read.trans accepted)
      rfl known natural
  refine ⟨loaded, library, ?_⟩
  intro readings run ending transcript
  have reachable : Machine.Reachable loaded.machine :=
    Machine.Loaded.reachable ⟨asked, world.surroundings, loaded, library, rfl⟩
  have uncounted : loaded.machine.tally.instructions = 0 := rfl
  rcases loaded.machine.run_endsAfter readings cycles with ⟨completed, ends⟩
  have instructions := ends.instructions
  rw [uncounted, Nat.zero_add] at instructions
  refine ⟨?_, ⟨completed, ends, instructions⟩, ?_, ?_⟩
  · intro takes
    have opens : ∀ other chosenSettings,
        CommandLine.Request.run rom settings = .run other chosenSettings →
          world.Opens chosenSettings := by
      rintro _ _ ⟨⟩ path wanted
      rw [untraced] at wanted
      contradiction
    rcases world.command_of_loaded scaled chosen session counted with
      ⟨told, records, told_of_run, reported, unprinted, unsaved⟩
    rcases world.finish_of_taken told takes with
      ⟨finished, closed, report, lines, image, noImage⟩
    have whole : world.session words = (.status (runStatus run), finished) :=
      (session_of_parsed world parsed opens).trans
        (conclude_of_ok world (told_of_run.trans closed))
    simp only [ending, transcript, whole]
    refine ⟨?_, ?_, ?_, ?_, ?_⟩
    · simp only [runStatus, Option.isNone_iff_eq_none]
    · rw [lines, unprinted, runLines, summary_eq_account]
      rfl
    · intro path wanted
      rcases image path wanted with ⟨picture, made, saved⟩
      rw [unsaved] at saved
      exact ⟨picture, made, saved⟩
    · intro unwanted
      rw [noImage unwanted, unsaved]
    · intro message
      rw [report, reported]
      exact faultLine_mem_iff
  · intro faultless
    rw [instructions, ends.all_of_faultless faultless]
    exact Int.toNat_eq_max cycles
  · exact fun fault failed => ends.stopsPrograms reachable failed

/-- A program that clears the display and returns from nowhere. -/
def clearer : Rom where
  bytes := [0x00, 0xE0, 0x00, 0xEE]
  nonempty := by decide
  fits := by decide

/-- A world that holds that program, where all lines are taken, images for which a
binary megabyte is enough can be made and saved, and no time passes. -/
def sample : World where
  storage := .upTo 0x100000
  folder := "/"
  file := fun path => if path = "a" then .ok clearer.bytes else .error .missing
  tracing := fun _ => .error .missing
  saving := fun _ _ => .ok ()
  clock := fun _ => 0
  timestamp := 0
  printing := fun _ _ => .ok ()

/-- The second of three cycles fails, and the image is saved all the same. -/
theorem clearer_session :
    let outcome := sample.session
      ["run", "a", "--cycles", "3", "--seed", "7", "--show", "--png", "o.png",
        "--scale", "1"]
    outcome.1 = .status 1 ∧
      "Emulator error: Return with empty stack" ∈ outcome.2.reported ∧
        outcome.2.saved.length = 1 := by
  have parsed : CommandLine.request
      ["run", "a", "--cycles", "3", "--seed", "7", "--show", "--png", "o.png",
        "--scale", "1"] =
      .ok (.run "a"
        { cycles := some 3, seed := some 7, showDisplay := true,
          png := some "o.png", scale := some 1 }) := by
    decide +kernel
  have found : sample.file "a" = .ok clearer.bytes := rfl
  rcases sample.session_agrees_with_library parsed rfl rfl rfl rfl found
    (by decide) (by decide) with ⟨loaded, library, told, _⟩
  have granted : sample.storage.Grants 1 :=
    Storage.upTo_grants (by decide) (by decide)
  have possible (display : Display) :
      ∃ image, display.image sample.storage 1 = .ok image :=
    display.exists_image_iff.mpr ⟨by decide, by decide, granted⟩
  have takes : sample.Takes
      { cycles := some 3, seed := some 7, showDisplay := true,
        png := some "o.png", scale := some 1 } 1
      (loaded.machine.run (fun number => sample.clock (number + 1)) 3) := by
    refine ⟨⟨fun _ _ => rfl, fun _ _ => rfl⟩, fun path _ => ?_⟩
    rcases possible _ with ⟨image, made⟩
    exact ⟨image, made, rfl, rfl⟩
  rcases told takes with ⟨status, _, saved, _, faults⟩
  rcases Machine.load_of_known clearer .chipEight Behaviour.unknownSwitches_nil 7
    sample.surroundings with ⟨step, success, booted⟩
  have start : loaded.machine = step.machine :=
    congrArg Step.machine (Except.ok.inj (library.symm.trans success))
  have failed : (loaded.machine.run (fun number => sample.clock (number + 1))
      3).fault = some .stackEmpty := by
    rw [start, booted]
    decide +kernel
  rw [failed] at status
  refine ⟨status, (faults _).mpr ⟨.stackEmpty, failed, rfl⟩, ?_⟩
  rcases saved "o.png" rfl with ⟨image, _, only⟩
  rw [only]
  rfl

/-- The same world, but with no room left for what is printed. -/
def mute : World :=
  { sample with
    printing := fun outlet _ =>
      match outlet with
      | .output => .error ⟨"[Errno 28] No space left on device"⟩
      | .errors => .ok () }

/-- The session breaks off if an image cannot be made, here because its scale does
not even fit in a word, although the program and the path of the image are in order
and no cycle is made.  Without an image, and without a cycle that fails, its status
is 1 all the same if what it prints is refused. -/
theorem enormous_scale_breaks_off :
    let plain := ["run", "a", "--cycles", "0"]
    let words := plain ++ ["--png", "o.png", "--scale", "9223372036854775808"]
    CommandLine.request words =
        .ok (.run "a"
          { cycles := some 0, png := some "o.png",
            scale := some 9223372036854775808 }) ∧
      CommandLine.request plain = .ok (.run "a" { cycles := some 0 }) ∧
      sample.file "a" = .ok clearer.bytes ∧
      (∀ image, sample.saving "o.png" image = .ok ()) ∧
      (sample.session words).1 =
        .broken (.image (.tooWide 9223372036854775808)) ∧
      (sample.session plain).1 = .status 0 ∧
      (mute.session plain).1 = .status 1 := by
  exact ⟨by decide +kernel, by decide +kernel, rfl, fun _ => rfl,
    by decide +kernel, by decide +kernel, by decide +kernel⟩

end World

end ChipEight
