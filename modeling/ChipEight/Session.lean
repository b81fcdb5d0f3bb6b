import ChipEight.CommandLine.Request
import ChipEight.Disassembly
import ChipEight.Files.Path
import ChipEight.Machine.Load

namespace ChipEight

/-!
# Sessions

A session answers one command line.  Everything that it needs from outside is
asked of a host: files, the clock, the time, room for arrays, and lines of output.
The session itself decides what is asked for, in which order, and what is
reported, so it can be run on a folder in memory as well as on the real system.

A command may be interrupted at any of its questions.  Whatever interrupts it is
handled in one place, behind all of it, and reported in the same words.
-/

/-- Where a line is printed: to the output, or to the report of errors. -/
inductive Outlet where
  | output
  | errors
  deriving DecidableEq, Repr

/-- Why a line is refused by what it is printed to. -/
structure OutputFault where
  message : String
  deriving DecidableEq, Repr

/-- What a session needs from outside. -/
structure Host (m : Type → Type) where
  /-- What is granted to arrays. -/
  storage : Storage
  /-- The path of the folder that relative paths start from. -/
  workingFolder : m String
  /-- Read a whole file. -/
  readFile : String → m (Except FileFault (List UInt8))
  /-- Start an empty trace file, or empty the one that is there. -/
  openTrace : String → m (Except FileFault Unit)
  /-- Add a line to the trace file. -/
  trace : String → m Unit
  /-- Write an image file. -/
  saveImage : String → Image → m (Except FileFault Unit)
  /-- Read the clock, in seconds. -/
  clock : m Float
  /-- The time in nanoseconds. -/
  timestamp : m Int
  /-- Print a line. -/
  print : Outlet → String → m (Except OutputFault Unit)
  /-- Add the line of a record to the report of errors.  Nothing depends on whether
  it is taken. -/
  log : String → m Unit

/-- Why a session breaks off: the number of cycles or the scale was emptied, the
path of the trace file contains a zero character, an image was refused for a
reason that no report covers, or the line that reports a failure was refused. -/
inductive Breakdown where
  | noCycles
  | noScale
  | tracePath
  | image (fault : Fault)
  | output (fault : OutputFault)
  deriving DecidableEq, Repr

/-- The text that says why a session broke off. -/
def Breakdown.message : Breakdown → String
  | .noCycles => "'list' object cannot be interpreted as an integer"
  | .noScale => "'<' not supported between instances of 'list' and 'int'"
  | .tracePath => FileFault.zeroInPathMessage
  | .image fault => fault.message
  | .output fault => fault.message

/-- How a session ends: with a status, or without one because it breaks off. -/
inductive Ending where
  | status (code : Nat)
  | broken (reason : Breakdown)
  deriving DecidableEq, Repr

/-- The refusal of an image is reported.  That of a scale which is too wide, or of
storage, is not. -/
def Fault.isReported : Fault → Bool
  | .tooWide _ | .noStorage _ _ | .overrun | .noFrame _ _ => false
  | _ => true

/-- What interrupts a command: a failure, which is reported, or a reason to break
off. -/
inductive Interruption where
  | failure (message : String)
  | breakdown (reason : Breakdown)
  deriving DecidableEq, Repr

/-- How the refusal of an image interrupts a command. -/
def Interruption.ofImage (fault : Fault) : Interruption :=
  if fault.isReported then .failure fault.message
  else .breakdown (.image fault)

namespace Session

variable {m : Type → Type} [Monad m]

/-- What a session does for a request, unless it is interrupted. -/
abbrev Command (m : Type → Type) : Type → Type :=
  ExceptT Interruption m

/-- Where records go.  Errors are always reported. -/
structure Recording where
  everything : Bool
  traced : Bool
  deriving DecidableEq, Repr

/-- A record as a line of a report. -/
def recordLine (record : Record) : String :=
  record.level.name ++ " chip8vm.chip8: " ++ record.message

/-- Pass records on, each to the trace file and to the report. -/
def emit (host : Host m) (recording : Recording) : List Record → m Unit
  | [] => pure ()
  | record :: rest => do
      if recording.everything ∨ record.level = .error then
        host.log (recordLine record)
      if recording.traced then
        host.trace (recordLine record)
      emit host recording rest

/-- Run a machine for a number of cycles, or until one fails, and pass its
records on. -/
def runCycles (host : Host m) (recording : Recording) :
    Nat → Machine → m (Machine × Option Fault)
  | 0, machine => pure (machine, none)
  | count + 1, machine => do
      let now ← host.clock
      let step := machine.cycle now
      emit host recording step.records
      match step.fault with
      | some fault => pure (step.machine, some fault)
      | none => runCycles host recording count step.machine

/-- Print a line.  Its refusal is a failure of the command. -/
def printLine (host : Host m) (outlet : Outlet) (line : String) :
    Command m Unit := do
  match ← host.print outlet line with
  | .ok () => pure ()
  | .error fault => throw (.failure fault.message)

/-- Print lines up to the first one that is refused. -/
def printLines (host : Host m) (outlet : Outlet) :
    List String → Command m Unit
  | [] => pure ()
  | line :: rest => do
      printLine host outlet line
      printLines host outlet rest

/-- A counter as a line of the summary. -/
def counterLine (entry : String × Nat) : String :=
  Text.column 25 entry.1 ++ ": " ++ toString entry.2

/-- The summary of a run. -/
def summary (machine : Machine) (fault : Option Fault) : List String :=
  [ if fault.isNone then "Execution completed!" else "Execution stopped.",
    "Program counter: 0x" ++ Text.hex 3 machine.pc,
    "CHIP-8 Emulator Statistics:",
    String.ofList (Text.fill 30 '-') ] ++
    machine.tally.entries.map counterLine

/-- The display as it is printed. -/
def displayLines (display : Display) : List String :=
  ["\nDisplay output:", display.text Display.litCell Display.darkCell]

/-- The lines that are printed about a run, without that about its image. -/
def runLines (settings : CommandLine.RunSettings) (machine : Machine)
    (fault : Option Fault) : List String :=
  summary machine fault ++
    if settings.showDisplay then displayLines machine.display else []

/-- The line that tells of the fault that ended a run, if there is one. -/
def faultLines : Option Fault → List String
  | some fault => ["Emulator error: " ++ fault.message]
  | none => []

/-- The line that tells that an image was saved. -/
def savedLine (path : String) : String :=
  "Display saved to: " ++ path

/-- Save the image of a display. -/
def saveDisplay (host : Host m) (display : Display) (path : String)
    (scale : Int) : Command m Unit :=
  match display.image host.storage scale with
  | .error fault => throw (.ofImage fault)
  | .ok image => do
      match ← host.saveImage path image with
      | .error fault => throw (.failure (fault.openMessage path))
      | .ok () => printLine host .output (savedLine path)

/-- An option whose value is empty counts as absent. -/
def nonEmpty (value : Option String) : Option String :=
  value.filter (· ≠ "")

/-- Save the image of a display, if there is to be one. -/
def saveWanted (host : Host m) (settings : CommandLine.RunSettings)
    (scale : Int) (display : Display) : Command m Unit :=
  match nonEmpty settings.png with
  | some path => saveDisplay host display path scale
  | none => pure ()

/-- Report on a run that has ended, save its image, and tell whether it ended with
a fault. -/
def finishRun (host : Host m) (settings : CommandLine.RunSettings)
    (scale : Int) (machine : Machine) (fault : Option Fault) :
    Command m Nat := do
  printLines host .errors (faultLines fault)
  printLines host .output (runLines settings machine fault)
  saveWanted host settings scale machine.display
  pure (if fault.isNone then 0 else 1)

/-- Run a loaded machine and report on it. -/
def runMachine (host : Host m) (settings : CommandLine.RunSettings)
    (cycles scale : Int) (recording : Recording) (machine : Machine) :
    Command m Nat := do
  let (final, fault) ←
    liftM (runCycles host recording cycles.toNat machine)
  finishRun host settings scale final fault

/-- Load a program and run it. -/
def run (host : Host m) (rom : String) (settings : CommandLine.RunSettings)
    (variant : Variant) (scale : Int) (recording : Recording) :
    Command m Nat := do
  let found ← host.readFile rom
  let timestamp ← host.timestamp
  let now ← host.clock
  let request : LoadRequest :=
    ⟨.file rom, .text variant.label, [], settings.seed⟩
  match Machine.load request ⟨fun _ => found, now, timestamp⟩ with
  | .error fault => throw (.failure fault.message)
  | .ok step => do
      liftM (emit host recording step.records)
      match settings.cycles with
      | none => throw (.breakdown .noCycles)
      | some cycles =>
          runMachine host settings cycles scale recording step.machine

/-- Run a program as the variant that was asked for.  An emptied variant is
noticed before the program is looked for. -/
def runVariant (host : Host m) (rom : String)
    (settings : CommandLine.RunSettings) (scale : Int)
    (recording : Recording) : Command m Nat :=
  match settings.variant with
  | none => throw (.failure (LoadFault.variant (.list [])).message)
  | some variant => run host rom settings variant scale recording

/-- Disassemble a program. -/
def disassembleRom (host : Host m) (rom : String) : Command m Nat := do
  let found ← host.readFile rom
  match (RomSource.file rom).read fun _ => found with
  | .error fault => throw (.failure fault.message)
  | .ok content => do
      printLine host .output (listing (disassemble programStart content.bytes))
      pure 0

/-- The line that reports the failure of a command. -/
def failureLine (message : String) : String :=
  "Error loading ROM: " ++ message

/-- Report a failure and end.  A session whose report is refused breaks off. -/
def fail (host : Host m) (line : String) : m Ending := do
  match ← host.print .errors line with
  | .ok () => pure (.status 1)
  | .error fault => pure (.broken (.output fault))

/-- End as a command does.  All its failures are reported in the same words. -/
def conclude (host : Host m) (command : Command m Nat) : m Ending := do
  match ← command.run with
  | .ok code => pure (.status code)
  | .error (.breakdown reason) => pure (.broken reason)
  | .error (.failure message) => fail host (failureLine message)

/-- Start the trace file, if there is to be one, and go on. -/
def withTrace (host : Host m) (path : Option String) (next : m Ending) :
    m Ending :=
  match nonEmpty path with
  | none => next
  | some path => do
      let folder ← host.workingFolder
      let full := Path.within folder path
      match ← host.openTrace full with
      | .ok () => next
      | .error .zeroInPath => pure (.broken .tracePath)
      | .error fault =>
          fail host ("Cannot open debug file: " ++ fault.openMessage full)

/-- Where the records of a run go. -/
def Recording.ofSettings (settings : CommandLine.RunSettings) : Recording :=
  ⟨settings.verbose, (nonEmpty settings.debugFile).isSome⟩

/-- Answer a request. -/
def answer (host : Host m) : CommandLine.Request → m Ending
  | .disassemble rom => conclude host (disassembleRom host rom)
  | .run rom settings =>
      match settings.scale with
      | none => pure (.broken .noScale)
      | some scale =>
          withTrace host settings.debugFile
            (conclude host
              (runVariant host rom settings scale (.ofSettings settings)))

/-- How the program is called. -/
def usage : List String :=
  [ "usage: chip8vm run ROM [--variant chip8|schip] [--cycles N] [--seed N]",
    "                       [--show] [--png FILE] [--scale N]",
    "                       [--debug-file FILE] [--verbose]",
    "       chip8vm disasm ROM" ]

/-- Answer a command line.  A refusal of the help, or of a complaint about the
command line, is not noticed. -/
def main (host : Host m) (words : List String) : m Ending :=
  match CommandLine.request words with
  | .ok request => answer host request
  | .error (.help _) => do
      let _ ← (printLines host .output usage).run
      pure (.status 0)
  | .error (.wrong speaker complaint) => do
      let _ ←
        host.print .errors (speaker.name ++ ": error: " ++ complaint.message)
      pure (.status 2)

end Session

end ChipEight
