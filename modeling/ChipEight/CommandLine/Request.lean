import ChipEight.CommandLine.Word
import ChipEight.Display.Export
import ChipEight.Machine.Cycle
import ChipEight.Text.Literal

namespace ChipEight
namespace CommandLine

/-!
# Requests

A command line asks for a run or for a disassembly of one program.  Its words
are taken from left to right; the last value of a repeated option counts, and
words that nothing asks for are collected and reported at the end.

An option that takes a value is emptied if the terminator `--` is joined to it
with an equals sign.  Options that may be absent are then absent, and the seed
is zero.  Other options are left without a value, and the run finds out about
that when it needs one.
-/

/-- How a program is to be run.  The variant, the number of cycles and the scale
have no value only if they were emptied. -/
structure RunSettings where
  variant : Option Variant := some .chipEight
  cycles : Option Int := some defaultCycles
  seed : Option Int := none
  showDisplay : Bool := false
  png : Option String := none
  scale : Option Int := some Display.defaultScale
  debugFile : Option String := none
  verbose : Bool := false
  deriving DecidableEq, Repr

/-- What a command line asks for. -/
inductive Request where
  | run (rom : String) (settings : RunSettings)
  | disassemble (rom : String)
  deriving DecidableEq, Repr

/-- The parts of the program that report a wrong command line. -/
inductive Speaker where
  | program
  | run
  | disassemble
  deriving DecidableEq, Repr

/-- The name under which a part of the program speaks. -/
def Speaker.name : Speaker → String
  | .program => "chip8vm"
  | .run => "chip8vm run"
  | .disassemble => "chip8vm disasm"

/-- What is wrong with a command line. -/
inductive Complaint where
  | ambiguous (ambiguity : Ambiguity)
  | missing (argument : String)
  | badChoice (argument value : String) (choices : List String)
  | badInteger (option : OptionName) (value : String)
  | noValue (option : OptionName)
  | needlessValue (option : OptionName) (value : String)
  | unrecognized (words : List String)
  | smallScale
  deriving DecidableEq, Repr

/-- The text that reports what is wrong with a command line. -/
def Complaint.message : Complaint → String
  | .ambiguous ambiguity => ambiguity.message
  | .missing argument =>
      "the following arguments are required: " ++ argument
  | .badChoice argument value choices =>
      "argument " ++ argument ++ ": invalid choice: " ++ Text.literal value ++
        " (choose from " ++
        ", ".intercalate (choices.map Text.literal) ++ ")"
  | .badInteger option value =>
      "argument " ++ option.title ++ ": invalid int value: " ++
        Text.literal value
  | .noValue option =>
      "argument " ++ option.title ++ ": expected one argument"
  | .needlessValue option value =>
      "argument " ++ option.title ++ ": ignored explicit argument " ++
        Text.literal value
  | .unrecognized words =>
      "unrecognized arguments: " ++ " ".intercalate words
  | .smallScale => "scale must be greater than 0"

/-- Why a command line leads to no request. -/
inductive Refusal where
  | help (speaker : Speaker)
  | wrong (speaker : Speaker) (complaint : Complaint)
  deriving DecidableEq, Repr

/-! ## Options -/

/-- Read an integer value. -/
def readInteger (option : OptionName) (value : String) :
    Except Complaint Int :=
  match Text.integer? value with
  | some number => .ok number
  | none => .error (.badInteger option value)

/-- Set an option that takes a value. -/
def RunSettings.setValue (settings : RunSettings) (option : OptionName)
    (value : String) : Except Complaint RunSettings :=
  match option with
  | .variant =>
      match Variant.ofLabel? value with
      | some variant => .ok { settings with variant := some variant }
      | none =>
          .error (.badChoice option.title value (Variant.all.map Variant.label))
  | .cycles =>
      (readInteger option value).map fun number =>
        { settings with cycles := some number }
  | .seed =>
      (readInteger option value).map fun number =>
        { settings with seed := some number }
  | .scale =>
      (readInteger option value).map fun number =>
        { settings with scale := some number }
  | .png => .ok { settings with png := some value }
  | .debugFile => .ok { settings with debugFile := some value }
  | .help | .showDisplay | .verbose => .ok settings

/-- Take the value of an option away. -/
def RunSettings.empty (settings : RunSettings) (option : OptionName) :
    RunSettings :=
  match option with
  | .variant => { settings with variant := none }
  | .cycles => { settings with cycles := none }
  | .seed => { settings with seed := some 0 }
  | .scale => { settings with scale := none }
  | .png => { settings with png := none }
  | .debugFile => { settings with debugFile := none }
  | .help | .showDisplay | .verbose => settings

/-- Set an option to a value that is joined to it, or empty it. -/
def RunSettings.setJoined (settings : RunSettings) (option : OptionName)
    (value : String) : Except Complaint RunSettings :=
  if value = "--" then .ok (settings.empty option)
  else settings.setValue option value

/-- Set an option that takes no value. -/
def RunSettings.setFlag (settings : RunSettings) (option : OptionName) :
    RunSettings :=
  match option with
  | .showDisplay => { settings with showDisplay := true }
  | .verbose => { settings with verbose := true }
  | _ => settings

/-- The options of one letter that make up a text which is joined to one of
them. -/
def runTogether (table : OptionTable) (option : OptionName) :
    List Char → Except Complaint (List OptionName)
  | [] => .ok [option]
  | letter :: rest =>
      match table.lookup (String.ofList ['-', letter]) with
      | none => .error (.needlessValue option (String.ofList (letter :: rest)))
      | some next => (runTogether table next rest).map (option :: ·)

/-- The options that an option without a value stands for together with what is
joined to it.  Only options of one letter may be run together. -/
def flagsOf (table : OptionTable) (option : OptionName) (spelling : String) :
    Option String → Except Complaint (List OptionName)
  | none => .ok [option]
  | some joined =>
      if joined = "" ∨ spelling.startsWith "--" then
        .error (.needlessValue option joined)
      else runTogether table option joined.toList

/-! ## The words of one command -/

/-- What the words so far have asked for. -/
structure Progress where
  rom : Option String := none
  settings : RunSettings := {}
  extras : List String := []

/-- Collect words that nobody asks for. -/
def Progress.collect (progress : Progress) (words : List String) : Progress :=
  { progress with extras := progress.extras ++ words }

/-- Set options that take no value, in order. -/
def Progress.setFlags (speaker : Speaker) (progress : Progress) :
    List OptionName → Except Refusal Progress
  | [] => .ok progress
  | .help :: _ => .error (.help speaker)
  | option :: rest =>
      Progress.setFlags speaker
        { progress with settings := progress.settings.setFlag option } rest

/-- Take an option that takes no value, with what is joined to it. -/
def Progress.takeFlag (progress : Progress) (speaker : Speaker)
    (table : OptionTable) (option : OptionName) (spelling : String)
    (joined : Option String) : Except Refusal Progress :=
  match flagsOf table option spelling joined with
  | .error complaint => .error (.wrong speaker complaint)
  | .ok options => progress.setFlags speaker options

/-- Go on with settings, unless there is a complaint. -/
def Progress.takeSettings (progress : Progress) (speaker : Speaker) :
    Except Complaint RunSettings → Except Refusal Progress
  | .error complaint => .error (.wrong speaker complaint)
  | .ok settings => .ok { progress with settings := settings }

/-- Take the words of one command.  The program is the first plain word; a
terminator just before or behind it is dropped. -/
def takeWords (speaker : Speaker) (table : OptionTable) (progress : Progress) :
    List Word → Except Refusal Progress
  | [] => .ok progress
  | .unknown text :: rest =>
      takeWords speaker table (progress.collect [text]) rest
  | .plain text :: .terminator :: rest =>
      match progress.rom with
      | none => takeWords speaker table { progress with rom := some text } rest
      | some _ =>
          takeWords speaker table (progress.collect [text, "--"]) rest
  | .plain text :: rest =>
      match progress.rom with
      | none => takeWords speaker table { progress with rom := some text } rest
      | some _ => takeWords speaker table (progress.collect [text]) rest
  | .terminator :: .plain text :: rest =>
      match progress.rom with
      | none => takeWords speaker table { progress with rom := some text } rest
      | some _ =>
          takeWords speaker table (progress.collect ["--", text]) rest
  | .terminator :: rest =>
      takeWords speaker table (progress.collect ["--"]) rest
  | .option name spelling (some joined) :: rest =>
      let taken :=
        if name.takesValue then
          progress.takeSettings speaker (progress.settings.setJoined name joined)
        else progress.takeFlag speaker table name spelling (some joined)
      match taken with
      | .error refusal => .error refusal
      | .ok next => takeWords speaker table next rest
  | .option name spelling none :: rest =>
      if name.takesValue then
        match rest with
        | .plain value :: later =>
            match progress.takeSettings speaker
                (progress.settings.setValue name value) with
            | .error refusal => .error refusal
            | .ok next => takeWords speaker table next later
        | _ => .error (.wrong speaker (.noValue name))
      else
        match progress.takeFlag speaker table name spelling none with
        | .error refusal => .error refusal
        | .ok next => takeWords speaker table next rest

/-- The program, the settings and the unexpected words of one command. -/
def readCommand (speaker : Speaker) (table : OptionTable)
    (words : List String) :
    Except Refusal (String × RunSettings × List String) :=
  match readWords table words with
  | .error ambiguity => .error (.wrong speaker (.ambiguous ambiguity))
  | .ok read =>
      match takeWords speaker table {} read with
      | .error refusal => .error refusal
      | .ok progress =>
          match progress.rom with
          | none => .error (.wrong speaker (.missing "rom"))
          | some rom => .ok (rom, progress.settings, progress.extras)

/-! ## The whole command line -/

/-- The names of the commands. -/
def commandNames : List String := ["run", "disasm"]

/-- Read the words behind the name of a command. -/
def readNamed (name : String) (words : List String) :
    Except Refusal (Request × List String) :=
  match name with
  | "run" =>
      (readCommand .run runOptions words).map fun (rom, settings, extras) =>
        (.run rom settings, extras)
  | "disasm" =>
      (readCommand .disassemble commonOptions words).map
        fun (rom, _, extras) => (.disassemble rom, extras)
  | other =>
      .error (.wrong .program (.badChoice "command" other commandNames))

/-- Read the words up to the name of a command and those behind it.  The
unexpected words of both parts are collected.  A terminator takes the place of
the name if any word follows it. -/
def readRequest (extras : List String) :
    List String → Except Refusal (Request × List String)
  | [] => .error (.wrong .program (.missing "command"))
  | ["--"] => .error (.wrong .program (.missing "command"))
  | "--" :: _ :: _ =>
      .error (.wrong .program (.badChoice "command" "--" commandNames))
  | text :: rest =>
      match readWord commonOptions text with
      | .error ambiguity => .error (.wrong .program (.ambiguous ambiguity))
      | .ok (.unknown word) => readRequest (extras ++ [word]) rest
      | .ok (.option name spelling joined) =>
          match flagsOf commonOptions name spelling joined with
          | .error complaint => .error (.wrong .program complaint)
          | .ok _ => .error (.help .program)
      | .ok _ =>
          (readNamed text rest).map fun (request, later) =>
            (request, extras ++ later)

/-- The request that a command line makes. -/
def request (words : List String) : Except Refusal Request :=
  match readRequest [] words with
  | .error refusal => .error refusal
  | .ok (request, []) =>
      match request with
      | .run _ settings =>
          if settings.scale.any (· < 1) then
            .error (.wrong .program .smallScale)
          else .ok request
      | .disassemble _ => .ok request
  | .ok (_, extras) => .error (.wrong .program (.unrecognized extras))

end CommandLine
end ChipEight
