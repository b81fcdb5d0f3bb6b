import ChipEight.Text.Integer

namespace ChipEight
namespace CommandLine

/-!
# Words of a command line

The words of a command line are options, plain words, or the terminator `--`,
behind which every word is plain.  A long option may be cut to any beginning
that no other option shares, and may carry its value behind an equals sign.
Options of one letter take no value, and their letters may be run together in
one word.

A word that starts with a dash and is no option is still plain if it looks like
a negative number or contains a blank.
-/

/-- The options of the program. -/
inductive OptionName where
  | help
  | variant
  | cycles
  | seed
  | showDisplay
  | png
  | scale
  | debugFile
  | verbose
  deriving DecidableEq, Repr

namespace OptionName

/-- How an option is named in messages. -/
def title : OptionName → String
  | .help => "-h/--help"
  | .variant => "--variant"
  | .cycles => "--cycles"
  | .seed => "--seed"
  | .showDisplay => "--show"
  | .png => "--png"
  | .scale => "--scale"
  | .debugFile => "--debug-file"
  | .verbose => "--verbose/-v"

/-- Whether an option needs a value. -/
def takesValue : OptionName → Bool
  | .help | .showDisplay | .verbose => false
  | _ => true

end OptionName

/-- The spellings of the options that a command has, in the order in which
they are listed. -/
abbrev OptionTable := List (String × OptionName)

/-- The options of every command. -/
def commonOptions : OptionTable :=
  [("-h", .help), ("--help", .help)]

/-- The options of a run. -/
def runOptions : OptionTable :=
  commonOptions ++
    [("--variant", .variant), ("--cycles", .cycles), ("--seed", .seed),
      ("--show", .showDisplay), ("--png", .png), ("--scale", .scale),
      ("--debug-file", .debugFile), ("--verbose", .verbose),
      ("-v", .verbose)]

/-- A word of a command line.  An option comes with its full spelling and with
the text that is joined to it, if any is. -/
inductive Word where
  | plain (text : String)
  | terminator
  | option (name : OptionName) (spelling : String) (joined : Option String)
  | unknown (text : String)
  deriving DecidableEq, Repr

/-- Two or more options that a word could be cut from. -/
structure Ambiguity where
  word : String
  candidates : List String
  deriving DecidableEq, Repr

/-- The text that reports an ambiguous word. -/
def Ambiguity.message (ambiguity : Ambiguity) : String :=
  "ambiguous option: " ++ ambiguity.word ++ " could match " ++
    ", ".intercalate ambiguity.candidates

/-- A text up to its first equals sign, and what stands behind it. -/
def splitEquals (text : String) : String × Option String :=
  let chars := text.toList
  let left := chars.takeWhile (· ≠ '=')
  match chars.dropWhile (· ≠ '=') with
  | [] => (text, none)
  | _ :: right => (String.ofList left, some (String.ofList right))

/-- Whether digits, at least one, make up a list, up to one final line end. -/
def allDigits (chars : List Char) : Bool :=
  let digits := chars.takeWhile Text.isDigit
  let rest := chars.dropWhile Text.isDigit
  !digits.isEmpty && (rest.isEmpty || rest == ['\n'])

/-- Whether a text looks like a negative number, with or without a point. -/
def looksNegative (text : String) : Bool :=
  match text.toList with
  | '-' :: chars =>
      allDigits chars ||
        (match chars.dropWhile Text.isDigit with
        | '.' :: decimals => allDigits decimals
        | _ => false)
  | _ => false

/-- The options that a word may stand for without being spelled out. -/
def candidates (table : OptionTable) (text : String) : List Word :=
  if text.startsWith "--" then
    let (left, right) := splitEquals text
    (table.filter fun entry => entry.1.startsWith left).map fun entry =>
      .option entry.2 entry.1 right
  else
    let letter := String.ofList (text.toList.take 2)
    let rest := String.ofList (text.toList.drop 2)
    (table.filter fun entry => entry.1 == letter).map fun entry =>
      .option entry.2 entry.1 (some rest)

/-- The spelling of the option that a word stands for. -/
def Word.spelling : Word → String
  | .option _ spelling _ => spelling
  | .plain text | .unknown text => text
  | .terminator => "--"

/-- Read a word that starts with a dash and is not spelled as an option. -/
def readDashed (table : OptionTable) (text : String) :
    Except Ambiguity Word :=
  match candidates table text with
  | [word] => .ok word
  | first :: second :: rest =>
      .error ⟨text, (first :: second :: rest).map Word.spelling⟩
  | [] =>
      if looksNegative text || text.contains ' ' then .ok (.plain text)
      else .ok (.unknown text)

/-- Read one word before the terminator. -/
def readWord (table : OptionTable) (text : String) : Except Ambiguity Word :=
  if !text.startsWith "-" then .ok (.plain text)
  else
    match table.lookup text with
    | some name => .ok (.option name text none)
    | none =>
        if text = "-" then .ok (.plain text)
        else
          match splitEquals text with
          | (left, some right) =>
              match table.lookup left with
              | some name => .ok (.option name left (some right))
              | none => readDashed table text
          | (_, none) => readDashed table text

/-- Read the words of a command line. -/
def readWords (table : OptionTable) :
    List String → Except Ambiguity (List Word)
  | [] => .ok []
  | text :: rest =>
      if text = "--" then .ok (.terminator :: rest.map .plain)
      else
        match readWord table text with
        | .error ambiguity => .error ambiguity
        | .ok word =>
            match readWords table rest with
            | .error ambiguity => .error ambiguity
            | .ok words => .ok (word :: words)

end CommandLine
end ChipEight
