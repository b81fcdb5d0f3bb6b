import ChipEight.Text.Literal

namespace ChipEight

/-!
# Failures of file access

A path that contains a zero character is refused before the system sees it.
Every other failure is the system's own, with its number and its reason.
-/

/-- Why a file could not be opened. -/
inductive FileFault where
  | zeroInPath
  | system (code : Nat) (reason : String)
  deriving DecidableEq, Repr

namespace FileFault

/-- A part of the path does not exist. -/
def missing : FileFault := .system 2 "No such file or directory"

/-- The path may not be used. -/
def denied : FileFault := .system 13 "Permission denied"

/-- A part of the path is a file where a folder is needed. -/
def notFolder : FileFault := .system 20 "Not a directory"

/-- The path leads to a folder where a file is needed. -/
def isFolder : FileFault := .system 21 "Is a directory"

/-- The path or one of its parts is too long. -/
def tooLong : FileFault := .system 36 "File name too long"

/-- The text that reports a path with a zero character. -/
def zeroInPathMessage : String := "embedded null byte"

/-- The text that reports a failure of the system, with a subject. -/
def systemMessage (code : Nat) (subject : String) : String :=
  "[Errno " ++ toString code ++ "] " ++ subject

/-- The text that reports a failure to open a path. -/
def openMessage (path : String) : FileFault → String
  | .zeroInPath => zeroInPathMessage
  | .system code reason =>
      systemMessage code (reason ++ ": " ++ Text.literal path)

end FileFault

end ChipEight
