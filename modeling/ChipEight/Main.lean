import ChipEight.Files.Folder
import ChipEight.Session

namespace ChipEight

/-!
# The program

The host of the real system, and the entry point of the program.  Nothing is
decided here: the command line goes to a session, and the session's questions
go to the system.
-/

namespace Console

/-- The failure with a number of the system, which may be given negated. -/
def faultOfCode (code : UInt32) (details : String) : FileFault :=
  let number :=
    if code.toNat < 0x80000000 then code.toNat
    else 0x100000000 - code.toNat
  match number with
  | 2 => .missing
  | 13 => .denied
  | 20 => .notFolder
  | 21 => .isFolder
  | 36 => .tooLong
  | _ => .system number details

/-- The number and the reason of a failure of the system. -/
def faultOf : IO.Error → FileFault
  | .noFileOrDirectory _ code details
  | .inappropriateType _ code details
  | .permissionDenied _ code details
  | .alreadyExists _ code details
  | .invalidArgument _ code details
  | .resourceExhausted _ code details
  | .noSuchThing _ code details
  | .resourceVanished code details
  | .unsupportedOperation code details
  | .hardwareFault code details
  | .illegalOperation code details
  | .protocolError code details
  | .resourceBusy code details
  | .otherError code details => faultOfCode code details
  | other => .system 5 (toString other)

/-- Ask the system for something at a path. -/
def asking (path : String) (action : IO α) : IO (Except FileFault α) := do
  match Folder.refusal? path with
  | some fault => pure (.error fault)
  | none =>
      try
        pure (.ok (← action))
      catch failure =>
        pure (.error (faultOf failure))

/-- Open a file for writing and empty it. -/
def create (path : String) : IO IO.FS.Handle :=
  IO.FS.Handle.mk path .write

/-- Ask the system to print a line. -/
def print (outlet : Outlet) (line : String) :
    IO (Except OutputFault Unit) := do
  try
    match outlet with
    | .output => IO.println line
    | .errors => IO.eprintln line
    pure (.ok ())
  catch failure =>
    pure (.error ⟨toString failure⟩)

/-- What an image may take of this system.  Without a bound, an enormous scale
would be tried out until no memory is left. -/
def storage : Storage := .upTo 0x800000000

/-- The real system as a host.  The reference holds the trace file. -/
def host (traceFile : IO.Ref (Option IO.FS.Handle)) : Host IO where
  storage := storage
  workingFolder := do
    let folder ← IO.currentDir
    pure folder.toString
  readFile path := asking path do
    let content ← IO.FS.readBinFile path
    pure content.toList
  openTrace path := asking path do
    let handle ← create path
    traceFile.set (some handle)
  trace line := do
    match ← traceFile.get with
    | some handle =>
        handle.putStrLn line
        handle.flush
    | none => pure ()
  saveImage path image := asking path do
    let handle ← create path
    handle.write (ByteArray.mk (Png.encode image).toArray)
  clock := do
    let nanoseconds ← IO.monoNanosNow
    pure (Float.ofNat nanoseconds / 1000000000)
  timestamp := do
    let nanoseconds ← IO.monoNanosNow
    pure nanoseconds
  print := print
  log line := do
    let _ ← print .errors line

end Console

end ChipEight

/-- Answer the command line. -/
def main (words : List String) : IO UInt32 := do
  let traceFile ← IO.mkRef none
  match ← ChipEight.Session.main (ChipEight.Console.host traceFile) words with
  | .status code => pure (UInt32.ofNat code)
  | .broken reason =>
      IO.eprintln reason.message
      pure 1
