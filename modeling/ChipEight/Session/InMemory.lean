import ChipEight.Files.Folder
import ChipEight.Session

namespace ChipEight

/-!
# Sessions in memory

A session can be run on a folder in memory, with a clock that moves on by a
fixed amount before every reading, and with output that takes every line.  Such a
run is a function of its start, so it serves to rehearse a session and to reason
about it.
-/

/-- A folder in memory, a clock, and the output so far. -/
structure Rehearsal where
  storage : Storage
  folder : Folder
  now : Float
  period : Float
  timestamp : Int
  tracePlace : Option Place := none
  /-- The lines that were printed, newest first. -/
  printed : List String := []
  /-- The lines that were reported, newest first. -/
  reported : List String := []

namespace Rehearsal

/-- Open a trace file. -/
def openTrace (path : String) (start : Rehearsal) :
    Except FileFault Unit × Rehearsal :=
  match start.folder.writable path with
  | .error fault => (.error fault, start)
  | .ok place =>
      (.ok (),
        { start with
          folder := start.folder.put place (.lines [])
          tracePlace := some place })

/-- Add a line to the trace file. -/
def trace (line : String) (start : Rehearsal) : Rehearsal :=
  match start.tracePlace with
  | none => start
  | some place =>
      { start with folder := start.folder.modify place (.addLine line) }

/-- Save an image. -/
def saveImage (path : String) (image : Image) (start : Rehearsal) :
    Except FileFault Unit × Rehearsal :=
  match start.folder.writable path with
  | .error fault => (.error fault, start)
  | .ok place =>
      (.ok (), { start with folder := start.folder.put place (.image image) })

/-- Move the clock on and read it. -/
def clock (start : Rehearsal) : Float × Rehearsal :=
  let now := start.now + start.period
  (now, { start with now := now })

/-- Print a line. -/
def print (outlet : Outlet) (line : String) (start : Rehearsal) : Rehearsal :=
  match outlet with
  | .output => { start with printed := line :: start.printed }
  | .errors => { start with reported := line :: start.reported }

/-- The host whose state is a rehearsal with a certain storage. -/
def host (storage : Storage) : Host (StateM Rehearsal) where
  storage := storage
  workingFolder := fun start => (start.folder.path, start)
  readFile path := fun start => (start.folder.read path, start)
  openTrace path := fun start => start.openTrace path
  trace line := fun start => ((), start.trace line)
  saveImage path image := fun start => start.saveImage path image
  clock := fun start => start.clock
  timestamp := fun start => (start.timestamp, start)
  print outlet line := fun start => (.ok (), start.print outlet line)
  log line := fun start => ((), start.print .errors line)

/-- Run a session on a rehearsal. -/
def run (start : Rehearsal) (words : List String) : Ending × Rehearsal :=
  Session.main (host start.storage) words start

end Rehearsal

end ChipEight
