import ChipEight.Instruction.Decode
import ChipEight.Machine.Execute

namespace ChipEight

/-!
# Cycles and runs

A cycle counts the timers down if that is due, fetches the word at the program
counter, moves the counter behind it, decodes the word and executes the
instruction.  A cycle that fails names the place it fetched from.  A run is a
number of cycles, each with its own clock reading, and ends at the first one
that fails.
-/

namespace Machine

/-- Count the timers down if that is due. -/
def tick (machine : Machine) (now : Float) : Machine :=
  if machine.timers.due now then
    { machine with
      timers := machine.timers.tick now
      tally.timerTicks := machine.tally.timerTicks + 1 }
  else machine

/-- Count an instruction that was executed. -/
def countInstruction (machine : Machine) : Machine :=
  { machine with tally.instructions := machine.tally.instructions + 1 }

/-- Execute an instruction that was fetched from a place, and count it.  A
fault that belongs to the program is recorded with that place. -/
def executeFrom (machine : Machine) (location : Int)
    (instruction : Instruction) : Step :=
  let step := machine.execute instruction
  match step.fault with
  | none => { step with machine := step.machine.countInstruction }
  | some fault =>
      if fault.stopsPrograms then
        { step with
          records := step.records ++ [.executeFailed instruction location] }
      else step

/-- Decode and execute a word that was fetched from a place. -/
def perform (machine : Machine) (location : Int) (word : Nat) : Step :=
  match Instruction.decode? word with
  | some instruction => machine.executeFrom location instruction
  | none =>
      (Step.stopped machine (.unknownWord word (some location))).after
        (.decodeFailed word location)

/-- One cycle at a clock reading. -/
def cycle (machine : Machine) (now : Float) : Step :=
  let ticked := machine.tick now
  let location := ticked.pc
  match ticked.memory.readWord location with
  | .error fault =>
      (Step.stopped ticked fault).after (.fetchFailed location)
  | .ok word =>
      let advanced := { ticked with pc := location + 2 }
      (advanced.perform location word).after (.fetched word location)

end Machine

/-- The result of a run: the state that it leaves, the records of all its
cycles, and the fault that ended it, if any. -/
structure Run where
  machine : Machine
  records : Array Record
  fault : Option Fault

namespace Run

/-- The run of no cycles. -/
def start (machine : Machine) : Run :=
  ⟨machine, #[], none⟩

/-- One more cycle. -/
def extend (run : Run) (now : Float) : Run :=
  let step := run.machine.cycle now
  ⟨step.machine, run.records ++ step.records.toArray, step.fault⟩

/-- Go on for a number of cycles, or until one fails, with the clock readings
from a position on. -/
def continueFor (run : Run) (readings : Nat → Float) (position : Nat) :
    Nat → Run
  | 0 => run
  | count + 1 =>
      match run.fault with
      | some _ => run
      | none =>
          (run.extend (readings position)).continueFor readings
            (position + 1) count

end Run

/-- Run a machine for a number of cycles.  A number below one runs none. -/
def Machine.run (machine : Machine) (readings : Nat → Float) (count : Int) :
    Run :=
  (Run.start machine).continueFor readings 0 count.toNat

/-- The number of cycles of a run unless the caller chooses another. -/
def defaultCycles : Int := 1000

end ChipEight
