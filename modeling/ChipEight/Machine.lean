import ChipEight.CallStack
import ChipEight.Display
import ChipEight.Keypad
import ChipEight.Memory
import ChipEight.RandomStream
import ChipEight.Registers
import ChipEight.Timers
import ChipEight.Trace

namespace ChipEight

/-!
# The machine

The state of the machine is everything that a later cycle can depend on, and
the counters that tell what a run has done.  The program counter, the index and
the timers are unbounded integers, because a host may set them to anything.
-/

/-- What a machine has done so far. -/
structure Tally where
  instructions : Nat := 0
  clears : Nat := 0
  drawings : Nat := 0
  collisions : Nat := 0
  calls : Nat := 0
  returns : Nat := 0
  jumps : Nat := 0
  keyWaits : Nat := 0
  timerTicks : Nat := 0
  deriving DecidableEq, Repr

/-- The counters with their names, in the order in which they are reported. -/
def Tally.entries (tally : Tally) : List (String × Nat) :=
  [ ("instructions_executed", tally.instructions),
    ("display_clears", tally.clears),
    ("display_writes", tally.drawings),
    ("sprite_collisions", tally.collisions),
    ("subroutine_calls", tally.calls),
    ("returns", tally.returns),
    ("jumps_taken", tally.jumps),
    ("key_waits", tally.keyWaits),
    ("timer_ticks", tally.timerTicks) ]

/-- The state of a machine. -/
structure Machine where
  memory : Memory
  registers : Registers
  index : Int
  pc : Int
  stack : CallStack
  timers : Timers
  display : Display
  keypad : Keypad
  random : RandomStream
  behaviour : Behaviour
  variant : Variant
  tally : Tally

namespace Machine

/-- A machine without a program, set up at a clock reading. -/
def fresh (variant : Variant) (behaviour : Behaviour) (seed : Nat)
    (now : Float) : Machine where
  memory := .blank
  registers := .zero
  index := 0
  pc := programStart
  stack := .empty stackSlots
  timers := .start now
  display := .blank
  keypad := .released
  random := .ofSeed seed
  behaviour := behaviour
  variant := variant
  tally := {}

/-- Move one key of the keypad. -/
def setKey (machine : Machine) (key : Int) (pressed : Bool) :
    Except Fault Machine :=
  (machine.keypad.set key pressed).map fun keypad =>
    { machine with keypad := keypad }

end Machine

/-- The result of one step of a machine: the state that it leaves, the records
that it makes, and the fault that stops it, if any. -/
structure Step where
  machine : Machine
  records : List Record
  fault : Option Fault

namespace Step

/-- A step that is done. -/
def done (machine : Machine) : Step :=
  ⟨machine, [], none⟩

/-- A step that a fault stops in a given state. -/
def stopped (machine : Machine) (fault : Fault) : Step :=
  ⟨machine, [], some fault⟩

/-- A step that takes the given state to another or leaves it as it is. -/
def attempt (before : Machine) : Except Fault Machine → Step
  | .ok after => done after
  | .error fault => stopped before fault

/-- Put a record in front of those of a step. -/
def after (record : Record) (step : Step) : Step :=
  { step with records := record :: step.records }

end Step

end ChipEight
