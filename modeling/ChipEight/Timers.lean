namespace ChipEight

/-!
# Timers

The delay and the sound timer count down together, sixty times a second of the
clock that the host supplies.  The clock is read once per machine cycle.  A
countdown is due when at least a sixtieth of a second has passed since the last
one, in the arithmetic of the clock; the reading then becomes the new
reference, so time beyond the sixtieth is not carried over and several periods
that pass at once count as one.
-/

/-- The seconds between two countdowns. -/
def countdownPeriod : Float := 1.0 / 60

/-- The two timers and the clock reading of the last countdown. -/
structure Timers where
  delay : Int
  sound : Int
  reference : Float

namespace Timers

/-- Stopped timers that were set up at a clock reading. -/
def start (now : Float) : Timers :=
  ⟨0, 0, now⟩

/-- Whether a countdown is due. -/
def due (timers : Timers) (now : Float) : Bool :=
  !(now - timers.reference < countdownPeriod)

/-- One step towards zero, from above only. -/
def countDown (value : Int) : Int :=
  if 0 < value then value - 1 else value

/-- Count both timers down if a countdown is due. -/
def tick (timers : Timers) (now : Float) : Timers :=
  if timers.due now then
    ⟨countDown timers.delay, countDown timers.sound, now⟩
  else timers

end Timers

end ChipEight
