import ChipEight.Proofs.Bounds
import ChipEight.Proofs.Frames

namespace ChipEight

/-!
# What the timers show

A timer shows the byte that it was last set to, less one for each countdown
since then, and never less than zero.  A cycle counts down before it fetches, so
the countdown of the setting cycle itself does not count.  It makes no
difference whether the cycles in between succeed.

Nothing is assumed about the clock.  A countdown is due if the reading of the
cycle is not less than a sixtieth of a second after the reading of the last
countdown, in the arithmetic of the clock.  A reading that jumps far ahead causes
one countdown, and readings that go backwards cause none.
-/

/-- A cycle counts the timers down. -/
def Turn.ticks (turn : Turn) : Bool :=
  turn.machine.timers.due turn.now

/-- The clock reading of the last of some cycles that counted down, or else a
reading from before. -/
def lastCountdown (turns : List Turn) (start : Float) : Float :=
  ((turns.filter Turn.ticks).map Turn.now).getLastD start

theorem lastCountdown_concat (turns : List Turn) (start : Float) (last : Turn) :
    lastCountdown (turns ++ [last]) start =
      if last.ticks then last.now else lastCountdown turns start := by
  unfold lastCountdown
  rw [List.filter_append, List.map_append]
  split
  · rename_i ticks
    rw [List.filter_cons_of_pos ticks]
    exact List.getLastD_concat
  · rename_i still
    rw [List.filter_cons_of_neg still]
    simp

/-- The two timers. -/
inductive Timer where
  | delay
  | sound

namespace Timer

/-- The content of a timer. -/
def value : Timer → Timers → Int
  | .delay, timers => timers.delay
  | .sound, timers => timers.sound

/-- The operation that sets a timer from a register. -/
def setter : Timer → Int → Operation
  | .delay, x => .setDelay x
  | .sound, x => .setSound x

/-- Timers in which one has another content. -/
def put : Timer → Int → Timers → Timers
  | .delay, value, timers => { timers with delay := value }
  | .sound, value, timers => { timers with sound := value }

/-- The part of a machine that holds a timer. -/
def part : Timer → Part
  | .delay => .delay
  | .sound => .sound

/-- A machine does not set a timer in its next cycle. -/
def Unset (timer : Timer) (machine : Machine) : Prop :=
  ∀ x, ¬ machine.Fetches (timer.setter x)

/-- What a timer shows after some cycles that begin with both timers at zero. -/
inductive Shows (timer : Timer) : List Turn → Int → Prop where
  /-- No cycle sets the timer. -/
  | unset {turns : List Turn}
      (unset : ∀ turn ∈ turns, timer.Unset turn.machine) :
      Shows timer turns 0
  /-- A cycle sets the timer from a register, and no later one sets it. -/
  | set (before : List Turn) {turn : Turn} {after : List Turn}
      {register : Fin 16}
      (fetches : turn.machine.Fetches (timer.setter register.val))
      (accepted : turn.step.fault = none)
      (unset : ∀ later ∈ after, timer.Unset later.machine) :
      Shows timer (before ++ turn :: after)
        (max 0 (((turn.machine.registers.get register).toNat : Int) -
          after.countP Turn.ticks))

variable (timer : Timer)

theorem part_written_iff {operation : Operation} :
    timer.part ∈ operation.writes ↔ ∃ x, operation = timer.setter x := by
  cases timer <;> cases operation <;>
    simp [part, setter, Operation.writes]

@[simp] theorem value_put (value : Int) (timers : Timers) :
    timer.value (timer.put value timers) = value := by
  cases timer <;> rfl

theorem value_tick (timers : Timers) (now : Float) :
    timer.value (timers.tick now) =
      if timers.due now then Timers.countDown (timer.value timers)
      else timer.value timers := by
  unfold Timers.tick
  cases timer <;> split <;> rfl

end Timer

/-- One more countdown takes one from what a timer shows, down to zero. -/
theorem Timers.countDown_max (set : Int) (countdowns : Nat) :
    countDown (max 0 (set - countdowns)) =
      max 0 (set - (countdowns + 1 : Nat)) := by
  unfold countDown
  split <;> omega

namespace Machine

section Cycles

variable (timer : Timer) {machine : Machine} (now : Float)

/-- Execution sets a timer to the content of a register. -/
theorem execute_setter (before : Machine) (word : Int) (register : Fin 16) :
    before.execute ⟨word, timer.setter register.val⟩ =
      .done { before with
        timers := timer.put (before.registers.get register).toNat
          before.timers } := by
  cases timer with
  | delay =>
      simp only [execute, Timer.setter, setDelay_register, Step.attempt_ok]
      rfl
  | sound =>
      simp only [execute, Timer.setter, setSound_register, Step.attempt_ok]
      rfl

/-- A setter that was fetched names one of the registers. -/
theorem setter_register {x : Int} (fetches : machine.Fetches (timer.setter x)) :
    ∃ register : Fin 16, x = (register.val : Int) := by
  apply exists_register
  cases timer <;> exact fetches.fitsWord.x

/-- A cycle that does not set a timer leaves what counting down left. -/
theorem cycle_timer_of_unset (unset : timer.Unset machine) :
    timer.value (machine.cycle now).machine.timers =
      timer.value (machine.timers.tick now) := by
  have kept : timer.part.Same (machine.tick now) (machine.cycle now).machine := by
    apply machine.cycle_frame_ticked now
    · cases timer <;> decide
    · intro operation fetches written
      rcases timer.part_written_iff.mp written with ⟨x, rfl⟩
      exact unset x fetches
  rw [tick_eq] at kept
  cases timer <;> exact kept

/-- A cycle that sets a timer is accepted, and leaves the content of one of the
registers in it. -/
theorem cycle_timer_of_set {register : Fin 16}
    (fetches : machine.Fetches (timer.setter register.val)) :
    (machine.cycle now).fault = none ∧
      timer.value (machine.cycle now).machine.timers =
        (machine.registers.get register).toNat := by
  constructor
  · rw [cycle_fault_of_fetches now fetches, execute_setter]
    rfl
  · rw [cycle_part_of_fetches now fetches (fun left => timer.value left.timers)
      fun _ => rfl, execute_setter]
    simp only [Step.done, Timer.value_put, advanced_eq]

/-- A cycle whose clock reading does not make a countdown due keeps the reading
of the last one. -/
theorem cycle_reference :
    (machine.cycle now).machine.timers.reference =
      if machine.timers.due now then now else machine.timers.reference := by
  have kept : Part.reference.Same (machine.tick now)
      (machine.cycle now).machine := by
    apply machine.cycle_frame_ticked now (by decide)
    intro operation _
    cases operation <;> simp [Operation.writes]
  have ticked : (machine.tick now).timers.reference =
      if machine.timers.due now then now else machine.timers.reference := by
    rw [tick_eq]
    simp only [Timers.tick]
    split <;> rfl
  exact Eq.trans kept ticked

/-- Only the countdown of a cycle adds to their counter. -/
theorem cycle_countdowns :
    (machine.cycle now).machine.tally.timerTicks =
      machine.tally.timerTicks + if machine.timers.due now then 1 else 0 := by
  have kept : Part.countdowns.Same (machine.tick now)
      (machine.cycle now).machine := by
    apply machine.cycle_frame_ticked now (by decide)
    intro operation _
    cases operation <;> simp [Operation.writes]
  have ticked : (machine.tick now).tally.timerTicks =
      machine.tally.timerTicks + if machine.timers.due now then 1 else 0 := by
    rw [tick_eq]
  exact Eq.trans kept ticked

end Cycles

/-- Reading the delay timer is accepted in the ranges of a reachable machine.
It stores what the countdown of its own cycle left, and leaves the timer. -/
theorem cycle_readDelay {machine : Machine} (bounded : machine.Bounded)
    (now : Float) {register : Fin 16}
    (fetches : machine.Fetches (.readDelay register.val)) :
    (machine.cycle now).fault = none ∧
      ((machine.cycle now).machine.registers.get register).toNat =
        (machine.tick now).timers.delay := by
  have range := (tick_bounded bounded now).delay
  have executed : (machine.advanced now).execute
      ⟨machine.word, .readDelay register.val⟩ =
        .done { machine.advanced now with
          registers := (machine.advanced now).registers.set register
            (UInt8.ofNat (machine.tick now).timers.delay.toNat) } := by
    have stored := (machine.advanced now).assign_register register range
    exact congrArg (Step.attempt _) stored
  constructor
  · rw [cycle_fault_of_fetches now fetches, executed]
    rfl
  · rw [cycle_part_of_fetches now fetches registers fun _ => rfl, executed]
    simp only [Step.done, Registers.get_set_same]
    have natural := range.1
    have small : (machine.tick now).timers.delay < 256 := range.2
    rw [UInt8.toNat_ofNat_of_lt' (by change _ < 256; omega)]
    omega

end Machine

namespace Timer.Shows

open Machine

variable {timer : Timer} {turns : List Turn} {value : Int}

/-- A cycle that does not set the timer counts down what it shows, if that is
due. -/
theorem tick (shows : timer.Shows turns value) (last : Turn)
    (unset : timer.Unset last.machine) :
    timer.Shows (turns ++ [last])
      (if last.ticks then Timers.countDown value else value) := by
  have unsetLater : ∀ later : List Turn,
      (∀ turn ∈ later, timer.Unset turn.machine) →
        ∀ turn ∈ later ++ [last], timer.Unset turn.machine := by
    intro later kept turn present
    rcases List.mem_append.mp present with earlier | newest
    · exact kept turn earlier
    · rw [List.mem_singleton.mp newest]
      exact unset
  cases shows with
  | unset before =>
      have still : (if last.ticks then Timers.countDown 0 else 0) = 0 := by
        split <;> rfl
      rw [still]
      exact .unset (unsetLater turns before)
  | @set before setting after register fetches accepted later =>
      have shown := Shows.set before fetches accepted (unsetLater after later)
      rw [List.countP_append, List.countP_singleton] at shown
      rw [List.append_assoc, List.cons_append]
      split
      · rename_i due
        rw [if_pos due] at shown
        rw [Timers.countDown_max]
        exact shown
      · rename_i due
        rw [if_neg due] at shown
        exact shown

/-- A cycle that sets the timer makes it show a byte. -/
theorem atSetting (turns : List Turn) {last : Turn} {register : Fin 16}
    (fetches : last.machine.Fetches (timer.setter register.val))
    (accepted : last.step.fault = none) :
    timer.Shows (turns ++ [last])
      (last.machine.registers.get register).toNat := by
  have shown : timer.Shows (turns ++ [last]) _ :=
    .set turns fetches accepted fun _ present => nomatch present
  rw [List.countP_nil, Int.natCast_zero, Int.sub_zero,
    Int.max_eq_right (Int.natCast_nonneg _)] at shown
  exact shown

/-- A cycle leaves in a timer what its history makes it show. -/
theorem cycle {last : Turn}
    (shows : timer.Shows turns (timer.value last.machine.timers)) :
    timer.Shows (turns ++ [last]) (timer.value last.step.machine.timers) := by
  by_cases unset : timer.Unset last.machine
  · rw [Turn.step, cycle_timer_of_unset timer last.now unset, timer.value_tick]
    exact shows.tick last unset
  · obtain ⟨x, fetches⟩ : ∃ x, last.machine.Fetches (timer.setter x) := by
      simpa [Timer.Unset] using unset
    rcases setter_register timer fetches with ⟨register, rfl⟩
    rcases cycle_timer_of_set timer last.now fetches with ⟨accepted, left⟩
    rw [Turn.step, left]
    exact .atSetting turns fetches accepted

end Timer.Shows

namespace Machine

/-- The cycles up to now decide what a machine shows of the time, namely the
timers and the reading of the last countdown. -/
structure KeepsTime (start : Float) (turns : List Turn) (machine : Machine) :
    Prop where
  shows : ∀ timer : Timer, timer.Shows turns (timer.value machine.timers)
  reference : machine.timers.reference = lastCountdown turns start

theorem KeepsTime.cycle {start : Float} {turns : List Turn} {machine : Machine}
    (keeps : KeepsTime start turns machine) (now : Float) :
    KeepsTime start (turns ++ [⟨machine, now⟩]) (machine.cycle now).machine where
  shows timer := (keeps.shows timer).cycle
  reference := by
    rw [cycle_reference, lastCountdown_concat, keeps.reference]
    rfl

theorem follow_keepsTime {start : Float} {machine : Machine}
    (keeps : KeepsTime start [] machine) (events : List Event) :
    KeepsTime start (machine.turns events) (machine.follow events) := by
  apply turns_induction (KeepsTime start) keeps
  · intro turns before now kept
    exact kept.cycle now
  · intro turns before number pressed kept
    rcases before.respond_key number pressed with ⟨keypad, moved⟩
    rw [moved]
    exact { kept with }

/-- The counter of a machine counts the cycles that count down. -/
theorem follow_countdowns (start : Machine) (events : List Event) :
    (start.follow events).tally.timerTicks =
      start.tally.timerTicks + (start.turns events).countP Turn.ticks := by
  apply follow_count fun machine => machine.tally.timerTicks
  · intro turn
    exact turn.machine.cycle_countdowns turn.now
  · intro before number pressed
    rcases before.respond_key number pressed with ⟨keypad, moved⟩
    rw [moved]

/-- Whatever the clock reads and whichever events fail, a loaded machine shows of
the time what its cycles make it show.  The next cycle counts down if its
reading is not less than a sixtieth of a second after that of the last
countdown, or after that of loading.  If it reads the delay timer, it stores the
value that its own countdown left. -/
theorem timer_history {request : LoadRequest} {surroundings : Surroundings}
    {step : Step} (loaded : load request surroundings = .ok step)
    (events : List Event) :
    let turns := step.machine.turns events
    let left := step.machine.follow events
    KeepsTime surroundings.now turns left ∧
      left.tally.timerTicks = turns.countP Turn.ticks ∧
      left.tally.timerTicks ≤ turns.length ∧
      ∀ now,
        (Turn.ticks ⟨left, now⟩ = true ↔
          ¬ now - lastCountdown turns surroundings.now < 1.0 / 60) ∧
        ∀ x, left.Fetches (.readDelay x) →
          (left.cycle now).fault = none ∧
            (left.cycle now).machine.timers.delay =
              (left.tick now).timers.delay ∧
            ∃ register : Fin 16, x = register.val ∧
              ((left.cycle now).machine.registers.get register).toNat =
                (left.tick now).timers.delay := by
  intro turns left
  have bounded : left.Bounded :=
    Reachable.bounded ⟨_, events, ⟨_, _, _, loaded, rfl⟩, rfl⟩
  rcases load_boots loaded with ⟨rom, variant, _, _, _, booted⟩
  have keeps : KeepsTime surroundings.now turns left := by
    apply follow_keepsTime
    rw [booted]
    constructor
    case shows =>
      intro timer
      cases timer <;> exact .unset fun _ present => nomatch present
    case reference => rfl
  have counted : left.tally.timerTicks = turns.countP Turn.ticks := by
    have zero : step.machine.tally.timerTicks = 0 := by
      rw [booted]
      rfl
    rw [step.machine.follow_countdowns, zero, Nat.zero_add]
  refine ⟨keeps, counted, ?_, ?_⟩
  · rw [counted]
    exact List.countP_le_length
  · intro now
    constructor
    · rw [← keeps.reference]
      simp only [Turn.ticks, Timers.due, countdownPeriod, Bool.not_eq_true']
      exact decide_eq_false_iff_not
    · intro x fetches
      rcases exists_register x fetches.fitsWord.x with ⟨register, rfl⟩
      rcases cycle_readDelay bounded now fetches with ⟨accepted, stored⟩
      refine ⟨accepted, ?_, register, rfl, stored⟩
      have unset : Timer.delay.Unset left := fun _ sets =>
        nomatch fetches.unique sets
      have kept := cycle_timer_of_unset .delay now unset
      rw [tick_eq]
      exact kept

/-- A program that sets the delay timer to three, reads it back and rests. -/
def countdownReader : Rom where
  bytes := [0x61, 0x03, 0xF1, 0x15, 0xF2, 0x07, 0x12, 0x06]
  nonempty := by decide
  fits := by decide

/-- The clock jumps ahead before the timer is read, and goes back afterwards.
Three of the six cycles count down, but one of them before the timer is set. -/
theorem countdownReader_shows_one :
    ∃ request surroundings step, load request surroundings = .ok step ∧
      Timer.delay.Shows (step.machine.turns
        [.cycle 1, .cycle 1, .cycle 9, .cycle 4, .cycle 8, .cycle 9.5]) 1 ∧
      (step.machine.follow [.cycle 1, .cycle 1]).Fetches (.readDelay 2) ∧
      ∃ register : Fin 16, 2 = (register.val : Int) ∧
        (((step.machine.follow [.cycle 1, .cycle 1]).cycle
          9).machine.registers.get register).toNat =
            ((step.machine.follow [.cycle 1, .cycle 1]).tick
              9).timers.delay := by
  have plain : Behaviour.unknownSwitches [] = [] := by
    simp [Behaviour.unknownSwitches]
  let surroundings : Surroundings := ⟨fun _ => .ok [], 0, 0⟩
  rcases load_of_known countdownReader .chipEight plain 0 surroundings with
    ⟨step, loaded, booted⟩
  have later := (timer_history loaded
    [.cycle 1, .cycle 1, .cycle 9, .cycle 4, .cycle 8, .cycle 9.5]).1.shows .delay
  have reading := (timer_history loaded [.cycle 1, .cycle 1]).2.2.2 9
  have fetches : (step.machine.follow [.cycle 1, .cycle 1]).Fetches
      (.readDelay 2) := by
    rw [booted]
    decide +kernel
  have shown : (step.machine.follow
      [.cycle 1, .cycle 1, .cycle 9, .cycle 4, .cycle 8, .cycle 9.5]).timers.delay =
        1 := by
    rw [booted]
    decide +kernel
  refine ⟨_, surroundings, step, loaded, ?_, fetches,
    (reading.2 2 fetches).2.2⟩
  rw [← shown]
  exact later

end Machine

end ChipEight
