import ChipEight.Proofs.Bounds
import ChipEight.Proofs.Counters
import ChipEight.Proofs.Patterns

namespace ChipEight

/-!
# Waiting for a key

A machine that waits for a key does not stand still.  It makes whole cycles, in
each of which the timers may count down, the waiting word is fetched, the program
counter moves behind that word and then back to it.  The first part shows that
any number of such cycles is nothing but their countdowns and two counters.  The
second part shows how the wait ends, once the host has moved the keys such that
one of them is down.

The clock is arbitrary throughout, so the timers are compared with timers that do
nothing but count down at the same readings.
-/

/-! ## The first key that is down -/

namespace Keypad

/-- A key is the smallest of those that are down. -/
def IsFirstDown (keypad : Keypad) (key : Fin 16) : Prop :=
  keypad.isDown key = true ∧ ∀ smaller < key, keypad.isDown smaller = false

instance (keypad : Keypad) (key : Fin 16) : Decidable (keypad.IsFirstDown key) :=
  inferInstanceAs (Decidable (_ ∧ _))

variable {keypad : Keypad}

/-- At most one key is the smallest. -/
theorem IsFirstDown.unique {first second : Fin 16}
    (one : keypad.IsFirstDown first) (other : keypad.IsFirstDown second) :
    first = second := by
  apply Fin.le_antisymm
  · refine Fin.not_lt.mp fun before => ?_
    exact Bool.eq_false_iff.mp (one.2 second before) other.1
  · refine Fin.not_lt.mp fun before => ?_
    exact Bool.eq_false_iff.mp (other.2 first before) one.1

theorem firstDown?_of_idle (idle : ∀ key, keypad.isDown key = false) :
    keypad.firstDown? = none := by
  rw [← Option.isNone_iff_eq_none, isNone_firstDown?]
  exact decide_eq_true idle

/-- The search for a key goes through the keys in their order. -/
theorem isFirstDown_of_firstDown? {key : Fin 16}
    (found : keypad.firstDown? = some key) : keypad.IsFirstDown key := by
  rcases List.find?_eq_some_iff_getElem.mp found with
    ⟨down, place, inside, atPlace, earlier⟩
  rw [List.getElem_finRange] at atPlace
  subst atPlace
  refine ⟨down, fun smaller before => ?_⟩
  have up := earlier smaller.val before
  rw [List.getElem_finRange] at up
  simpa using up

/-- If a key is down, then one of them is the smallest, and the search finds
it. -/
theorem exists_firstDown? (pressed : ∃ key, keypad.isDown key = true) :
    ∃ key, keypad.firstDown? = some key ∧ keypad.IsFirstDown key := by
  cases found : keypad.firstDown? with
  | some key => exact ⟨key, rfl, isFirstDown_of_firstDown? found⟩
  | none =>
      have idle := keypad.isNone_firstDown?
      rw [found] at idle
      rcases pressed with ⟨key, down⟩
      have up := of_decide_eq_true idle.symm key
      rw [down] at up
      contradiction

end Keypad

/-! ## Timers on their own -/

namespace Timers

/-- The timers behind countdowns at several readings, as far as these are due. -/
def tickAll (timers : Timers) (readings : List Float) : Timers :=
  readings.foldl tick timers

/-- The number of the readings at which a countdown is due. -/
def countdowns (timers : Timers) : List Float → Nat
  | [] => 0
  | now :: rest =>
      (if timers.due now then 1 else 0) + (timers.tick now).countdowns rest

end Timers

namespace Machine

/-! ## Cycles without a key -/

/-- The machine that has waited through cycles at several readings. -/
def afterWaiting (machine : Machine) (readings : List Float) : Machine :=
  { machine with
    timers := machine.timers.tickAll readings
    tally :=
      { machine.tally with
        instructions := machine.tally.instructions + readings.length
        keyWaits := machine.tally.keyWaits + readings.length
        timerTicks :=
          machine.tally.timerTicks + machine.timers.countdowns readings } }

theorem afterWaiting_nil (machine : Machine) :
    machine.afterWaiting [] = machine :=
  rfl

theorem afterWaiting_cons (machine : Machine) (now : Float)
    (rest : List Float) :
    machine.afterWaiting (now :: rest) =
      (machine.afterWaiting [now]).afterWaiting rest := by
  simp only [afterWaiting, Timers.tickAll, List.foldl_cons, List.foldl_nil,
    Timers.countdowns, List.length_cons, List.length_nil, Nat.add_zero,
    Nat.zero_add, Nat.add_assoc, Nat.add_comm rest.length]

/-- The word `0xFX0A` is fetched as a wait for a key, which goes to the register
that its second digit names. -/
theorem fetches_awaitKey {machine : Machine} {x : Fin 16}
    (inside : machine.CanFetch)
    (holds : machine.word = 0xF00A + 256 * x.val) :
    machine.Fetches (.awaitKey x.val) := by
  have spells : (Operation.awaitKey x.val).Spells machine.word := by
    refine ⟨_, rfl, ?_, ?_⟩
    · simp [Pattern.Matches]
      omega
    · have second : machine.word / 256 % 16 = x.val := by omega
      simp [Operation.operands, Pattern.operands, second]
  refine ⟨inside, Instruction.decode?_eq_some.mpr ⟨rfl, ?_, ?_, ?_⟩⟩
  · exact Int.natCast_nonneg _
  · omega
  · exact Operation.ofWord_of_spells spells

section Cycles

variable {machine : Machine} {x : Fin 16}
  (fetches : machine.Fetches (.awaitKey x.val)) (now : Float)

include fetches

/-- A cycle that waits is accepted, and all that it leaves is its countdown and
two counts. -/
theorem cycle_of_idle (idle : ∀ key, machine.keypad.isDown key = false) :
    (machine.cycle now).fault = none ∧
      (machine.cycle now).machine = machine.afterWaiting [now] := by
  have none : (machine.advanced now).keypad.firstDown? = none := by
    rw [advanced_eq]
    exact Keypad.firstDown?_of_idle idle
  have waited : (machine.advanced now).execute
      ⟨machine.word, .awaitKey x.val⟩ = _ :=
    congrArg (Step.attempt _) ((machine.advanced now).awaitKey_register x)
  rw [none] at waited
  have accepted : (machine.cycle now).fault = Option.none := by
    rw [cycle_fault_of_fetches now fetches, waited]
    rfl
  refine ⟨accepted, ?_⟩
  rw [cycle_machine_of_fetches now fetches, if_pos accepted, waited]
  simp only [Step.attempt_ok, Step.done, advanced_eq, countInstruction,
    Int.add_sub_cancel]
  rfl

/-- A cycle that finds a key puts it into the register and goes on behind the
word.  It does not count as a wait. -/
theorem cycle_of_pressed {key : Fin 16}
    (found : machine.keypad.firstDown? = some key) :
    (machine.cycle now).fault = none ∧
      (machine.cycle now).machine =
        { machine.tick now with
          registers := machine.registers.set x (UInt8.ofNat key.val)
          pc := machine.pc + 2
          tally.instructions := machine.tally.instructions + 1 } := by
  have pressed : (machine.advanced now).keypad.firstDown? = some key := by
    rw [advanced_eq]
    exact found
  have assigned : (machine.advanced now).execute
      ⟨machine.word, .awaitKey x.val⟩ = _ :=
    congrArg (Step.attempt _) ((machine.advanced now).awaitKey_register x)
  rw [pressed] at assigned
  have accepted : (machine.cycle now).fault = none := by
    rw [cycle_fault_of_fetches now fetches, assigned]
    rfl
  refine ⟨accepted, ?_⟩
  rw [cycle_machine_of_fetches now fetches, if_pos accepted, assigned, tick_eq]
  simp only [Step.attempt_ok, Step.done, advanced_eq, countInstruction]

/-- Any number of cycles that wait are accepted, and leave their countdowns and
their counts. -/
theorem follow_of_idle (idle : ∀ key, machine.keypad.isDown key = false)
    (readings : List Float) :
    (∀ turn ∈ machine.turns (readings.map .cycle), turn.step.fault = none) ∧
      machine.follow (readings.map .cycle) = machine.afterWaiting readings := by
  induction readings generalizing machine with
  | nil => exact ⟨(fun _ present => nomatch present), machine.afterWaiting_nil.symm⟩
  | cons now rest inductionHypothesis =>
      rcases cycle_of_idle fetches now idle with ⟨accepted, waited⟩
      have next : machine.respond (.cycle now) = machine.afterWaiting [now] :=
        waited
      -- Waiting moves neither the program counter nor the memory nor the keys,
      -- so the machine that has waited fetches the same word again.
      have again : (machine.afterWaiting [now]).Fetches (.awaitKey x.val) :=
        fetches
      rcases inductionHypothesis again idle with ⟨laterAccepted, laterWaited⟩
      constructor
      · intro turn present
        rw [List.map_cons, turns, next] at present
        rcases List.mem_cons.mp present with rfl | later
        · exact accepted
        · exact laterAccepted turn later
      · rw [machine.afterWaiting_cons, ← laterWaited, ← next]
        rfl

end Cycles

/-! ## Moving keys -/

/-- However a host moves the keys, and whether or not it is refused, nothing but
the keypad changes. -/
theorem follow_keys (machine : Machine) (moves : List (Int × Bool)) :
    ∃ keypad, machine.follow (moves.map fun move => .key move.1 move.2) =
      { machine with keypad := keypad } := by
  induction moves generalizing machine with
  | nil => exact ⟨machine.keypad, rfl⟩
  | cons move rest inductionHypothesis =>
      rcases machine.respond_key move.1 move.2 with ⟨moved, first⟩
      rcases inductionHypothesis { machine with keypad := moved } with
        ⟨keypad, later⟩
      refine ⟨keypad, ?_⟩
      change (machine.respond (.key move.1 move.2)).follow
        (rest.map fun move => .key move.1 move.2) = _
      rw [first]
      exact later

/-- A reachable machine that has no key down and is about to fetch `0xFX0A` waits
through any number of cycles, at any clock readings.  They all succeed, and leave
the machine as it was, except that the timers have counted down as they do on
their own, and that these cycles were counted as instructions and as waits.
Whatever keys are then moved, if one is down, the next cycle succeeds as well.
It puts the smallest of them into the register and goes on behind the word.  It
is counted as an instruction, but not as a wait. -/
theorem waiting_is_idle {machine : Machine} (reachable : Reachable machine)
    (inside : machine.pc ≤ 4094) {x : Fin 16}
    (holds : machine.word = 0xF00A + 256 * x.val)
    (idle : ∀ key, machine.keypad.isDown key = false) (readings : List Float) :
    let waited := machine.follow (readings.map .cycle)
    (∀ turn ∈ machine.turns (readings.map .cycle), turn.step.fault = none) ∧
      waited =
        { machine with
          timers := machine.timers.tickAll readings
          tally :=
            { machine.tally with
              instructions := machine.tally.instructions + readings.length
              keyWaits := machine.tally.keyWaits + readings.length
              timerTicks := machine.tally.timerTicks +
                machine.timers.countdowns readings } } ∧
      ∀ moves : List (Int × Bool),
        let pressed := waited.follow (moves.map fun move => .key move.1 move.2)
        pressed = { waited with keypad := pressed.keypad } ∧
          ((∃ key, pressed.keypad.isDown key = true) → ∀ now,
            (pressed.cycle now).fault = none ∧
              ∃ key, pressed.keypad.IsFirstDown key ∧
                (pressed.cycle now).machine =
                  { pressed.tick now with
                    registers := machine.registers.set x (UInt8.ofNat key.val)
                    pc := machine.pc + 2
                    tally.instructions := pressed.tally.instructions + 1 }) := by
  intro waited
  have fetches := fetches_awaitKey ⟨reachable.bounded.pc.1, inside⟩ holds
  rcases follow_of_idle fetches idle readings with ⟨accepted, left⟩
  refine ⟨accepted, left, fun moves => ?_⟩
  rcases waited.follow_keys moves with ⟨keypad, moved⟩
  simp only [moved, true_and]
  intro down now
  rcases Keypad.exists_firstDown? down with ⟨key, found, first⟩
  have stays : Fetches { waited with keypad := keypad } (.awaitKey x.val) := by
    rw [show waited = _ from left]
    exact fetches
  rcases cycle_of_pressed stays now found with ⟨faultless, assigned⟩
  refine ⟨faultless, key, first, ?_⟩
  rw [assigned, show waited = _ from left]
  rfl

/-- A program that waits for a key behind its first word. -/
def keyWaiter : Rom where
  bytes := [0x63, 0x07, 0xF3, 0x0A]
  nonempty := by decide
  fits := by decide

/-- That program when it is about to wait. -/
def keyWaiterAtWait : Machine :=
  (boot keyWaiter .superChip (.ofVariant .superChip) 0 0).follow [.cycle 0]

/-- That program after three cycles of waiting, in which the clock goes backwards,
and some moves of keys.  One of these keys does not exist. -/
def keyWaiterAtPress : Machine :=
  (keyWaiterAtWait.follow ([1, 0, 5].map .cycle)).follow
    ([(4, true), (12, true), (99, true), (9, true), (4, false)].map
      fun move => .key move.1 move.2)

/-- The smallest key that is down in the end was not the first to be pressed. -/
theorem keyWaiter_takes_smallest :
    Reachable keyWaiterAtWait ∧ keyWaiterAtWait.pc ≤ 4094 ∧
      keyWaiterAtWait.word = 0xF00A + 256 * (3 : Fin 16).val ∧
      (∀ key, keyWaiterAtWait.keypad.isDown key = false) ∧
      (∃ key, keyWaiterAtPress.keypad.isDown key = true) ∧
      (keyWaiterAtPress.cycle 6).fault = none ∧
      (keyWaiterAtPress.cycle 6).machine.pc = keyWaiterAtWait.pc + 2 ∧
      (keyWaiterAtPress.cycle 6).machine.registers.get 3 = 9 := by
  have reachable : Reachable keyWaiterAtWait :=
    ⟨_, _, loaded_boot keyWaiter .superChip 0 0, rfl⟩
  have observed : keyWaiterAtWait.pc ≤ 4094 ∧
      keyWaiterAtWait.word = 0xF00A + 256 * (3 : Fin 16).val ∧
      (∀ key, keyWaiterAtWait.keypad.isDown key = false) ∧
      keyWaiterAtPress.keypad.IsFirstDown 9 := by
    decide +kernel
  rcases observed with ⟨inside, holds, idle, smallest⟩
  have resumes := (waiting_is_idle reachable inside holds idle [1, 0, 5]).2.2
    [(4, true), (12, true), (99, true), (9, true), (4, false)]
  have pressed : ∃ key, keyWaiterAtPress.keypad.isDown key = true :=
    ⟨9, smallest.1⟩
  rcases resumes.2 pressed 6 with ⟨accepted, key, first, assigned⟩
  have key_eq : key = 9 := first.unique smallest
  subst key_eq
  have stored : (keyWaiterAtPress.cycle 6).machine = _ := assigned
  refine ⟨reachable, inside, holds, idle, pressed, accepted, ?_, ?_⟩
  · rw [stored]
  · rw [stored]
    exact Registers.get_set_same _ _ _

end Machine

end ChipEight
