import ChipEight.Proofs.Counters
import ChipEight.Proofs.CycleFaults

namespace ChipEight

/-!
# How a run ends

A run makes cycles until it has made as many as were asked for, or until one
fails.  Cycles can also be made without an end, one after another and whether or
not they fail.  A run is shown to make a beginning of these: either all of the
number that was asked for, and none fails, or those up to the first that fails.

The number of the cycles that a run completes is also the number of instructions
that it counts, and a run from a reachable machine only ends with a fault that
can stop a program.
-/

namespace Run

variable {run : Run} (readings : Nat → Float) (position count : Nat)

theorem continueFor_succ (going : run.fault = none) :
    run.continueFor readings position (count + 1) =
      (run.extend (readings position)).continueFor readings (position + 1)
        count := by
  rw [continueFor, going]

/-- A run that has failed does not go on. -/
theorem continueFor_of_failed {fault : Fault} (failed : run.fault = some fault) :
    run.continueFor readings position count = run := by
  cases count with
  | zero => rfl
  | succ count => rw [continueFor, failed]

/-- A run does not depend on how its clock readings are numbered. -/
theorem continueFor_shift (run : Run) (offset : Nat) :
    run.continueFor (fun number => readings (number + offset)) position count =
      run.continueFor readings (position + offset) count := by
  induction count generalizing run position with
  | zero => rfl
  | succ count inductionHypothesis =>
      simp only [continueFor, inductionHypothesis, Nat.add_right_comm]

end Run

namespace Machine

variable {machine : Machine} {readings : Nat → Float}

/-- The state that a number of cycles leave, whether or not they fail.  The clock
readings are numbered like the cycles. -/
def afterCycles (machine : Machine) (readings : Nat → Float) : Nat → Machine
  | 0 => machine
  | count + 1 =>
      ((machine.afterCycles readings count).cycle (readings count)).machine

/-- The cycle with a number, behind all those before it. -/
def nthCycle (machine : Machine) (readings : Nat → Float) (number : Nat) : Step :=
  (machine.afterCycles readings number).cycle (readings number)

/-- None of the first cycles fails. -/
def Completes (machine : Machine) (readings : Nat → Float) (count : Nat) :
    Prop :=
  ∀ number < count, (machine.nthCycle readings number).fault = none

theorem completes_zero : machine.Completes readings 0 :=
  fun _ early => absurd early (Nat.not_lt_zero _)

theorem Completes.succ {count : Nat}
    (complete : machine.Completes readings count)
    (accepted : (machine.nthCycle readings count).fault = none) :
    machine.Completes readings (count + 1) := by
  intro number early
  rcases Nat.lt_succ_iff_lt_or_eq.mp early with before | rfl
  · exact complete number before
  · exact accepted

theorem Completes.of_succ {count : Nat}
    (complete : machine.Completes readings (count + 1)) :
    machine.Completes readings count :=
  fun number early => complete number (Nat.lt_succ_of_lt early)

/-- A cycle counts as one instruction if it succeeds, and as none otherwise. -/
theorem nthCycle_instructions (machine : Machine) (readings : Nat → Float)
    (number : Nat) :
    (machine.nthCycle readings number).machine.tally.instructions =
      (machine.afterCycles readings number).tally.instructions +
        if (machine.nthCycle readings number).fault = none then 1 else 0 := by
  have counted := Counter.instructions.value_step
    ⟨machine.afterCycles readings number, readings number⟩
  simp only [Counter.counts, decide_eq_true_eq] at counted
  exact counted

/-- Cycles that are completed count as instructions. -/
theorem Completes.instructions {count : Nat}
    (complete : machine.Completes readings count) :
    (machine.afterCycles readings count).tally.instructions =
      machine.tally.instructions + count := by
  induction count with
  | zero => rfl
  | succ count inductionHypothesis =>
      have accepted := complete count (Nat.lt_succ_self count)
      have counted := nthCycle_instructions machine readings count
      rw [if_pos accepted, inductionHypothesis complete.of_succ] at counted
      exact counted

theorem Reachable.afterCycles (reachable : Reachable machine)
    (readings : Nat → Float) (count : Nat) :
    Reachable (machine.afterCycles readings count) := by
  induction count with
  | zero => exact reachable
  | succ count inductionHypothesis =>
      exact inductionHypothesis.respond (.cycle (readings count))

/-! ## The end of a run -/

/-- A run ends after a number of completed cycles: either because it was limited
to them, or because the next one fails. -/
inductive EndsAfter (machine : Machine) (readings : Nat → Float) (limit : Nat)
    (run : Run) (completed : Nat) : Prop where
  | finished (complete : machine.Completes readings completed)
      (all : completed = limit) (faultless : run.fault = none)
      (left : run.machine = machine.afterCycles readings completed)
  | stopped (complete : machine.Completes readings completed)
      (early : completed < limit) (fault : Fault)
      (failed : (machine.nthCycle readings completed).fault = some fault)
      (same : run.fault = some fault)
      (left : run.machine = (machine.nthCycle readings completed).machine)

/-- A run that has completed some cycles goes on from there until the remaining
ones are completed as well, or until one of them fails. -/
theorem continueFor_endsAfter {run : Run} {position : Nat}
    (going : run.fault = none)
    (reached : run.machine = machine.afterCycles readings position)
    (complete : machine.Completes readings position) (count : Nat) :
    ∃ completed, machine.EndsAfter readings (position + count)
      (run.continueFor readings position count) completed := by
  induction count generalizing run position with
  | zero => exact ⟨position, .finished complete rfl going reached⟩
  | succ count inductionHypothesis =>
      let next := run.extend (readings position)
      have step : next.machine = (machine.nthCycle readings position).machine ∧
          next.fault = (machine.nthCycle readings position).fault := by
        simp only [next, Run.extend, reached]
        exact ⟨rfl, rfl⟩
      rw [Run.continueFor_succ readings position count going]
      cases outcome : (machine.nthCycle readings position).fault with
      | none =>
          rw [← Nat.add_assoc, Nat.add_right_comm]
          exact inductionHypothesis (step.2.trans outcome) step.1
            (complete.succ outcome)
      | some fault =>
          have failed : next.fault = some fault := step.2.trans outcome
          rw [Run.continueFor_of_failed readings (position + 1) count failed]
          exact ⟨position, .stopped complete (by omega) fault outcome failed step.1⟩

/-- A run ends after all its cycles or at the first that fails. -/
theorem run_endsAfter (machine : Machine) (readings : Nat → Float)
    (count : Int) :
    ∃ completed, machine.EndsAfter readings count.toNat
      (machine.run readings count) completed := by
  have going : (Run.start machine).fault = none := rfl
  have reached : (Run.start machine).machine = machine.afterCycles readings 0 :=
    rfl
  rw [← Nat.zero_add count.toNat]
  exact continueFor_endsAfter going reached completes_zero count.toNat

section End

variable {limit completed : Nat} {run : Run}
  (ends : machine.EndsAfter readings limit run completed)

include ends

/-- A run counts the cycles that it completes as instructions. -/
theorem EndsAfter.instructions :
    run.machine.tally.instructions = machine.tally.instructions + completed := by
  cases ends with
  | finished complete all faultless left =>
      rw [left, complete.instructions]
  | stopped complete early fault failed same left =>
      rw [left, nthCycle_instructions, complete.instructions, failed]
      rfl

/-- A run that ends without a fault has completed all its cycles. -/
theorem EndsAfter.all_of_faultless (faultless : run.fault = none) :
    completed = limit := by
  cases ends with
  | finished complete all _ left => exact all
  | stopped complete early fault failed same left =>
      rw [faultless] at same
      contradiction

/-- A run from a reachable machine only ends with a fault of a program. -/
theorem EndsAfter.stopsPrograms (reachable : Reachable machine) {fault : Fault}
    (failed : run.fault = some fault) : fault.stopsPrograms = true := by
  cases ends with
  | finished complete all faultless left =>
      rw [faultless] at failed
      contradiction
  | stopped complete early found stopping same left =>
      cases same.symm.trans failed
      exact (reachable.afterCycles readings completed).bounded.cycle_stops
        stopping

end End

end Machine

end ChipEight
