import ChipEight.Proofs.Returns
import Mathlib.Data.List.Infix

namespace ChipEight

/-!
# Nested calls

Between a call and the return from it, a subroutine may call others, return
from them, fail and change the program.  The addresses that were on the stack
when the subroutine was entered are out of reach all this time: a push only adds
on top, a failed push and a failed cycle add nothing, and a pop takes one of
them only if the stack becomes less deep than it was on entry.  So the return
that finds the depth of the entry leads behind the call, and leaves the stack of
the caller.

This is not the statement about single returns, whose address may come from any
earlier call.  Here the call is fixed, and what must be carried through the run
is the whole lower part of the stack.
-/

namespace CallStack

variable {stack pushed older : CallStack} {newest : UInt16} {base : List UInt16}

/-- A pop that leaves at least as many addresses as lay at the bottom leaves
those. -/
theorem suffix_of_pop (popped : stack.pop = .ok (newest, older))
    (kept : base <:+ stack.newestFirst) (deep : base.length ≤ older.depth) :
    base <:+ older.newestFirst := by
  rw [(content_of_pop popped).1] at kept
  rcases List.suffix_cons_iff.mp kept with whole | below
  · have longer : base.length = older.depth + 1 := by
      rw [whole, List.length_cons, depth]
    omega
  · exact below

end CallStack

namespace Machine

/-- Throughout a history, the stack is at least so deep. -/
def StaysDeep (machine : Machine) (depth : Nat) (events : List Event) : Prop :=
  ∀ earlier, earlier <+: events → depth ≤ (machine.follow earlier).stack.depth

section Kept

variable {machine : Machine} (bounded : machine.Bounded) {base : List UInt16}
  (kept : base <:+ machine.stack.newestFirst)

include bounded kept

/-- An effect keeps the addresses at the bottom of the stack, unless it leaves
fewer. -/
theorem effect_keeps {operation : Operation} {after : Machine}
    (effect : machine.Effect operation after)
    (deep : base.length ≤ after.stack.depth) :
    base <:+ after.stack.newestFirst := by
  cases effect with
  | contents | indexed | moved | waited | delayed | sounded => exact kept
  | @called _ _ stack pushed _ =>
      rcases content_of_push_pc bounded pushed with ⟨_, entry, _, content⟩
      change base <:+ stack.newestFirst
      rw [content]
      exact kept.trans (List.suffix_cons entry _)
  | stranded popped _ | returned popped _ _ =>
      exact CallStack.suffix_of_pop popped kept deep

theorem cycle_keeps (now : Float)
    (deep : base.length ≤ (machine.cycle now).machine.stack.depth) :
    base <:+ (machine.cycle now).machine.stack.newestFirst := by
  rcases machine.fetch_cases with
    outside | ⟨inside, rejected⟩ | ⟨operation, fetches⟩
  · rw [machine.cycle_of_unfetched now outside, tick_eq]
    exact kept
  · rw [machine.cycle_of_undecoded now inside rejected, advanced_eq]
    exact kept
  · have advancedKept : base <:+ (machine.advanced now).stack.newestFirst := by
      rw [advanced_eq]
      exact kept
    have executed := effect_keeps (advanced_bounded bounded now fetches.1)
      advancedKept (execute_effect _ machine.word fetches.fitsWord)
    have sameStack := cycle_part_of_fetches now fetches Machine.stack fun _ => rfl
    rw [sameStack] at deep ⊢
    exact executed deep

theorem respond_keeps (event : Event)
    (deep : base.length ≤ (machine.respond event).stack.depth) :
    base <:+ (machine.respond event).stack.newestFirst := by
  cases event with
  | cycle now => exact cycle_keeps bounded kept now deep
  | key number pressed =>
      rcases machine.respond_key number pressed with ⟨keypad, moved⟩
      rw [moved]
      exact kept

/-- A history in which the stack stays as deep as a list of addresses at its
bottom keeps that list there. -/
theorem follow_keeps (events : List Event)
    (deep : machine.StaysDeep base.length events) :
    base <:+ (machine.follow events).stack.newestFirst := by
  -- The last event is taken off, because depth is known after every prefix.
  induction events using List.reverseRecOn with
  | nil => exact kept
  | append_singleton events last inductionHypothesis =>
      have earlierDeep : machine.StaysDeep base.length events :=
        fun earlier inside =>
          deep earlier (inside.trans (List.prefix_append events [last]))
      have before := inductionHypothesis earlierDeep
      have beforeBounded : (machine.follow events).Bounded :=
        follow_induction bounded
          (fun _ event bounded => respond_bounded bounded event) events
      have lastDeep := deep (events ++ [last]) (List.prefix_refl _)
      rw [follow_concat] at lastDeep ⊢
      exact respond_keeps beforeBounded before last lastDeep

end Kept

/-- A call with a target and a slot left is accepted, and puts the address
behind it on top of the stack. -/
theorem cycle_call {machine : Machine} (bounded : machine.Bounded)
    {address : Int} (fetches : machine.Fetches (.call address))
    (target : address ≤ 0xFFE) (room : machine.stack.depth < stackSlots)
    (now : Float) :
    (machine.cycle now).fault = none ∧
      ∃ entry : UInt16, (entry.toNat : Int) = machine.pc + 2 ∧
        (machine.cycle now).machine.stack.newestFirst =
          entry :: machine.stack.newestFirst := by
  have natural : 0 ≤ address := fetches.fitsWord.address.1
  have advancedBounded := advanced_bounded bounded now fetches.1
  have sameStack : (machine.advanced now).stack = machine.stack := by
    rw [advanced_eq]
  have slotLeft :
      (machine.advanced now).stack.depth < (machine.advanced now).stack.capacity := by
    rw [sameStack, bounded.capacity]
    exact room
  have pushed := CallStack.push_of_room slotLeft (pc_holds advancedBounded)
  rcases content_of_push_pc advancedBounded pushed with
    ⟨_, entry, behind, content⟩
  have executed : (machine.advanced now).execute ⟨machine.word, .call address⟩ =
      Step.attempt (machine.advanced now)
        ((machine.advanced now).call address) := rfl
  rw [call_eq, if_pos ⟨natural, by omega⟩, pushed] at executed
  have accepted : (machine.cycle now).fault = none := by
    rw [cycle_fault_of_fetches now fetches, executed]
    rfl
  refine ⟨accepted, entry, behind, ?_⟩
  rw [cycle_part_of_fetches now fetches Machine.stack fun _ => rfl, executed,
    ← sameStack]
  exact content

/-- A call in front of the last word of memory that finds a target and a slot is
accepted.  After any further history in which the stack never becomes less deep
than on entry, the return that is executed at the depth of the entry succeeds,
leads behind the call and leaves the stack of the caller, entry by entry. -/
theorem return_after_nested_run {caller : Machine}
    (reachable : Reachable caller) {address : Int}
    (fetches : caller.Fetches (.call address)) (target : address ≤ 0xFFE)
    (room : caller.stack.depth ≤ 15) (inFront : caller.pc ≤ 0xFFC)
    (callTime : Float) :
    let entered := (caller.cycle callTime).machine
    (caller.cycle callTime).fault = none ∧
      entered.stack.depth = caller.stack.depth + 1 ∧
      ∀ events, entered.StaysDeep (caller.stack.depth + 1) events →
        let returning := entered.follow events
        returning.Fetches .returnFromCall →
          returning.stack.depth = caller.stack.depth + 1 →
            ∀ now, (returning.cycle now).ReturnsTo (caller.pc + 2) caller.stack := by
  intro entered
  have bounded := reachable.bounded
  rcases cycle_call bounded fetches target (Nat.lt_succ_of_le room) callTime with
    ⟨accepted, entry, behind, content⟩
  have depth : entered.stack.depth = caller.stack.depth + 1 :=
    congrArg List.length content
  refine ⟨accepted, depth, ?_⟩
  intro events deep returning returnFetched sameDepth now
  have enteredBounded : entered.Bounded := cycle_bounded bounded callTime
  have returningBounded : returning.Bounded :=
    follow_induction enteredBounded
      (fun _ event bounded => respond_bounded bounded event) events
  -- What lies at the bottom is the whole stack of the entry, so at its depth
  -- there is nothing else.
  have kept : entry :: caller.stack.newestFirst <:+
      returning.stack.newestFirst :=
    follow_keeps enteredBounded (content ▸ List.suffix_refl _) events deep
  have whole : returning.stack.newestFirst =
      entry :: caller.stack.newestFirst :=
    (kept.eq_of_length sameDepth.symm).symm
  rcases returning.stack.pop_of_nonempty whole with
    ⟨older, popped, olderContent, olderCapacity⟩
  have olderStack : older = caller.stack := by
    apply CallStack.ext
    · rw [olderCapacity, returningBounded.capacity, bounded.capacity]
    · exact olderContent
  have landed : entry.toNat ≤ 4094 := by
    omega
  rw [← behind, ← olderStack]
  exact (cycle_return popped now returnFetched).1 landed

/-- A program whose subroutine starts with a word that stands for nothing.  It
goes on by turning its own last word into a return, and calls that word.  So the
last word is executed twice, for the inner call first and then for the outer. -/
def nestedCaller : Rom where
  bytes := [0x22, 0x04, 0x12, 0x02, 0xFF, 0xFF, 0xA2, 0x0C, 0xF0, 0x55, 0x22, 0x0C,
    0xFF, 0xEE]
  nonempty := by decide
  fits := by decide

/-- What happens to that program between its first call and the return from
it. -/
def nestedRun : List Event :=
  [.cycle 1, .cycle 2, .cycle 3, .key 99 true, .cycle 4, .cycle 5]

theorem return_after_failed_and_nested_call :
    let caller := boot nestedCaller .chipEight (.ofVariant .chipEight) 0 0
    let entered := (caller.cycle 0).machine
    (entered.cycle 1).fault ≠ none ∧
      ((entered.follow nestedRun).cycle 6).ReturnsTo 514 caller.stack := by
  intro caller entered
  have reachable : Reachable caller :=
    (loaded_boot nestedCaller .chipEight 0 0).reachable
  -- One evaluation of the run shows all that the general law asks for.
  have observed : caller.Fetches (.call 0x204) ∧ (entered.cycle 1).fault ≠ none ∧
      (∀ earlier ∈ nestedRun.inits, 1 ≤ (entered.follow earlier).stack.depth) ∧
        (entered.follow nestedRun).Fetches .returnFromCall ∧
          (entered.follow nestedRun).stack.depth = 1 := by
    decide +kernel
  rcases observed with ⟨fetches, failed, depths, returning, depth⟩
  have deep : entered.StaysDeep 1 nestedRun :=
    fun earlier inside => depths earlier ((List.mem_inits earlier nestedRun).mpr inside)
  have law := return_after_nested_run reachable fetches (by decide) (by decide)
    (by decide) 0
  exact ⟨failed, law.2.2 nestedRun deep returning depth 6⟩

end Machine

end ChipEight
