import ChipEight.Proofs.Atomicity
import ChipEight.Proofs.Bounds
import Mathlib.Data.List.Induction

namespace ChipEight

/-!
# Where returns lead

A call pushes the address behind its own word, so every address on the stack
tells where a call was fetched in the past.  A call may be fetched from the last
word of memory, or from the bytes that overlap it.  Its target is checked, but
the address behind it is not, and there is no room for an instruction there.
The machine refuses the return from such a call, and only from such a call.

The origin of an address is a statement about the whole history.  It is proved
by taking the last event off, because an event only adds the address of its own
call to the stack that the earlier events left.
-/

/-- The step is a return to an address, and leaves a given stack. -/
structure Step.ReturnsTo (step : Step) (address : Int) (older : CallStack) :
    Prop where
  accepted : step.fault = none
  pc : step.machine.pc = address
  stack : step.machine.stack = older

namespace Machine

/-- The cycle executes a call that is to return to an address. -/
structure CallsFrom (machine : Machine) (now : Float) (entry : UInt16) : Prop where
  fetches : ∃ address, machine.Fetches (.call address)
  accepted : (machine.cycle now).fault = none
  behind : (entry.toNat : Int) = machine.pc + 2

/-! ## The origin of an address -/

section Origin

variable {machine : Machine}

/-- An effect leaves only addresses that were on the stack, or pushes the
program counter for a call. -/
theorem effect_entries (bounded : machine.Bounded) {operation : Operation}
    {after : Machine} (effect : machine.Effect operation after)
    {entry : UInt16} (present : entry ∈ after.stack.newestFirst) :
    entry ∈ machine.stack.newestFirst ∨
      (∃ address, operation = .call address) ∧
        (entry.toNat : Int) = machine.pc := by
  cases effect with
  | contents | indexed | moved | waited | delayed | sounded =>
      exact Or.inl present
  | @called address _ stack pushed _ =>
      rcases content_of_push_pc bounded pushed with ⟨_, newest, value, content⟩
      change entry ∈ stack.newestFirst at present
      rw [content] at present
      rcases List.mem_cons.mp present with rfl | older
      · exact Or.inr ⟨⟨address, rfl⟩, value⟩
      · exact Or.inl older
  | stranded popped _ | returned popped _ _ =>
      left
      rw [(CallStack.content_of_pop popped).1]
      exact List.mem_cons_of_mem _ present

/-- A refused cycle puts nothing on the stack. -/
theorem cycle_refused_entries {now : Float}
    (refused : (machine.cycle now).fault ≠ none) {entry : UInt16}
    (present : entry ∈ (machine.cycle now).machine.stack.newestFirst) :
    entry ∈ machine.stack.newestFirst := by
  rcases cycle_refused refused with
    ⟨_, left⟩ | ⟨_, left⟩ | ⟨_, newest, older, popped, _, left⟩
  · rw [left, tick_eq] at present
    exact present
  · rw [left, advanced_eq] at present
    exact present
  · rw [left] at present
    rw [(CallStack.content_of_pop popped).1]
    exact List.mem_cons_of_mem newest present

/-- A cycle leaves only addresses that were on the stack, or the one of its own
call. -/
theorem cycle_entries (bounded : machine.Bounded) {now : Float} {entry : UInt16}
    (present : entry ∈ (machine.cycle now).machine.stack.newestFirst) :
    entry ∈ machine.stack.newestFirst ∨ machine.CallsFrom now entry := by
  by_cases accepted : (machine.cycle now).fault = none
  · rcases fetches_of_accepted accepted with ⟨operation, fetches⟩
    rw [cycle_machine_of_fetches now fetches, if_pos accepted] at present
    have origin := effect_entries (advanced_bounded bounded now fetches.1)
      (execute_effect _ machine.word fetches.fitsWord) present
    rcases origin with older | ⟨⟨address, rfl⟩, value⟩
    · rw [advanced_eq] at older
      exact Or.inl older
    · exact Or.inr ⟨⟨address, fetches⟩, accepted, value⟩
  · exact Or.inl (cycle_refused_entries accepted present)

/-- Every address on the stack was pushed by a call that some cycle of the
history executed. -/
theorem entry_origin {start : Machine} (loaded : Loaded start)
    (events : List Event) {entry : UInt16}
    (present : entry ∈ (start.follow events).stack.newestFirst) :
    ∃ earlier now later, events = earlier ++ .cycle now :: later ∧
      (start.follow earlier).CallsFrom now entry := by
  induction events using List.reverseRecOn with
  | nil =>
      rcases loaded_iff.mp loaded with ⟨rom, variant, overrides, seed, now, _, rfl⟩
      contradiction
  | append_singleton events last inductionHypothesis =>
      have bounded : (start.follow events).Bounded :=
        Reachable.bounded ⟨start, events, loaded, rfl⟩
      have earlierOrigin : entry ∈ (start.follow events).stack.newestFirst →
          ∃ earlier now later,
            events ++ [last] = earlier ++ .cycle now :: later ∧
              (start.follow earlier).CallsFrom now entry := by
        intro older
        rcases inductionHypothesis older with ⟨earlier, now, later, split, calls⟩
        refine ⟨earlier, now, later ++ [last], ?_, calls⟩
        rw [split, List.append_assoc, List.cons_append]
      rw [follow_concat] at present
      cases last with
      | cycle now =>
          rcases cycle_entries bounded present with older | calls
          · exact earlierOrigin older
          · exact ⟨events, now, [], rfl, calls⟩
      | key number pressed =>
          rcases (start.follow events).respond_key number pressed with
            ⟨keypad, moved⟩
          rw [moved] at present
          exact earlierOrigin present

end Origin

/-! ## The outcome of a return -/

section Outcome

variable {machine : Machine} {newest : UInt16} {older : CallStack}
  (popped : machine.stack.pop = .ok (newest, older))

include popped

theorem execute_return (word : Int) :
    (newest.toNat ≤ 4094 →
      (machine.execute ⟨word, .returnFromCall⟩).ReturnsTo newest.toNat older) ∧
      (4094 < newest.toNat →
        (machine.execute ⟨word, .returnFromCall⟩).fault =
          some (.unmapped newest.toNat 2)) := by
  have same : machine.execute ⟨word, .returnFromCall⟩ = machine.returnFromCall :=
    rfl
  rw [same, machine.returnFromCall_of_popped popped]
  constructor
  · intro room
    rw [if_pos room]
    exact ⟨rfl, rfl, rfl⟩
  · intro beyond
    rw [if_neg (Nat.not_le.mpr beyond)]
    rfl

theorem cycle_return (now : Float) (fetches : machine.Fetches .returnFromCall) :
    (newest.toNat ≤ 4094 →
      (machine.cycle now).ReturnsTo newest.toNat older) ∧
      (4094 < newest.toNat →
        (machine.cycle now).fault = some (.unmapped newest.toNat 2)) := by
  have sameStack : (machine.advanced now).stack = machine.stack := by
    rw [advanced_eq]
  have advancedPopped :
      (machine.advanced now).stack.pop = .ok (newest, older) := by
    rw [sameStack]
    exact popped
  have executed := execute_return advancedPopped machine.word
  have failsAlike := cycle_fault_of_fetches now fetches
  constructor
  · intro room
    have returns := executed.1 room
    have accepted : (machine.cycle now).fault = none :=
      failsAlike.trans returns.accepted
    have left := cycle_machine_of_fetches now fetches
    rw [if_pos accepted] at left
    refine ⟨accepted, ?_, ?_⟩
    · rw [left]
      exact returns.pc
    · rw [left]
      exact returns.stack
  · intro beyond
    exact failsAlike.trans (executed.2 beyond)

end Outcome

/-- A return from any call that was fetched in front of the last word leads
back behind it, after whatever history.  The call is the one that some earlier
cycle executed, and the only calls that cannot be returned from are those that
were fetched from one of the last two places. -/
theorem return_leads_behind_call {start : Machine} (loaded : Loaded start)
    (events : List Event) {newest : UInt16} {older : CallStack}
    (popped : (start.follow events).stack.pop = .ok (newest, older)) :
    ∃ earlier callTime later, events = earlier ++ .cycle callTime :: later ∧
      let caller := start.follow earlier
      let machine := start.follow events
      caller.CallsFrom callTime newest ∧
        (caller.pc ≤ 0xFFC →
          (∀ word, (machine.execute ⟨word, .returnFromCall⟩).ReturnsTo
              newest.toNat older) ∧
            ∀ now, machine.Fetches .returnFromCall →
              (machine.cycle now).ReturnsTo newest.toNat older) ∧
        (0xFFC < caller.pc →
          (caller.pc = 0xFFD ∨ caller.pc = 0xFFE) ∧
            (∀ word, (machine.execute ⟨word, .returnFromCall⟩).fault =
              some (.unmapped (caller.pc + 2) 2)) ∧
            ∀ now, machine.Fetches .returnFromCall →
              (machine.cycle now).fault =
                some (.unmapped (caller.pc + 2) 2)) := by
  have content := (CallStack.content_of_pop popped).1
  have present : newest ∈ (start.follow events).stack.newestFirst := by
    rw [content]
    exact List.mem_cons_self
  rcases entry_origin loaded events present with
    ⟨earlier, callTime, later, split, calls⟩
  refine ⟨earlier, callTime, later, split, calls, ?_, ?_⟩
  · intro inFront
    have room : newest.toNat ≤ 4094 := by
      have behind := calls.behind
      omega
    exact ⟨fun word => (execute_return popped word).1 room,
      fun now fetches => (cycle_return popped now fetches).1 room⟩
  · intro last
    have beyond : 4094 < newest.toNat := by
      have behind := calls.behind
      omega
    have place : (start.follow earlier).pc = 0xFFD ∨
        (start.follow earlier).pc = 0xFFE := by
      rcases calls.fetches with ⟨address, fetches⟩
      have room := fetches.1.2
      omega
    rw [← calls.behind]
    exact ⟨place, fun word => (execute_return popped word).2 beyond,
      fun now fetches => (cycle_return popped now fetches).2 beyond⟩

/-- A program that writes a call into the last word of memory and jumps there.
The subroutine that it calls is the return behind the program itself. -/
def lastWordCaller : Rom where
  bytes := [0xAF, 0xFE, 0x60, 0x22, 0x61, 0x0A, 0xF1, 0x55, 0x1F, 0xFE, 0x00, 0xEE]
  nonempty := by decide
  fits := by decide

/-- That program in the subroutine that the last word of memory called. -/
def calledFromLastWord : Machine :=
  (boot lastWordCaller .chipEight (.ofVariant .chipEight) 0 0).follow
    (List.replicate 6 (.cycle 0))

/-- A return from a call in the last word of memory is refused, although the
call was accepted. -/
theorem return_to_end_of_memory_refused :
    Reachable calledFromLastWord ∧ calledFromLastWord.stack.depth = 1 ∧
      calledFromLastWord.Fetches .returnFromCall ∧
      (calledFromLastWord.cycle 0).fault = some (.unmapped 4096 2) := by
  refine ⟨⟨_, _, loaded_boot lastWordCaller .chipEight 0 0, rfl⟩, ?_⟩
  decide +kernel

/-- A program that calls the return behind its first word. -/
def firstWordCaller : Rom where
  bytes := [0x22, 0x02, 0x00, 0xEE]
  nonempty := by decide
  fits := by decide

/-- That program in its subroutine. -/
def calledFromFirstWord : Machine :=
  (boot firstWordCaller .chipEight (.ofVariant .chipEight) 0 0).follow [.cycle 0]

theorem return_behind_first_word :
    ∃ older, calledFromFirstWord.stack.pop = .ok (514, older) ∧
      (calledFromFirstWord.cycle 1).ReturnsTo 514 older := by
  have called : calledFromFirstWord.stack.newestFirst = [514] ∧
      calledFromFirstWord.Fetches .returnFromCall := by
    decide +kernel
  rcases calledFromFirstWord.stack.pop_of_nonempty called.1 with
    ⟨older, popped, _, _⟩
  rcases return_leads_behind_call
      (loaded_boot firstWordCaller .chipEight 0 0) [.cycle 0] popped with
    ⟨earlier, callTime, later, _, calls, returns, _⟩
  refine ⟨older, popped, (returns ?_).2 1 called.2⟩
  have behind := calls.behind
  change (514 : Int) = _ at behind
  omega

end Machine

end ChipEight
