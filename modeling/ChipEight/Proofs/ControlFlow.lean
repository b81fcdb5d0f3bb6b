import ChipEight.Proofs.Counters
import ChipEight.Proofs.CycleFaults

namespace ChipEight

/-!
# Where a cycle goes on

The program counter moves in several places: behind the word that was fetched,
once more behind the word that is skipped, back to a word that waits for a key,
and to the target of a jump, a call or a return.  Each of these moves is relative
to a counter that was already moved.  The table `successor?` gives the result of
all of them together, relative to the place of the fetch and to the registers, the
keys and the stack before the cycle.  The step lemmas compare it with the counter
that an execution leaves.
-/

namespace Machine

/-- Where the machine goes on behind an operation that it fetched at a place.  A
return goes nowhere if the stack is empty. -/
def successor? (machine : Machine) (place : Int) : Operation → Option Int
  | .jump address | .call address => some address
  | .jumpOffset address =>
      some (address + (machine.registers.get offsetRegister).toNat)
  | .returnFromCall =>
      machine.stack.newestFirst.head?.map fun entry => (entry.toNat : Int)
  | .awaitKey _ =>
      some (if ∀ key, machine.keypad.isDown key = false then place
        else place + 2)
  | operation => some (if machine.skips operation then place + 4 else place + 2)

/-! ## The moves -/

section Moves

variable {machine after : Machine}

/-- An attempt that is accepted arrives where its result is. -/
theorem attempt_arrives {result : Except Fault Machine} {target : Int}
    (arrives : ∀ after, result = .ok after → after.pc = target)
    (accepted : (Step.attempt machine result).fault = none) :
    (Step.attempt machine result).machine.pc = target := by
  cases result with
  | ok after => exact arrives after rfl
  | error fault => exact nomatch accepted

theorem continueAt_pc {address : Int}
    (accepted : machine.continueAt address = .ok after) :
    after.pc = address := by
  rw [continueAt_eq] at accepted
  split at accepted
  · cases accepted
    rfl
  · contradiction

theorem jump_pc {address : Int} (accepted : machine.jump address = .ok after) :
    after.pc = address := by
  rcases accepted_map accepted with ⟨moved, continued, rfl⟩
  have arrived : moved.pc = address := continueAt_pc continued
  exact arrived

theorem call_pc {address : Int} (accepted : machine.call address = .ok after) :
    after.pc = address := by
  rw [call_eq] at accepted
  split at accepted
  · rcases accepted_map accepted with ⟨stack, _, rfl⟩
    rfl
  · contradiction

/-- A return that is accepted arrives at the top of the stack. -/
theorem returnFromCall_pc (accepted : machine.returnFromCall.fault = none) :
    machine.stack.newestFirst.head?.map (fun entry => (entry.toNat : Int)) =
      some machine.returnFromCall.machine.pc := by
  cases popped : machine.stack.pop with
  | error fault =>
      rw [returnFromCall, popped] at accepted
      contradiction
  | ok content =>
      rcases content with ⟨newest, older⟩
      rw [machine.returnFromCall_of_popped popped] at accepted ⊢
      rw [(CallStack.content_of_pop popped).1]
      split at accepted
      · rename_i room
        rw [if_pos room]
        rfl
      · contradiction

/-- Waiting goes back to the word that was fetched. -/
theorem awaitKey_pc {x : Int} (accepted : machine.awaitKey x = .ok after) :
    after.pc =
      if ∀ key, machine.keypad.isDown key = false then machine.pc - 2
      else machine.pc := by
  have idle := machine.keypad.isNone_firstDown?
  unfold awaitKey at accepted
  split at accepted
  · rename_i key found
    rw [found] at idle
    rcases accepted_map accepted with ⟨content, _, rfl⟩
    rw [if_neg (of_decide_eq_false idle.symm)]
  · rename_i found
    rw [found] at idle
    cases accepted
    rw [if_pos (of_decide_eq_true idle.symm)]

theorem skipIf_pc {condition : Bool}
    (accepted : machine.skipIf condition = .ok after) :
    after.pc = if condition then machine.pc + 2 else machine.pc := by
  cases condition with
  | true => exact continueAt_pc accepted
  | false =>
      cases accepted
      rfl

theorem skipOn_pc {x : Fin 16} {condition : UInt8 → Bool}
    (accepted : machine.skipOn x.val condition = .ok after) :
    after.pc =
      if condition (machine.registers.content x.val) then machine.pc + 2
      else machine.pc := by
  rw [skipOn_register] at accepted
  rw [Registers.content_register]
  exact skipIf_pc accepted

theorem skipOnPair_pc {x y : Fin 16} {condition : UInt8 → UInt8 → Bool}
    (accepted : machine.skipOnPair x.val y.val condition = .ok after) :
    after.pc =
      if condition (machine.registers.content x.val)
          (machine.registers.content y.val) then machine.pc + 2
      else machine.pc := by
  rw [skipOnPair_register] at accepted
  rw [Registers.content_register, Registers.content_register]
  exact skipIf_pc accepted

end Moves

/-! ## One execution -/

section Executions

variable {machine : Machine} {operation : Operation}

/-- An operation that does not write the program counter goes on behind its
word. -/
theorem execute_pc_of_unwritten (word : Int) {place : Int}
    (behind : machine.pc = place + 2)
    (unwritten : Part.pc ∉ operation.writes) :
    machine.successor? place operation =
      some (machine.execute ⟨word, operation⟩).machine.pc := by
  have kept : (machine.execute ⟨word, operation⟩).machine.pc = machine.pc :=
    machine.execute_frame ⟨word, operation⟩ .pc unwritten
  rw [kept, behind]
  cases operation with
  | jump _ | jumpOffset _ | call _ | returnFromCall | awaitKey _
  | skipIfEqual _ _ | skipIfNotEqual _ _ | skipIfSame _ _ | skipIfDifferent _ _
  | skipIfKey _ | skipIfNoKey _ => simp [Operation.writes] at unwritten
  | _ => rfl

/-- An execution that is accepted leaves the counter that the table gives for the
place of the fetch, which lies one word before the counter. -/
theorem execute_pc (word : Int) {place : Int} (fits : operation.FitsWord)
    (behind : machine.pc = place + 2)
    (accepted : (machine.execute ⟨word, operation⟩).fault = none) :
    machine.successor? place operation =
      some (machine.execute ⟨word, operation⟩).machine.pc := by
  -- A skip counts from behind its word, and the table from the word itself.
  have skipped : ∀ {target : Int} {condition : Bool},
      target = (if condition then machine.pc + 2 else machine.pc) →
        some (if condition then place + 4 else place + 2) = some target := by
    intro target condition moved
    rw [moved, behind, Int.add_assoc]
    rfl
  cases operation with
  | jump address | jumpOffset address =>
      exact congrArg some
        (attempt_arrives (fun _ arrived => jump_pc arrived) accepted).symm
  | call address =>
      exact congrArg some
        (attempt_arrives (fun _ arrived => call_pc arrived) accepted).symm
  | returnFromCall => exact returnFromCall_pc accepted
  | awaitKey x =>
      have waited : (machine.execute ⟨word, .awaitKey x⟩).machine.pc = _ :=
        attempt_arrives (fun _ arrived => awaitKey_pc arrived) accepted
      rw [waited, behind, Int.add_sub_cancel]
      rfl
  | skipIfEqual number _ | skipIfNotEqual number _ | skipIfKey number
  | skipIfNoKey number =>
      rcases exists_register number fits.x with ⟨x, rfl⟩
      exact skipped
        (attempt_arrives (fun _ arrived => skipOn_pc arrived) accepted)
  | skipIfSame first second | skipIfDifferent first second =>
      rcases exists_register first fits.x with ⟨x, rfl⟩
      rcases exists_register second fits.y with ⟨y, rfl⟩
      exact skipped
        (attempt_arrives (fun _ arrived => skipOnPair_pc arrived) accepted)
  | _ => exact execute_pc_of_unwritten word behind (by simp [Operation.writes])

/-- The table does not depend on what the countdown and the fetch move. -/
theorem successor?_advanced (now : Float) (place : Int) :
    (machine.advanced now).successor? place operation =
      machine.successor? place operation := by
  rw [advanced_eq]
  cases operation <;> rfl

end Executions

/-! ## One cycle -/

/-- A cycle that succeeds has fetched an operation, and goes on where the table
says, relative to the program counter, the registers, the keys and the stack that
it started from.  The machine may be reachable or not, and its variant and its
behaviour do not matter. -/
theorem cycle_goes_on {machine : Machine} {now : Float}
    (accepted : (machine.cycle now).fault = none) :
    ∃ operation, machine.Fetches operation ∧
      machine.successor? machine.pc operation =
        some (machine.cycle now).machine.pc := by
  rcases fetches_of_accepted accepted with ⟨operation, fetches⟩
  refine ⟨operation, fetches, ?_⟩
  have left : (machine.cycle now).machine.pc = _ :=
    cycle_part_of_fetches now fetches pc fun _ => rfl
  rw [cycle_fault_of_fetches now fetches] at accepted
  rw [left, ← successor?_advanced now]
  exact execute_pc machine.word fetches.fitsWord rfl accepted

/-- A program that skips a word if a key is down.  The register that names the key
holds more than a digit. -/
def keySkipper : Rom where
  bytes := [0x60, 0x13, 0xE0, 0x9E]
  nonempty := by decide
  fits := by decide

/-- That program when it is about to skip, with one key down. -/
def keySkipperWithKey (key : Int) : Machine :=
  (boot keySkipper .superChip (.ofVariant .superChip) 0 0).follow
    [.cycle 0, .key key true]

/-- The program skips a word if the key of the low digit is down, and goes on behind
its own word if another key is. -/
theorem keySkipper_heeds_its_key :
    ((keySkipperWithKey 3).cycle 0).fault = none ∧
      ((keySkipperWithKey 3).cycle 0).machine.pc = 0x206 ∧
      ((keySkipperWithKey 1).cycle 0).fault = none ∧
      ((keySkipperWithKey 1).cycle 0).machine.pc = 0x204 := by
  have goes_on (key target : Int)
      (observed : ((keySkipperWithKey key).cycle 0).fault = none ∧
        (keySkipperWithKey key).Fetches (.skipIfKey 0) ∧
        (keySkipperWithKey key).successor? (keySkipperWithKey key).pc
          (.skipIfKey 0) = some target) :
      ((keySkipperWithKey key).cycle 0).fault = none ∧
        ((keySkipperWithKey key).cycle 0).machine.pc = target := by
    rcases observed with ⟨accepted, skipping, table⟩
    rcases cycle_goes_on accepted with ⟨operation, fetches, left⟩
    rw [fetches.unique skipping, table] at left
    exact ⟨accepted, (Option.some.inj left).symm⟩
  rcases goes_on 3 0x206 (by decide +kernel) with
    ⟨taken, skipped⟩
  rcases goes_on 1 0x204 (by decide +kernel) with
    ⟨untaken, passed⟩
  exact ⟨taken, skipped, untaken, passed⟩

end Machine

end ChipEight
