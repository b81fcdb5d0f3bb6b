import ChipEight.CallStack.Slots
import ChipEight.Proofs.Dialogues
import ChipEight.Proofs.Outcome

namespace ChipEight

/-!
# Slots and bounded lists

A call stack in slots is to be used like a list of integers of which only the end
can be seen and changed.  The slots hold more than that list: what lies behind the
mark is left over from addresses that were taken off.  The comparison goes through
the call stack that a machine has, which keeps the addresses that are in use and
nothing else.  The first step forgets the slots behind the mark, and the second one
reads the double bytes as integers.

Each step is shown for one command, from which it follows for all dialogues.
-/

/-- What a host asks of a stack. -/
inductive StackCommand where
  | push (address : Int)
  | pop

/-- The answer to a command that is accepted, which is an address if the command
takes one off. -/
abbrev StackAnswer : Type := Except Fault (Option Int)

/-! ## The rule -/

/-- A list of integers, oldest first, and how long it may become. -/
structure BoundedList where
  size : Nat
  content : List Int

/-- What a bounded list answers to a command, and what it is afterwards. -/
def BoundedList.perform (list : BoundedList) :
    StackCommand → StackAnswer × BoundedList
  | .push address =>
      if list.content.length < list.size then
        if 0 ≤ address ∧ address ≤ 65535 then
          (.ok none, { list with content := list.content ++ [address] })
        else (.error (.unrepresentable address .double), list)
      else (.error (.stackFull address list.content.length), list)
  | .pop =>
      match list.content.getLast? with
      | some address =>
          (.ok (some address), { list with content := list.content.dropLast })
      | none => (.error .stackEmpty, list)

namespace CallStack

/-- What a call stack answers to a command, and what it is afterwards. -/
def perform (stack : CallStack) : StackCommand → StackAnswer × CallStack
  | .push address =>
      match stack.push address with
      | .ok pushed => (.ok none, pushed)
      | .error fault => (.error fault, stack)
  | .pop =>
      match stack.pop with
      | .ok (entry, popped) => (.ok (some (entry.toNat : Int)), popped)
      | .error fault => (.error fault, stack)

/-- The addresses of a call stack as integers. -/
def values (stack : CallStack) : List Int :=
  stack.toList.map fun entry => (entry.toNat : Int)

/-- A call stack seen as a list of integers. -/
def toBoundedList (stack : CallStack) : BoundedList :=
  ⟨stack.capacity, stack.values⟩

@[simp] theorem length_values (stack : CallStack) :
    stack.values.length = stack.depth := by
  rw [values, List.length_map, length_toList]

/-- A double byte holds the integers from zero to 65535, and gives them back. -/
theorem doubleOf_eq (address : Int) :
    doubleOf address =
      if 0 ≤ address ∧ address ≤ 65535 then .ok (UInt16.ofNat address.toNat)
      else .error (.unrepresentable address .double) := by
  have range : CellWidth.double.Holds address ↔
      0 ≤ address ∧ address ≤ 65535 := by
    change 0 ≤ address ∧ address < (65536 : Int) ↔ _
    omega
  simp only [doubleOf, range]

theorem toNat_entry {address : Int} (fits : 0 ≤ address ∧ address ≤ 65535) :
    ((UInt16.ofNat address.toNat).toNat : Int) = address := by
  rw [UInt16.toNat_ofNat_of_lt' (by change _ < 65536; omega)]
  omega

/-- A call stack follows the rule of the list of its addresses. -/
theorem perform_toBoundedList (stack : CallStack) (command : StackCommand) :
    (stack.perform command).1 = (stack.toBoundedList.perform command).1 ∧
      (stack.perform command).2.toBoundedList =
        (stack.toBoundedList.perform command).2 := by
  cases command with
  | push address =>
      by_cases room : stack.depth < stack.capacity
      · by_cases fits : 0 ≤ address ∧ address ≤ 65535
        · have holds : CellWidth.double.Holds address :=
            ⟨fits.1, by change address < 65536; omega⟩
          have pushed := push_of_room room holds
          simp only [perform, pushed, BoundedList.perform, toBoundedList,
            length_values, if_pos room, if_pos fits, true_and]
          congr 1
          simp only [values, toList, List.reverse_cons, List.map_append,
            List.map_cons, List.map_nil, toNat_entry fits]
        · have refused : stack.push address =
              .error (.unrepresentable address .double) := by
            simp only [push, dif_pos room, doubleOf_eq, if_neg fits]
          simp only [perform, refused, BoundedList.perform, toBoundedList,
            length_values, if_pos room, if_neg fits, true_and]
      · simp only [perform, push_of_full room, BoundedList.perform, toBoundedList,
          length_values, if_neg room, true_and]
  | pop =>
      cases content : stack.newestFirst with
      | nil =>
          have nothing : stack.values = [] := by
            simp only [values, toList, content, List.reverse_nil, List.map_nil]
          simp only [perform, stack.pop_of_empty content, BoundedList.perform,
            toBoundedList, nothing, List.getLast?_nil, true_and]
      | cons newest older =>
          rcases stack.pop_of_nonempty content with
            ⟨popped, taken, rest, sameCapacity⟩
          have split : stack.values = popped.values ++ [(newest.toNat : Int)] := by
            simp only [values, toList, content, rest, List.reverse_cons,
              List.map_append, List.map_cons, List.map_nil]
          simp only [perform, taken, BoundedList.perform, toBoundedList, split,
            List.getLast?_concat, List.dropLast_concat, sameCapacity, true_and]

end CallStack

/-! ## The slots -/

namespace SlotStack

variable (stack : SlotStack)

/-- What slots answer to a command, and what they are afterwards. -/
def perform : StackCommand → StackAnswer × SlotStack
  | .push address =>
      ((stack.push address).1.map fun _ => none, (stack.push address).2)
  | .pop =>
      (stack.pop.1.map fun entry => some (entry.toNat : Int), stack.pop.2)

/-- The contents of the slots in use. -/
def entries : List UInt16 :=
  List.ofFn fun place : Fin stack.used =>
    stack.slots (place.castLE stack.inside)

@[simp] theorem length_entries : stack.entries.length = stack.used :=
  List.length_ofFn

/-- The call stack that consists of the slots in use. -/
def toCallStack : CallStack where
  capacity := stack.capacity
  newestFirst := stack.entries.reverse
  bounded := by
    rw [List.length_reverse, length_entries]
    exact stack.inside

@[simp] theorem depth_toCallStack : stack.toCallStack.depth = stack.used := by
  rw [CallStack.depth, toCallStack, List.length_reverse, length_entries]

/-- Writing the slot at the mark adds one entry and leaves the others. -/
theorem entries_store (room : stack.used < stack.capacity) (entry : UInt16) :
    entries ⟨stack.capacity, stack.store stack.used entry, stack.used + 1, room⟩ =
      stack.entries ++ [entry] := by
  rw [entries, List.ofFn_succ_last]
  congr 1
  · apply congrArg List.ofFn
    funext place
    exact if_neg (Nat.ne_of_lt place.isLt)
  · exact congrArg (fun newest => [newest]) (if_pos rfl)

/-- The slot below the mark holds the last entry. -/
theorem entries_eq_concat (filled : 0 < stack.used) :
    let newest := newest_lt stack.inside filled
    stack.entries =
      entries ⟨stack.capacity, stack.slots, stack.used - 1, Nat.le_of_lt newest⟩ ++
        [stack.slots ⟨stack.used - 1, newest⟩] := by
  rcases stack with ⟨capacity, slots, used, inside⟩
  cases used with
  | zero => contradiction
  | succ used => exact List.ofFn_succ_last

/-- The slots behind the mark make no difference to any command. -/
theorem perform_toCallStack (command : StackCommand) :
    (stack.perform command).1 = (stack.toCallStack.perform command).1 ∧
      (stack.perform command).2.toCallStack =
        (stack.toCallStack.perform command).2 := by
  cases command with
  | push address =>
      have depth := stack.depth_toCallStack
      by_cases room : stack.used < stack.capacity
      · have slotLeft : stack.toCallStack.depth < stack.toCallStack.capacity := by
          rw [depth]
          exact room
        cases stored : doubleOf address with
        | error fault =>
            simp only [perform, push, dif_pos room, stored, CallStack.perform,
              CallStack.push, dif_pos slotLeft, Except.map, and_self]
        | ok entry =>
            simp only [perform, push, dif_pos room, stored, CallStack.perform,
              CallStack.push, dif_pos slotLeft, Except.map, true_and]
            apply CallStack.ext
            · rfl
            · simp only [toCallStack, entries_store, List.reverse_concat]
      · have full : ¬ stack.toCallStack.depth < stack.toCallStack.capacity := by
          rw [depth]
          exact room
        simp only [perform, push, dif_neg room, CallStack.perform,
          CallStack.push_of_full full, Except.map, depth, and_self]
  | pop =>
      by_cases filled : 0 < stack.used
      · have content : stack.toCallStack.newestFirst = _ := congrArg List.reverse
          (stack.entries_eq_concat filled)
        rw [List.reverse_concat] at content
        rcases stack.toCallStack.pop_of_nonempty content with
          ⟨popped, taken, rest, sameCapacity⟩
        simp only [perform, pop, dif_pos filled, CallStack.perform, taken,
          Except.map, true_and]
        apply CallStack.ext
        · exact sameCapacity.symm
        · exact rest.symm
      · have none : stack.toCallStack.newestFirst = [] := by
          rw [← List.length_eq_zero_iff]
          exact stack.depth_toCallStack.trans (Nat.eq_zero_of_not_pos filled)
        simp only [perform, pop, dif_neg filled, CallStack.perform,
          stack.toCallStack.pop_of_empty none, Except.map, and_self]

/-- A refused command leaves the mark and every slot. -/
theorem perform_refused {command : StackCommand} {fault : Fault}
    (refused : (stack.perform command).1 = .error fault) :
    (stack.perform command).2 = stack := by
  cases command with
  | push address =>
      simp only [perform, push] at refused ⊢
      split at refused
      · rename_i room
        rw [dif_pos room]
        split at refused
        · rfl
        · contradiction
      · rename_i full
        rw [dif_neg full]
  | pop =>
      simp only [perform, pop] at refused ⊢
      split at refused
      · contradiction
      · rename_i nothing
        rw [dif_neg nothing]

theorem perform_capacity (command : StackCommand) :
    (stack.perform command).2.capacity = stack.capacity := by
  cases command with
  | push address =>
      simp only [perform, push]
      split
      · split <;> rfl
      · rfl
  | pop =>
      simp only [perform, pop]
      split <;> rfl

/-! ## Dialogues -/

/-- The slots in use seen as a list of integers. -/
def toBoundedList : BoundedList :=
  stack.toCallStack.toBoundedList

theorem content_toBoundedList :
    stack.toBoundedList.content =
      stack.entries.map fun entry => (entry.toNat : Int) := by
  simp only [toBoundedList, CallStack.toBoundedList, CallStack.values,
    CallStack.toList, toCallStack, List.reverse_reverse]

/-- Slots follow the rule of the list that they are seen as. -/
theorem dialogue_toBoundedList (commands : List StackCommand) :
    (dialogue perform stack commands).1 =
        (dialogue BoundedList.perform stack.toBoundedList commands).1 ∧
      (dialogue perform stack commands).2.toBoundedList =
        (dialogue BoundedList.perform stack.toBoundedList commands).2 := by
  rcases dialogue_view perform_toCallStack stack commands with
    ⟨answered, left⟩
  rcases dialogue_view CallStack.perform_toBoundedList stack.toCallStack
    commands with ⟨answeredThere, leftThere⟩
  constructor
  · exact answered.trans answeredThere
  · rw [toBoundedList, left]
    exact leftThere

end SlotStack

/-! ## Capacities -/

namespace Storage

theorem refusal?_single_eq_none_iff {storage : Storage} {capacity : Int} :
    storage.refusal? [] [capacity] .double = none ↔
      0 ≤ capacity ∧ 2 * capacity < 0x8000000000000000 ∧
        storage.room [] (2 * capacity.toNat) = true := by
  rw [refusal?_eq_none_iff, CellWidth.bytes]
  by_cases natural : 0 ≤ capacity
  · obtain ⟨count, rfl⟩ := Int.eq_ofNat_of_zero_le natural
    have held : Fault.IsWide ((2 * count : Nat) : Int) ↔
        2 * (count : Int) < 0x8000000000000000 := by
      unfold Fault.IsWide Fault.wideBound
      omega
    rw [sizeOf_cons, sizeOf, Int.toNat_natCast]
    by_cases bounded : 2 * (count : Int) < 0x8000000000000000
    · simp only [if_pos (held.mpr bounded), Except.ok.injEq, exists_eq_left',
        natural, bounded, true_and]
    · simp only [if_neg (fun wide => bounded (held.mp wide)), reduceCtorEq,
        false_and, exists_false, bounded, and_false]
  · simp only [sizeOf, if_pos (Int.not_le.mp natural), reduceCtorEq, natural,
      false_and, exists_false]

end Storage

namespace SlotStack

section Capacity

variable {storage : Storage} {capacity : Int} {stack : SlotStack}

/-- A stack is set up exactly if there is room for its slots, and then all of them
are free. -/
theorem ofCapacity_eq_ok_iff :
    ofCapacity storage capacity = .ok stack ↔
      (0 ≤ capacity ∧ 2 * capacity < 0x8000000000000000 ∧
        storage.room [] (2 * capacity.toNat) = true) ∧
        stack = empty capacity.toNat := by
  rw [ofCapacity, CallStack.ofCapacity, ← Storage.refusal?_single_eq_none_iff]
  by_cases held : Fault.IsWide capacity
  · rw [if_pos held]
    cases refused : storage.refusal? [] [capacity] .double with
    | none =>
        simp only [Except.map, Except.ok.injEq, true_and]
        exact eq_comm
    | some fault => simp only [Except.map, reduceCtorEq, false_and]
  · rw [if_neg held]
    have refused : storage.refusal? [] [capacity] .double ≠ none := by
      rw [ne_eq, Storage.refusal?_single_eq_none_iff]
      rintro ⟨natural, bounded, -⟩
      unfold Fault.IsWide Fault.wideBound at held
      omega
    simp only [Except.map, refused, reduceCtorEq, false_and]

end Capacity

/-- A stack that the system has room for answers every dialogue as a list does that
begins empty, is never longer than the capacity, and takes the integers that
sixteen bits hold.  Its content is always that list, and its depth the length of it.
There is a stack exactly if the capacity is not negative, 64 bits with a sign hold
the number of its bytes, which are two for each slot, and there is room for them.
Whatever a stack holds, a refused command leaves it as it was, and stacks that
differ behind the mark only are told apart by no dialogue. -/
theorem slots_behave_as_list :
    (∀ (storage : Storage) (capacity : Int),
      (∃ stack, ofCapacity storage capacity = .ok stack) ↔
        0 ≤ capacity ∧ 2 * capacity < 0x8000000000000000 ∧
          storage.room [] (2 * capacity.toNat) = true) ∧
    (∀ storage capacity stack, ofCapacity storage capacity = .ok stack →
      ∀ commands,
        let slots := dialogue perform stack commands
        let list := dialogue BoundedList.perform ⟨capacity.toNat, []⟩ commands
        slots.1 = list.1 ∧
          slots.2.entries.map (fun entry => (entry.toNat : Int)) =
            list.2.content ∧
          slots.2.used = list.2.content.length ∧
          (list.2.content.length : Int) ≤ capacity) ∧
    (∀ (stack : SlotStack) command fault,
      (stack.perform command).1 = .error fault →
        (stack.perform command).2 = stack) ∧
    (∀ first second : SlotStack, first.capacity = second.capacity →
      first.entries = second.entries → ∀ commands,
        (dialogue perform first commands).1 =
            (dialogue perform second commands).1 ∧
          (dialogue perform first commands).2.entries =
            (dialogue perform second commands).2.entries) := by
  refine ⟨?_, ?_, fun stack _ _ refused => stack.perform_refused refused, ?_⟩
  · intro storage capacity
    simp only [ofCapacity_eq_ok_iff, exists_and_left, exists_eq, and_true]
  · intro storage capacity stack setUp commands slots list
    rcases ofCapacity_eq_ok_iff.mp setUp with ⟨⟨natural, _⟩, rfl⟩
    have start : (empty capacity.toNat).toBoundedList = ⟨capacity.toNat, []⟩ := rfl
    rcases dialogue_toBoundedList (empty capacity.toNat) commands with
      ⟨answered, left⟩
    rw [start] at answered left
    have content : slots.2.entries.map (fun entry => (entry.toNat : Int)) =
        list.2.content := by
      rw [← content_toBoundedList]
      exact congrArg BoundedList.content left
    have depth : slots.2.used = list.2.content.length := by
      rw [← content, List.length_map, length_entries]
    have size : slots.2.capacity = capacity.toNat := by
      apply dialogue_keeps fun state : SlotStack => state.capacity = capacity.toNat
      · intro state command same
        exact (state.perform_capacity command).trans same
      · rfl
    refine ⟨answered, content, depth, ?_⟩
    have inside := slots.2.inside
    omega
  · intro first second sameCapacity sameEntries commands
    have same : first.toCallStack = second.toCallStack := by
      apply CallStack.ext
      · exact sameCapacity
      · exact congrArg List.reverse sameEntries
    rcases dialogue_view perform_toCallStack first commands with ⟨answered, left⟩
    rcases dialogue_view perform_toCallStack second commands with
      ⟨answeredThere, leftThere⟩
    rw [same] at answered left
    refine ⟨answered.trans answeredThere.symm, ?_⟩
    have reversed := congrArg CallStack.newestFirst (left.trans leftThere.symm)
    exact List.reverse_inj.mp reversed

/-- Two slots from which an address was taken off, so that one of them is still in
the first slot. -/
def emptied : SlotStack :=
  (dialogue perform (empty 2) [.push 5, .pop]).2

/-- Two slots take what fits in sixteen bits as long as one of them is free.  The
address that is left over in the first one is not seen.  They need four bytes. -/
theorem two_slots_answer :
    (¬ ∃ stack, ofCapacity (.upTo 3) 2 = .ok stack) ∧
    ∃ stack, ofCapacity (.upTo 4) 2 = .ok stack ∧
      (dialogue perform stack
        [.push 70000, .push 9, .push 65535, .push (-1), .pop, .push 7, .pop, .pop,
          .pop]).1 =
        [.error (.unrepresentable 70000 .double), .ok none, .ok none,
          .error (.stackFull (-1) 2), .ok (some 65535), .ok none, .ok (some 7),
          .ok (some 9), .error .stackEmpty] ∧
      (emptied.perform .pop).2 = emptied ∧
      emptied.slots ⟨0, by decide⟩ ≠ (empty 2).slots ⟨0, by decide⟩ ∧
      (dialogue perform emptied [.pop, .push 1, .pop]).1 =
        (dialogue perform (empty 2) [.pop, .push 1, .pop]).1 := by
  have setUp : ofCapacity (.upTo 4) 2 = .ok (empty 2) :=
    ofCapacity_eq_ok_iff.mpr ⟨by decide, rfl⟩
  refine ⟨?_, empty 2, setUp, ?_, ?_, by decide, ?_⟩
  · rw [slots_behave_as_list.1]
    decide
  · exact (slots_behave_as_list.2.1 (.upTo 4) 2 (empty 2) setUp _).1
  · exact slots_behave_as_list.2.2.1 emptied .pop .stackEmpty rfl
  · exact (slots_behave_as_list.2.2.2 emptied (empty 2) rfl rfl _).1

/-- The number of these slots cannot even be held in 64 bits with a sign, whatever
the system has room for. -/
theorem boundless_capacity_refused :
    (0 : Int) ≤ 9223372036854775808 ∧
      ∀ storage, ofCapacity storage 9223372036854775808 =
          .error .excessiveExtent ∧
        ¬ ∃ stack, ofCapacity storage 9223372036854775808 = .ok stack := by
  refine ⟨by decide, fun storage => ?_⟩
  have refused : ofCapacity storage 9223372036854775808 =
      .error .excessiveExtent := rfl
  refine ⟨refused, ?_⟩
  rintro ⟨stack, setUp⟩
  rw [refused] at setUp
  contradiction

end SlotStack

end ChipEight
