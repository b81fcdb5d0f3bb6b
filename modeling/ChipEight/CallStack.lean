import ChipEight.Cell
import ChipEight.Storage

namespace ChipEight

/-!
# The call stack

The call stack keeps the addresses to return to, up to a fixed number of them.
It refuses a push when it is full and a pop when it is empty, and it never
wraps around.  A full stack is reported whatever the address would have been.
-/

/-- The addresses to return to, newest first, and how many may be kept. -/
structure CallStack where
  capacity : Nat
  newestFirst : List UInt16
  bounded : newestFirst.length ≤ capacity

/-- The number of slots of the machine's stack. -/
def stackSlots : Nat := 16

namespace CallStack

/-- A stack with nothing on it. -/
def empty (capacity : Nat) : CallStack :=
  ⟨capacity, [], Nat.zero_le capacity⟩

/-- An empty stack with as many slots as a host asks for, if there can be that
many. -/
def ofCapacity (storage : Storage) (capacity : Int) :
    Except Fault CallStack :=
  if Fault.IsWide capacity then
    match storage.refusal? [] [capacity] .double with
    | some fault => .error fault
    | none => .ok (empty capacity.toNat)
  else .error .excessiveExtent

/-- The number of addresses on the stack. -/
def depth (stack : CallStack) : Nat :=
  stack.newestFirst.length

/-- The addresses on the stack, oldest first. -/
def toList (stack : CallStack) : List UInt16 :=
  stack.newestFirst.reverse

/-- Put an address on the stack. -/
def push (stack : CallStack) (address : Int) : Except Fault CallStack :=
  if room : stack.depth < stack.capacity then
    match doubleOf address with
    | .error fault => .error fault
    | .ok entry =>
        .ok ⟨stack.capacity, entry :: stack.newestFirst, room⟩
  else .error (.stackFull address stack.depth)

/-- Take the newest address off the stack. -/
def pop (stack : CallStack) : Except Fault (UInt16 × CallStack) :=
  match content : stack.newestFirst with
  | [] => .error .stackEmpty
  | newest :: older =>
      .ok (newest, ⟨stack.capacity, older, by
        have bounded := stack.bounded
        rw [content] at bounded
        exact Nat.le_of_succ_le bounded⟩)

theorem depth_le_capacity (stack : CallStack) :
    stack.depth ≤ stack.capacity :=
  stack.bounded

@[simp] theorem length_toList (stack : CallStack) :
    stack.toList.length = stack.depth := by
  simp [toList, depth]

@[ext] theorem ext {first second : CallStack}
    (sameCapacity : first.capacity = second.capacity)
    (sameEntries : first.newestFirst = second.newestFirst) :
    first = second := by
  cases first
  cases second
  simp_all

end CallStack

end ChipEight
