import ChipEight.CallStack

namespace ChipEight

/-!
# The slots of a call stack

The addresses of a call stack lie in slots, oldest first, and a mark says how many
of the slots are in use.  Putting an address on the stack writes the slot behind
those in use and then moves the mark behind it.  Taking one off only moves the
mark, so the slot keeps what it held until it is written again.  Both operations
tell what they leave when they are refused as well.
-/

/-- The content of every slot, and how many slots are in use. -/
structure SlotStack where
  capacity : Nat
  slots : Fin capacity → UInt16
  used : Nat
  inside : used ≤ capacity

namespace SlotStack

/-- Slots of zeros, none of which is in use. -/
def empty (capacity : Nat) : SlotStack :=
  ⟨capacity, fun _ => 0, 0, Nat.zero_le capacity⟩

/-- As many slots as a host asks for, if there can be that many. -/
def ofCapacity (storage : Storage) (capacity : Int) :
    Except Fault SlotStack :=
  (CallStack.ofCapacity storage capacity).map fun stack => empty stack.capacity

/-- The contents of the slots after one of them was written. -/
def store (stack : SlotStack) (place : Nat) (entry : UInt16) :
    Fin stack.capacity → UInt16 :=
  fun slot => if slot.val = place then entry else stack.slots slot

/-- Put an address on the stack.  Whether there is a slot for it is looked at
before the address itself. -/
def push (stack : SlotStack) (address : Int) : Except Fault Unit × SlotStack :=
  if room : stack.used < stack.capacity then
    match doubleOf address with
    | .error fault => (.error fault, stack)
    | .ok entry =>
        (.ok (), ⟨stack.capacity, stack.store stack.used entry, stack.used + 1,
          room⟩)
  else (.error (.stackFull address stack.used), stack)

theorem newest_lt {used capacity : Nat} (inside : used ≤ capacity)
    (filled : 0 < used) : used - 1 < capacity := by
  omega

/-- Take the newest address off the stack. -/
def pop (stack : SlotStack) : Except Fault UInt16 × SlotStack :=
  if filled : 0 < stack.used then
    let newest := newest_lt stack.inside filled
    (.ok (stack.slots ⟨stack.used - 1, newest⟩),
      ⟨stack.capacity, stack.slots, stack.used - 1, Nat.le_of_lt newest⟩)
  else (.error .stackEmpty, stack)

end SlotStack

end ChipEight
