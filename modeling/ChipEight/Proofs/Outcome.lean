import ChipEight.Machine.Cycle

namespace ChipEight

/-!
# Outcomes of the operations

One equation for each operation of the machine says when it is accepted, which
machine it then leaves, and what the fault is otherwise.  Register operands are
the sixteen numbers that decoding produces.  Addresses and the index stay
arbitrary integers, because whether they lie in memory is what an operation may
be refused for.  Later modules cite these equations and do not open the
operations again.
-/

/-! ## Accepted results -/

section Accepted

variable {α β : Type} {result : Except Fault α}

/-- A sequence is accepted if its first part and what follows are. -/
theorem accepted_bind {next : α → Except Fault β} {last : β}
    (accepted : (result >>= next) = .ok last) :
    ∃ first, result = .ok first ∧ next first = .ok last := by
  cases result with
  | ok first => exact ⟨first, rfl, accepted⟩
  | error fault => exact nomatch accepted

theorem accepted_map {change : α → β} {last : β}
    (accepted : result.map change = .ok last) :
    ∃ first, result = .ok first ∧ change first = last := by
  cases result with
  | ok first => exact ⟨first, rfl, Except.ok.inj accepted⟩
  | error fault => exact nomatch accepted

end Accepted

/-! ## Registers by number -/

namespace Registers

@[simp] theorem slot_register (register : Fin 16) :
    slot (register.val : Int) = .ok register := by
  have inside : 0 ≤ (register.val : Int) ∧ (register.val : Int) < 16 := by
    omega
  simp [slot, inside]

@[simp] theorem read_register (registers : Registers) (register : Fin 16) :
    registers.read (register.val : Int) = .ok (registers.get register) := by
  rw [read, slot_register]
  rfl

theorem write_register (registers : Registers) (register : Fin 16)
    (byte : UInt8) :
    registers.write (register.val : Int) byte =
      .ok (registers.set register byte) := by
  rw [write, slot_register]
  rfl

theorem writeValue_register (registers : Registers) (register : Fin 16)
    {value : Int} (fits : CellWidth.byte.Holds value) :
    registers.writeValue (register.val : Int) value =
      .ok (registers.set register (UInt8.ofNat value.toNat)) := by
  rw [writeValue, slot_register, byteOf_eq_ok value fits]

/-- The numbers that stand for a register reach from minus sixteen to
fifteen. -/
theorem slot_eq_ok_iff {index : Int} :
    (∃ register, slot index = .ok register) ↔ -16 ≤ index ∧ index ≤ 15 := by
  unfold slot
  by_cases lower : 0 ≤ index ∧ index < 16
  · simp only [lower, and_self, dite_true, Except.ok.injEq, exists_eq', true_iff]
    omega
  · by_cases upper : -16 ≤ index ∧ index < 0
    · simp only [lower, upper, and_self, dite_true, dite_false, Except.ok.injEq,
        exists_eq', true_iff, true_and]
      omega
    · simp only [lower, upper, dite_false, reduceCtorEq, exists_false, false_iff]
      intro range
      omega

/-- The leading registers up to a given one. -/
theorem countBelow_register (register : Fin 16) :
    countBelow ((register.val : Int) + 1) = register.val + 1 := by
  have positive : ¬ (register.val : Int) + 1 < 0 := by omega
  rw [countBelow, if_neg positive]
  omega

theorem length_leading (registers : Registers) {count : Nat}
    (inside : count ≤ 16) : (registers.leading count).length = count := by
  simp [leading, inside]

end Registers

/-! ## The call stack -/

namespace CallStack

variable (stack : CallStack)

theorem pop_of_empty (empty : stack.newestFirst = []) :
    stack.pop = .error .stackEmpty := by
  unfold pop
  split
  · rfl
  · rename_i content
    rw [empty] at content
    contradiction

theorem pop_of_nonempty {newest : UInt16} {older : List UInt16}
    (content : stack.newestFirst = newest :: older) :
    ∃ popped : CallStack,
      stack.pop = .ok (newest, popped) ∧ popped.newestFirst = older ∧
        popped.capacity = stack.capacity := by
  unfold pop
  split
  · rename_i empty
    rw [empty] at content
    contradiction
  · rename_i first rest split
    rw [split] at content
    cases content
    exact ⟨_, rfl, rfl, rfl⟩

variable {stack}

/-- What was popped was on top, and the rest is left. -/
theorem content_of_pop {newest : UInt16} {older : CallStack}
    (popped : stack.pop = .ok (newest, older)) :
    stack.newestFirst = newest :: older.newestFirst ∧
      older.capacity = stack.capacity := by
  cases content : stack.newestFirst with
  | nil =>
      rw [stack.pop_of_empty content] at popped
      contradiction
  | cons first rest =>
      rcases stack.pop_of_nonempty content with ⟨_, result, sameRest, sameCapacity⟩
      rw [result] at popped
      cases popped
      exact ⟨by rw [sameRest], sameCapacity⟩

/-- A full stack refuses every push, whatever the address. -/
theorem push_of_full {address : Int} (full : ¬ stack.depth < stack.capacity) :
    stack.push address = .error (.stackFull address stack.depth) :=
  dif_neg full

theorem push_of_room {address : Int} (room : stack.depth < stack.capacity)
    (fits : CellWidth.double.Holds address) :
    stack.push address =
      .ok ⟨stack.capacity, UInt16.ofNat address.toNat :: stack.newestFirst,
        room⟩ := by
  simp only [push, dif_pos room, doubleOf, if_pos fits]

end CallStack

/-! ## Steps -/

namespace Step

@[simp] theorem attempt_ok (before after : Machine) :
    attempt before (.ok after) = done after :=
  rfl

@[simp] theorem attempt_error (before : Machine) (fault : Fault) :
    attempt before (.error fault) = stopped before fault :=
  rfl

/-- A refused attempt leaves the machine as it was. -/
theorem attempt_refused {before : Machine} {result : Except Fault Machine}
    (refused : (attempt before result).fault ≠ none) :
    (attempt before result).machine = before := by
  cases result with
  | ok after => exact absurd rfl refused
  | error fault => rfl

end Step

namespace Machine

variable (machine : Machine)

/-! ## Control flow -/

theorem landing_eq (address : Int) :
    landing address =
      if 0 ≤ address ∧ address ≤ 4094 then .ok address
      else .error (.unmapped address 2) := by
  have same : Memory.Spans address 2 ↔ 0 ≤ address ∧ address ≤ 4094 := by
    unfold Memory.Spans memorySize
    omega
  simp only [landing, same]

theorem continueAt_eq (address : Int) :
    machine.continueAt address =
      if 0 ≤ address ∧ address ≤ 4094 then .ok { machine with pc := address }
      else .error (.unmapped address 2) := by
  rw [continueAt, landing_eq]
  split <;> rfl

theorem jump_eq (address : Int) :
    machine.jump address =
      if 0 ≤ address ∧ address ≤ 4094 then
        .ok (countJump { machine with pc := address })
      else .error (.unmapped address 2) := by
  rw [jump, continueAt_eq]
  split <;> rfl

theorem call_eq (address : Int) :
    machine.call address =
      if 0 ≤ address ∧ address ≤ 4094 then
        (machine.stack.push machine.pc).map fun stack =>
          { machine with
            stack := stack
            pc := address
            tally.calls := machine.tally.calls + 1 }
      else .error (.unmapped address 2) := by
  rw [call, landing_eq]
  split
  · cases pushed : machine.stack.push machine.pc with
    | ok stack => simp [bind, Except.bind, pure, Except.pure, Except.map]
    | error fault => simp [bind, Except.bind, Except.map]
  · rfl

/-- A return from an empty stack changes nothing. -/
theorem returnFromCall_of_empty (empty : machine.stack.newestFirst = []) :
    machine.returnFromCall = .stopped machine .stackEmpty := by
  rw [returnFromCall, machine.stack.pop_of_empty empty]

/-- A return takes an address off the stack, and goes on there if a whole
instruction can be fetched. -/
theorem returnFromCall_of_popped {newest : UInt16} {older : CallStack}
    (popped : machine.stack.pop = .ok (newest, older)) :
    machine.returnFromCall =
      if newest.toNat ≤ 4094 then
        .done (countReturn { machine with stack := older, pc := newest.toNat })
      else
        .stopped { machine with stack := older } (.unmapped newest.toNat 2) := by
  rw [returnFromCall, popped]
  by_cases room : newest.toNat ≤ 4094
  · have inside : 0 ≤ (newest.toNat : Int) ∧ (newest.toNat : Int) ≤ 4094 := by
      omega
    simp only [continueAt_eq, if_pos inside, if_pos room]
    rfl
  · have outside : ¬ (0 ≤ (newest.toNat : Int) ∧ (newest.toNat : Int) ≤ 4094) := by
      omega
    simp only [continueAt_eq, if_neg outside, if_neg room]
    rfl

theorem skipOn_register (x : Fin 16) (condition : UInt8 → Bool) :
    machine.skipOn (x.val : Int) condition =
      machine.skipIf (condition (machine.registers.get x)) := by
  simp [skipOn, bind, Except.bind]

theorem skipOnPair_register (x y : Fin 16) (condition : UInt8 → UInt8 → Bool) :
    machine.skipOnPair (x.val : Int) (y.val : Int) condition =
      machine.skipIf
        (condition (machine.registers.get x) (machine.registers.get y)) := by
  simp [skipOnPair, bind, Except.bind]

/-! ## Registers -/

theorem assign_register (x : Fin 16) {value : Int}
    (fits : CellWidth.byte.Holds value) :
    machine.assign (x.val : Int) value =
      .ok { machine with
        registers := machine.registers.set x (UInt8.ofNat value.toNat) } := by
  rw [assign, Registers.writeValue_register _ _ fits]
  rfl

theorem update_register (x : Fin 16) (change : UInt8 → UInt8) :
    machine.update (x.val : Int) change =
      .ok { machine with
        registers :=
          machine.registers.set x (change (machine.registers.get x)) } := by
  simp [update, Registers.write_register, withRegisters, bind, Except.bind, Except.map]

theorem copy_register (x y : Fin 16) :
    machine.copy (x.val : Int) (y.val : Int) =
      .ok { machine with
        registers := machine.registers.set x (machine.registers.get y) } := by
  simp [copy, Registers.write_register, withRegisters, bind, Except.bind, Except.map]

theorem combineBits_register (x y : Fin 16) (combine : UInt8 → UInt8 → UInt8) :
    machine.combineBits (x.val : Int) (y.val : Int) combine =
      .ok { machine with
        registers :=
          let combined := machine.registers.set x
            (combine (machine.registers.get x) (machine.registers.get y))
          if machine.behaviour.logic.isOn then combined.setFlag false
          else combined } := by
  simp [combineBits, Registers.write_register, withRegisters, bind, Except.bind,
    pure, Except.pure, Except.map]

theorem combine_register (x y : Fin 16) (result : UInt8 → UInt8 → UInt8)
    (flag : UInt8 → UInt8 → Bool) :
    machine.combine (x.val : Int) (y.val : Int) result flag =
      .ok { machine with
        registers :=
          (machine.registers.set x
            (result (machine.registers.get x) (machine.registers.get y))).setFlag
              (flag (machine.registers.get x) (machine.registers.get y)) } := by
  simp [combine, Registers.write_register, withRegisters, bind, Except.bind, pure,
    Except.pure, Except.map]

/-- The register that a shift takes its operand from. -/
def shiftSource (x y : Fin 16) : Fin 16 :=
  if machine.behaviour.shifting.isOn then y else x

theorem shift_register (x y : Fin 16) (result : UInt8 → UInt8)
    (flag : UInt8 → Bool) :
    machine.shift (x.val : Int) (y.val : Int) result flag =
      .ok { machine with
        registers :=
          (machine.registers.set x
            (result (machine.registers.get (machine.shiftSource x y)))).setFlag
              (flag (machine.registers.get (machine.shiftSource x y))) } := by
  have source : (if machine.behaviour.shifting.isOn then (y.val : Int)
      else (x.val : Int)) = ((machine.shiftSource x y).val : Int) := by
    unfold shiftSource
    split <;> rfl
  simp [shift, source, Registers.write_register, withRegisters, bind, Except.bind,
    pure, Except.pure, Except.map]

theorem randomise_register (x : Fin 16) (mask : Int) :
    machine.randomise (x.val : Int) mask =
      .done { machine with
        random := machine.random.next.2
        registers :=
          machine.registers.set x (machine.random.next.1 &&& lowByte mask) } := by
  simp [randomise, Registers.write_register, withRegisters, Except.map]

/-- A register number out of range is found only after the byte was drawn. -/
theorem randomise_of_missing {x : Int} {fault : Fault}
    (missing : Registers.slot x = .error fault) (mask : Int) :
    machine.randomise x mask =
      .stopped { machine with random := machine.random.next.2 } fault := by
  simp [randomise, withRegisters, Registers.write, missing, Except.map]

/-! ## Keys and timers -/

theorem awaitKey_register (x : Fin 16) :
    machine.awaitKey (x.val : Int) =
      .ok (match machine.keypad.firstDown? with
        | some key =>
            { machine with
              registers := machine.registers.set x (UInt8.ofNat key.val) }
        | none =>
            { machine with
              pc := machine.pc - 2
              tally.keyWaits := machine.tally.keyWaits + 1 }) := by
  unfold awaitKey
  cases machine.keypad.firstDown? with
  | some key => simp [Registers.write_register, withRegisters, Except.map]
  | none => rfl

theorem setDelay_register (x : Fin 16) :
    machine.setDelay (x.val : Int) =
      .ok { machine with timers.delay := (machine.registers.get x).toNat } := by
  simp [setDelay, Except.map]

theorem setSound_register (x : Fin 16) :
    machine.setSound (x.val : Int) =
      .ok { machine with timers.sound := (machine.registers.get x).toNat } := by
  simp [setSound, Except.map]

/-! ## Index and memory -/

theorem indexFrom_register (x : Fin 16) (index : UInt8 → Int) :
    machine.indexFrom (x.val : Int) index =
      .ok { machine with index := index (machine.registers.get x) } := by
  simp [indexFrom, Except.map]

theorem storeDecimal_register (x : Fin 16) :
    machine.storeDecimal (x.val : Int) =
      if Memory.Spans machine.index 3 then
        .ok { machine with
          memory := machine.memory.overlay machine.index.toNat
            (decimalDigits (machine.registers.get x)) }
      else .error (.unmapped machine.index 3) := by
  have length : ((decimalDigits (machine.registers.get x)).length : Int) = 3 :=
    rfl
  simp only [storeDecimal, Registers.read_register, bind, Except.bind,
    Memory.writeBlock, length]
  by_cases inside : Memory.Spans machine.index 3
  · simp [inside, pure, Except.pure]
  · simp [inside]

theorem storeRegisters_register (x : Fin 16) :
    machine.storeRegisters (x.val : Int) =
      if Memory.Spans machine.index ((x.val : Int) + 1) then
        .ok ({ machine with
          memory := machine.memory.overlay machine.index.toNat
            (machine.registers.leading (x.val + 1)) }.passBlock x.val)
      else .error (.unmapped machine.index ((x.val : Int) + 1)) := by
  have length : ((machine.registers.leading (x.val + 1)).length : Int) =
      (x.val : Int) + 1 := by
    rw [Registers.length_leading _ (by omega)]
    rfl
  simp only [storeRegisters, Registers.countBelow_register, bind, Except.bind,
    Memory.writeBlock, length]
  by_cases inside : Memory.Spans machine.index ((x.val : Int) + 1)
  · simp [inside, pure, Except.pure]
  · simp [inside]

theorem loadRegisters_register (x : Fin 16) :
    machine.loadRegisters (x.val : Int) =
      if Memory.Spans machine.index ((x.val : Int) + 1) then
        .ok ({ machine with
          registers := machine.registers.overlay 0
            (machine.memory.slice machine.index.toNat (x.val + 1)) }.passBlock
              x.val)
      else .error (.unmapped machine.index ((x.val : Int) + 1)) := by
  have length : ((x.val : Int) + 1).toNat = x.val + 1 := by omega
  simp only [loadRegisters, Registers.countBelow_register, bind, Except.bind,
    Memory.readBlock_eq, length]
  by_cases inside : Memory.Spans machine.index ((x.val : Int) + 1)
  · simp [inside, pure, Except.pure]
  · simp [inside]

/-! ## Drawing -/

theorem drawSprite_register (x y : Fin 16) (height : Int) :
    machine.drawSprite (x.val : Int) (y.val : Int) height =
      if Memory.Spans machine.index height then
        (Step.done (machine.paint
          ⟨machine.registers.get x, machine.registers.get y,
            machine.memory.slice machine.index.toNat height.toNat⟩)).after
          (.drawing (machine.registers.get x).toNat
            (machine.registers.get y).toNat height)
      else .stopped machine (.unmapped machine.index height) := by
  simp only [drawSprite, sprite, Registers.read_register, bind, Except.bind,
    Memory.readBlock_eq]
  by_cases inside : Memory.Spans machine.index height
  · simp [inside, pure, Except.pure]
  · simp [inside]

end Machine

end ChipEight
