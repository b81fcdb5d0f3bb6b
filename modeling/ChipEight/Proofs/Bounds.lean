import ChipEight.Proofs.Effects
import ChipEight.Proofs.History

namespace ChipEight

/-!
# Bounds of a reachable machine

Registers, memory, keys and pixels cannot leave their ranges, because their
types have no other values.  The program counter, the index, the timers and the
addresses on the call stack could.  This module shows that no history brings
them out of their ranges, whether or not its events fail.

The bounds depend on each other.  A call puts the program counter on the stack,
a return brings it back, and waiting for a key moves it back by one word.  The
last is safe only behind a fetch, so an execution is assumed to start there.
-/

/-- Counting down keeps a timer within a byte. -/
theorem Timers.countDown_holds {value : Int}
    (fits : CellWidth.byte.Holds value) :
    CellWidth.byte.Holds (countDown value) := by
  rcases fits with ⟨natural, small⟩
  unfold countDown
  split
  · exact ⟨by omega, by omega⟩
  · exact ⟨natural, small⟩

namespace Machine

/-- The ranges of the parts of a machine whose types allow more. -/
structure Bounded (machine : Machine) : Prop where
  pc : 0 ≤ machine.pc ∧ machine.pc ≤ 4096
  index : CellWidth.double.Holds machine.index
  capacity : machine.stack.capacity = stackSlots
  entries : ∀ entry ∈ machine.stack.newestFirst,
    2 ≤ entry.toNat ∧ entry.toNat ≤ 4096
  delay : CellWidth.byte.Holds machine.timers.delay
  sound : CellWidth.byte.Holds machine.timers.sound

theorem boot_bounded (rom : Rom) (variant : Variant) (behaviour : Behaviour)
    (seed : Nat) (now : Float) : (boot rom variant behaviour seed now).Bounded where
  pc := by
    change 0 ≤ (programStart : Int) ∧ (programStart : Int) ≤ 4096
    decide
  index := by
    change CellWidth.double.Holds 0
    decide
  capacity := rfl
  entries := fun _ present => nomatch present
  delay := by
    change CellWidth.byte.Holds 0
    decide
  sound := by
    change CellWidth.byte.Holds 0
    decide

section Execution

variable {machine : Machine} (bounded : machine.Bounded)

include bounded

theorem tick_bounded (now : Float) : (machine.tick now).Bounded := by
  unfold tick Timers.tick
  split
  · exact
      { bounded with
        delay := Timers.countDown_holds bounded.delay
        sound := Timers.countDown_holds bounded.sound }
  · exact bounded

/-- Behind a fetch the program counter is still at most at the end of memory. -/
theorem advanced_bounded (now : Float) (inside : machine.CanFetch) :
    (machine.advanced now).Bounded := by
  rcases inside with ⟨natural, room⟩
  exact
    { tick_bounded bounded now with
      pc := ⟨by change 0 ≤ machine.pc + 2; omega,
        by change machine.pc + 2 ≤ 4096; omega⟩ }

theorem pc_holds : CellWidth.double.Holds machine.pc := by
  have range := bounded.pc
  exact ⟨range.1, by change machine.pc < (65536 : Int); omega⟩

/-- An accepted push puts the program counter on top of the old stack. -/
theorem content_of_push_pc {stack : CallStack}
    (pushed : machine.stack.push machine.pc = .ok stack) :
    stack.capacity = machine.stack.capacity ∧
      ∃ entry : UInt16, (entry.toNat : Int) = machine.pc ∧
        stack.newestFirst = entry :: machine.stack.newestFirst := by
  have range := bounded.pc
  by_cases room : machine.stack.depth < machine.stack.capacity
  · rw [CallStack.push_of_room room (pc_holds bounded)] at pushed
    cases pushed
    have same : (UInt16.ofNat machine.pc.toNat).toNat = machine.pc.toNat :=
      UInt16.toNat_ofNat_of_lt' (by change _ < 65536; omega)
    exact ⟨rfl, UInt16.ofNat machine.pc.toNat, by omega, rfl⟩
  · rw [CallStack.push_of_full room] at pushed
    contradiction

/-- Every effect keeps the bounds behind a fetch. -/
theorem effect_bounded (behind : 2 ≤ machine.pc) {operation : Operation}
    {after : Machine} (effect : machine.Effect operation after) :
    after.Bounded := by
  have below := bounded.pc.2
  cases effect with
  | contents => exact { bounded with }
  | indexed _ _ fits => exact { bounded with index := fits }
  | @moved _ address room _ =>
      exact
        { bounded with
          pc := ⟨room.1, by change address ≤ 4096; omega⟩ }
  | waited _ =>
      exact
        { bounded with
          pc := ⟨by change 0 ≤ machine.pc - 2; omega,
            by change machine.pc - 2 ≤ 4096; omega⟩ }
  | delayed byte => exact { bounded with delay := CellWidth.holds_toNat byte }
  | sounded byte => exact { bounded with sound := CellWidth.holds_toNat byte }
  | @called address room stack pushed _ =>
      rcases content_of_push_pc bounded pushed with
        ⟨sameCapacity, entry, value, content⟩
      refine
        { bounded with
          pc := ⟨room.1, by change address ≤ 4096; omega⟩
          capacity := sameCapacity.trans bounded.capacity
          entries := ?_ }
      intro present found
      change present ∈ stack.newestFirst at found
      rw [content] at found
      rcases List.mem_cons.mp found with rfl | older
      · omega
      · exact bounded.entries present older
  | stranded popped _ =>
      rcases CallStack.content_of_pop popped with ⟨content, sameCapacity⟩
      refine
        { bounded with
          capacity := sameCapacity.trans bounded.capacity
          entries := fun entry found => bounded.entries entry ?_ }
      rw [content]
      exact List.mem_cons_of_mem _ found
  | @returned newest older popped room _ =>
      rcases CallStack.content_of_pop popped with ⟨content, sameCapacity⟩
      refine
        { bounded with
          pc := ⟨Int.natCast_nonneg _, by change (newest.toNat : Int) ≤ 4096; omega⟩
          capacity := sameCapacity.trans bounded.capacity
          entries := fun entry found => bounded.entries entry ?_ }
      rw [content]
      exact List.mem_cons_of_mem _ found

/-! ## Cycles and histories -/

theorem cycle_bounded (now : Float) : (machine.cycle now).machine.Bounded := by
  rcases machine.fetch_cases with
    outside | ⟨inside, rejected⟩ | ⟨operation, fetches⟩
  · rw [machine.cycle_of_unfetched now outside]
    exact tick_bounded bounded now
  · rw [machine.cycle_of_undecoded now inside rejected]
    exact advanced_bounded bounded now inside
  · have behind : 2 ≤ (machine.advanced now).pc := by
      have natural := fetches.1.1
      change 2 ≤ machine.pc + 2
      omega
    have executed := effect_bounded (advanced_bounded bounded now fetches.1)
      behind (execute_effect _ machine.word fetches.fitsWord)
    rw [cycle_machine_of_fetches now fetches]
    split
    · exact { executed with }
    · exact executed

theorem respond_bounded (event : Event) : (machine.respond event).Bounded := by
  cases event with
  | cycle now => exact cycle_bounded bounded now
  | key number pressed =>
      rcases machine.respond_key number pressed with ⟨keypad, moved⟩
      rw [moved]
      exact { bounded with }

end Execution

theorem Reachable.bounded {machine : Machine} (reachable : Reachable machine) :
    machine.Bounded := by
  apply reachable.induction
  · intro start loaded
    rcases loaded_iff.mp loaded with ⟨rom, variant, overrides, seed, now, _, rfl⟩
    exact boot_bounded rom variant _ seed now
  · intro before event bounded
    exact respond_bounded bounded event

/-- Whatever program was loaded, for whatever variant, switches and seed, and
whatever cycles and key movements followed at whatever clock readings, every
part of the machine is in its range.  The failed events of a history count as
well. -/
theorem reachable_ranges {machine : Machine} (reachable : Reachable machine) :
    (0 ≤ machine.pc ∧ machine.pc ≤ 4096) ∧
      (0 ≤ machine.index ∧ machine.index ≤ 0xFFFF) ∧
      (∀ register, (machine.registers.get register).toNat ≤ 255) ∧
      machine.stack.depth ≤ 16 ∧
      (∀ entry ∈ machine.stack.toList,
        2 ≤ entry.toNat ∧ entry.toNat ≤ 4096) ∧
      (0 ≤ machine.timers.delay ∧ machine.timers.delay ≤ 255) ∧
      (0 ≤ machine.timers.sound ∧ machine.timers.sound ≤ 255) ∧
      (∀ key, (machine.keypad.isDown key).toNat ≤ 1) ∧
      (∀ address, (machine.memory.byteAt address).toNat ≤ 255) ∧
      ∀ row column, (machine.display.pixel row column).toNat ≤ 1 := by
  have bounded := reachable.bounded
  have byteRange : ∀ {value : Int}, CellWidth.byte.Holds value →
      0 ≤ value ∧ value ≤ 255 :=
    fun fits => ⟨fits.1, Int.le_of_lt_add_one fits.2⟩
  have depth : machine.stack.depth ≤ 16 := by
    have within := machine.stack.depth_le_capacity
    rw [bounded.capacity] at within
    exact within
  have entries : ∀ entry ∈ machine.stack.toList,
      2 ≤ entry.toNat ∧ entry.toNat ≤ 4096 :=
    fun entry present => bounded.entries entry (List.mem_reverse.mp present)
  refine ⟨bounded.pc, ⟨bounded.index.1, Int.le_of_lt_add_one bounded.index.2⟩,
    ?_, depth, entries, byteRange bounded.delay, byteRange bounded.sound,
    ?_, ?_, ?_⟩
  · exact fun register => Nat.le_of_lt_succ (UInt8.toNat_lt _)
  · exact fun key => Bool.toNat_le _
  · exact fun address => Nat.le_of_lt_succ (UInt8.toNat_lt _)
  · exact fun row column => Bool.toNat_le _

/-- A program that returns at once fails, and stays in its ranges while the
clock goes backwards and a key is moved that does not exist. -/
theorem ranges_after_failed_return :
    let rom : Rom := ⟨[0x00, 0xEE], by decide, by decide⟩
    let start := boot rom .superChip (.ofVariant .superChip) 7 0
    let machine := start.follow [.cycle 5, .key 99 true, .cycle (-3)]
    0 ≤ machine.pc ∧ machine.pc ≤ 4096 := by
  intro rom start machine
  have reachable : Reachable machine :=
    ⟨start, _, loaded_boot rom .superChip 7 0, rfl⟩
  exact (reachable_ranges reachable).1

end Machine

end ChipEight
