import ChipEight.Proofs.Bounds

namespace ChipEight

/-!
# The faults of a cycle

The fault of a cycle is a function of the machine before it.  The table
`hazard?` gives the fault of each decoded operation, with the address and the
length of the access that leaves memory.  It is shown to be the fault of the
execution, and is then compared with the conditions under which a cycle is said
to fail.  The bounds of a reachable machine rule out the faults that the table
does not mention: those of integers that do not fit their cells.
-/

namespace Registers

/-- The content of the register that a number stands for, and zero if there is
none. -/
def content (registers : Registers) (number : Int) : UInt8 :=
  match slot number with
  | .ok register => registers.get register
  | .error _ => 0

@[simp] theorem content_register (registers : Registers) (register : Fin 16) :
    registers.content (register.val : Int) = registers.get register := by
  rw [content, slot_register]

end Registers

/-- The kinds of faults of decoded operations.  The length of an access is one
that a message can show. -/
inductive Fault.OfOperation : Fault → Prop where
  | unmapped {address length : Int} (writable : Text.isWritable length = true) :
      OfOperation (.unmapped address length)
  | stackFull {address : Int} {depth : Nat} : OfOperation (.stackFull address depth)
  | stackEmpty : OfOperation .stackEmpty

/-- A fault of a decoded operation can stop a program. -/
theorem Fault.OfOperation.stops {fault : Fault} (kind : fault.OfOperation) :
    fault.stopsPrograms = true := by
  cases kind <;> rfl

/-- The fault of an access, if it leaves memory. -/
def outside? (address length : Int) : Option Fault :=
  if Memory.Spans address length then none
  else some (.unmapped address length)

namespace Machine

/-- The key that a register names, by the low digit of its content, is down. -/
def namesKeyDown (machine : Machine) (x : Int) : Bool :=
  machine.keypad.isDown
    ⟨(machine.registers.content x).toNat % 16, Nat.mod_lt _ (by decide)⟩

/-- Whether an operation skips the next instruction. -/
def skips (machine : Machine) : Operation → Bool
  | .skipIfEqual x value =>
      ((machine.registers.content x).toNat : Int) == value
  | .skipIfNotEqual x value =>
      ((machine.registers.content x).toNat : Int) != value
  | .skipIfSame x y =>
      machine.registers.content x == machine.registers.content y
  | .skipIfDifferent x y =>
      machine.registers.content x != machine.registers.content y
  | .skipIfKey x => machine.namesKeyDown x
  | .skipIfNoKey x => !machine.namesKeyDown x
  | _ => false

/-- The fault of a decoded operation that is executed with the program counter
behind its word. -/
def hazard? (machine : Machine) (operation : Operation) : Option Fault :=
  match operation with
  | .returnFromCall =>
      match machine.stack.newestFirst with
      | [] => some .stackEmpty
      | newest :: _ => outside? newest.toNat 2
  | .jump address => outside? address 2
  | .jumpOffset address =>
      outside? (address + (machine.registers.get offsetRegister).toNat) 2
  | .call address =>
      if Memory.Spans address 2 ∧ machine.stack.depth = stackSlots then
        some (.stackFull machine.pc machine.stack.depth)
      else outside? address 2
  | .draw _ _ height => outside? machine.index height
  | .storeDecimal _ => outside? machine.index 3
  | .storeRegisters x | .loadRegisters x => outside? machine.index (x + 1)
  | _ =>
      if machine.skips operation then outside? (machine.pc + 2) 2 else none

/-! ## The table is right -/

section Execution

variable {machine : Machine}

theorem attempt_accepted {after : Machine} {result : Except Fault Machine}
    (accepted : result = .ok after) :
    (Step.attempt machine result).fault = none := by
  rw [accepted]
  rfl

theorem continueAt_fault (address : Int) :
    (Step.attempt machine (machine.continueAt address)).fault =
      outside? address 2 := by
  unfold continueAt landing outside?
  split <;> rfl

/-- Neither what is left on a refusal nor what is counted matters. -/
theorem arrival_fault (before : Machine) (count : Machine → Machine)
    (address : Int) :
    (Step.attempt before ((machine.continueAt address).map count)).fault =
      outside? address 2 := by
  unfold continueAt landing outside?
  split <;> rfl

theorem skipIf_fault (condition : Bool) :
    (Step.attempt machine (machine.skipIf condition)).fault =
      if condition then outside? (machine.pc + 2) 2 else none := by
  cases condition with
  | false => rfl
  | true => exact continueAt_fault _

theorem skipOn_fault (x : Fin 16) (condition : UInt8 → Bool) :
    (Step.attempt machine (machine.skipOn (x.val : Int) condition)).fault =
      if condition (machine.registers.content (x.val : Int)) then
        outside? (machine.pc + 2) 2
      else none := by
  rw [skipOn_register, Registers.content_register]
  exact skipIf_fault _

theorem skipOnPair_fault (x y : Fin 16) (condition : UInt8 → UInt8 → Bool) :
    (Step.attempt machine
      (machine.skipOnPair (x.val : Int) (y.val : Int) condition)).fault =
      if condition (machine.registers.content (x.val : Int))
          (machine.registers.content (y.val : Int)) then
        outside? (machine.pc + 2) 2
      else none := by
  rw [skipOnPair_register, Registers.content_register,
    Registers.content_register]
  exact skipIf_fault _

theorem call_fault (bounded : machine.Bounded) (address : Int) :
    (Step.attempt machine (machine.call address)).fault =
      machine.hazard? (.call address) := by
  have within : machine.stack.depth ≤ machine.stack.capacity :=
    machine.stack.depth_le_capacity
  have slots := bounded.capacity
  simp only [hazard?, outside?, call, landing]
  by_cases room : Memory.Spans address 2
  · by_cases full : machine.stack.depth = stackSlots
    · have refused : machine.stack.push machine.pc =
          .error (.stackFull machine.pc machine.stack.depth) :=
        CallStack.push_of_full (by omega)
      simp [room, full, refused, bind, Except.bind, Step.stopped]
    · have slotLeft : machine.stack.depth < machine.stack.capacity := by
        omega
      have pushed := CallStack.push_of_room slotLeft (pc_holds bounded)
      simp [room, full, pushed, bind, Except.bind, pure, Except.pure,
        Step.done]
  · simp [room, bind, Except.bind, Step.stopped]

theorem returnFromCall_fault :
    machine.returnFromCall.fault = machine.hazard? .returnFromCall := by
  cases content : machine.stack.newestFirst with
  | nil =>
      rw [machine.returnFromCall_of_empty content]
      simp only [hazard?, content]
      rfl
  | cons newest older =>
      rcases machine.stack.pop_of_nonempty content with ⟨popped, result, _, _⟩
      simp only [hazard?, content]
      rw [returnFromCall, result]
      exact arrival_fault { machine with stack := popped } countReturn newest.toNat

/-- The fault of an executed operation is the one in the table. -/
theorem execute_fault (bounded : machine.Bounded) (word : Int)
    {operation : Operation} (fits : operation.FitsWord) :
    (machine.execute ⟨word, operation⟩).fault = machine.hazard? operation := by
  cases operation with
  | system _ | clearDisplay | setIndex _ => rfl
  | unassigned name => exact absurd rfl (fits.assigned name)
  | returnFromCall => exact returnFromCall_fault
  | jump address | jumpOffset address =>
      exact arrival_fault machine countJump _
  | call address => exact call_fault bounded address
  | skipIfEqual number _ | skipIfNotEqual number _ | skipIfKey number
  | skipIfNoKey number =>
      rcases exists_register number fits.x with ⟨x, rfl⟩
      exact skipOn_fault x _
  | skipIfSame first second | skipIfDifferent first second =>
      rcases exists_register first fits.x with ⟨x, rfl⟩
      rcases exists_register second fits.y with ⟨y, rfl⟩
      exact skipOnPair_fault x y _
  | load number value =>
      rcases exists_register number fits.x with ⟨x, rfl⟩
      exact attempt_accepted (machine.assign_register x fits.value)
  | readDelay number =>
      rcases exists_register number fits.x with ⟨x, rfl⟩
      exact attempt_accepted (machine.assign_register x bounded.delay)
  | add number value =>
      rcases exists_register number fits.x with ⟨x, rfl⟩
      exact attempt_accepted (machine.update_register x _)
  | copy first second =>
      rcases exists_register first fits.x with ⟨x, rfl⟩
      rcases exists_register second fits.y with ⟨y, rfl⟩
      exact attempt_accepted (machine.copy_register x y)
  | or first second | and first second | xor first second =>
      rcases exists_register first fits.x with ⟨x, rfl⟩
      rcases exists_register second fits.y with ⟨y, rfl⟩
      exact attempt_accepted (machine.combineBits_register x y _)
  | addRegister first second | subtract first second
  | subtractFrom first second =>
      rcases exists_register first fits.x with ⟨x, rfl⟩
      rcases exists_register second fits.y with ⟨y, rfl⟩
      exact attempt_accepted (machine.combine_register x y _ _)
  | shiftRight first second | shiftLeft first second =>
      rcases exists_register first fits.x with ⟨x, rfl⟩
      rcases exists_register second fits.y with ⟨y, rfl⟩
      exact attempt_accepted (machine.shift_register x y _ _)
  | random number mask =>
      rcases exists_register number fits.x with ⟨x, rfl⟩
      exact congrArg Step.fault (machine.randomise_register x mask)
  | awaitKey number =>
      rcases exists_register number fits.x with ⟨x, rfl⟩
      exact attempt_accepted (machine.awaitKey_register x)
  | setDelay number =>
      rcases exists_register number fits.x with ⟨x, rfl⟩
      exact attempt_accepted (machine.setDelay_register x)
  | setSound number =>
      rcases exists_register number fits.x with ⟨x, rfl⟩
      exact attempt_accepted (machine.setSound_register x)
  | addIndex number | setIndexToGlyph number =>
      rcases exists_register number fits.x with ⟨x, rfl⟩
      exact attempt_accepted (machine.indexFrom_register x _)
  | draw first second height =>
      rcases exists_register first fits.x with ⟨x, rfl⟩
      rcases exists_register second fits.y with ⟨y, rfl⟩
      change (machine.drawSprite _ _ height).fault = outside? machine.index height
      rw [drawSprite_register, outside?]
      split <;> rfl
  | storeDecimal number =>
      rcases exists_register number fits.x with ⟨x, rfl⟩
      change (Step.attempt machine (machine.storeDecimal _)).fault =
        outside? machine.index 3
      rw [storeDecimal_register, outside?]
      split <;> rfl
  | storeRegisters number =>
      rcases exists_register number fits.x with ⟨x, rfl⟩
      change (Step.attempt machine (machine.storeRegisters _)).fault =
        outside? machine.index (x.val + 1)
      rw [storeRegisters_register, outside?]
      split <;> rfl
  | loadRegisters number =>
      rcases exists_register number fits.x with ⟨x, rfl⟩
      change (Step.attempt machine (machine.loadRegisters _)).fault =
        outside? machine.index (x.val + 1)
      rw [loadRegisters_register, outside?]
      split <;> rfl

end Execution

/-! ## The conditions for each kind of fault -/

/-- The operation needs bytes behind the end of memory when it is fetched at
the program counter. -/
def Overreaches (machine : Machine) (operation : Operation) : Prop :=
  match operation with
  | .jump address | .call address => address = 0xFFF
  | .jumpOffset address =>
      4094 < address + (machine.registers.get offsetRegister).toNat
  | .returnFromCall =>
      ∃ newest older, machine.stack.newestFirst = newest :: older ∧
        4094 < newest.toNat
  | .draw _ _ height => 4096 < machine.index + height
  | .storeDecimal _ => 4096 < machine.index + 3
  | .storeRegisters x | .loadRegisters x => 4096 < machine.index + x + 1
  | _ => machine.skips operation ∧ 4094 < machine.pc + 4

section Conditions

variable {machine : Machine} {operation : Operation}

theorem outside?_eq_some_iff {address length : Int} {fault : Fault} :
    outside? address length = some fault ↔
      ¬ Memory.Spans address length ∧ fault = .unmapped address length := by
  unfold outside?
  split
  · rename_i inside
    exact ⟨fun found => absurd found (Option.some_ne_none fault).symm,
      fun found => absurd inside found.1⟩
  · rename_i beyond
    exact ⟨fun found => ⟨beyond, (Option.some.inj found).symm⟩,
      fun found => congrArg some found.2.symm⟩

/-- An access within a distance of memory that can be written leaves memory if
its end does. -/
theorem outside?_unmapped_iff {address length : Int}
    (natural : 0 ≤ address ∧ 0 ≤ length) :
    (∃ place size, outside? address length = some (.unmapped place size)) ↔
      4096 < address + length := by
  have beyond : ¬ Memory.Spans address length ↔ 4096 < address + length := by
    unfold Memory.Spans memorySize
    omega
  simp only [outside?_eq_some_iff, beyond]
  constructor
  · rintro ⟨_, _, found, _⟩
    exact found
  · intro found
    exact ⟨address, length, found, rfl⟩

/-- Moving the program counter behind the word does not change what an
operation skips on. -/
theorem skips_advanced (now : Float) :
    (machine.advanced now).skips operation = machine.skips operation := by
  rw [advanced_eq]
  cases operation <;> rfl

/-- An operation of the last line of the table fails only by skipping out of
memory. -/
theorem skip_unmapped_iff (bounded : machine.Bounded) (now : Float)
    (condition : Bool) :
    (∃ place size,
      (if condition then outside? ((machine.advanced now).pc + 2) 2 else none) =
        some (.unmapped place size)) ↔
      condition = true ∧ 4094 < machine.pc + 4 := by
  have natural : 0 ≤ machine.pc + 2 + 2 ∧ (0 : Int) ≤ 2 := by
    have range := bounded.pc
    omega
  have target : (machine.advanced now).pc + 2 = machine.pc + 2 + 2 := rfl
  cases condition with
  | false => simp
  | true =>
      have beyond : 4096 < machine.pc + 2 + 2 + 2 ↔ 4094 < machine.pc + 4 := by
        omega
      rw [target, if_pos rfl, outside?_unmapped_iff natural, beyond]
      simp only [true_and]

/-- The table has a memory fault exactly for the operations that overreach. -/
theorem hazard_unmapped_iff (bounded : machine.Bounded)
    (fits : operation.FitsWord) (now : Float) :
    (∃ address length, (machine.advanced now).hazard? operation =
      some (.unmapped address length)) ↔ machine.Overreaches operation := by
  have fields := machine.advanced_eq now
  have indexNatural := bounded.index.1
  cases operation with
  | returnFromCall =>
      rw [fields]
      cases content : machine.stack.newestFirst with
      | nil => simp [hazard?, Overreaches, content]
      | cons newest older =>
          simp only [hazard?, Overreaches, content]
          rw [outside?_unmapped_iff (by omega)]
          constructor
          · intro beyond
            exact ⟨newest, older, rfl, by omega⟩
          · rintro ⟨first, rest, same, beyond⟩
            cases same
            omega
  | jump address =>
      have range : 0 ≤ address ∧ address < 4096 := fits.address
      refine (outside?_unmapped_iff (by omega)).trans ?_
      simp only [Overreaches]
      omega
  | call address =>
      have range : 0 ≤ address ∧ address < 4096 := fits.address
      have room : Memory.Spans address 2 ↔ ¬ address = 0xFFF := by
        unfold Memory.Spans memorySize
        omega
      simp only [hazard?, Overreaches]
      by_cases last : address = 0xFFF
      · rw [if_neg (fun both => room.mp both.1 last)]
        refine (outside?_unmapped_iff (by omega)).trans ?_
        omega
      · simp [outside?, room.mpr last, last]
  | jumpOffset address =>
      have range : 0 ≤ address ∧ address < 4096 := fits.address
      rw [fields]
      refine (outside?_unmapped_iff (by omega)).trans ?_
      simp only [Overreaches]
      omega
  | draw x y height =>
      have range : 0 ≤ height ∧ height < 256 := fits.value
      rw [fields]
      exact outside?_unmapped_iff ⟨indexNatural, range.1⟩
  | storeDecimal x =>
      rw [fields]
      exact outside?_unmapped_iff ⟨indexNatural, by decide⟩
  | storeRegisters x | loadRegisters x =>
      have range : 0 ≤ x ∧ x < 16 := fits.x
      rw [fields]
      refine (outside?_unmapped_iff ⟨indexNatural, by omega⟩).trans ?_
      simp only [Overreaches]
      omega
  | _ =>
      simp only [hazard?, Overreaches, skips_advanced]
      exact skip_unmapped_iff bounded now _

theorem hazard_stackEmpty_iff :
    machine.hazard? operation = some .stackEmpty ↔
      operation = .returnFromCall ∧ machine.stack.depth = 0 := by
  cases operation with
  | returnFromCall =>
      cases content : machine.stack.newestFirst with
      | nil => simp [hazard?, content, CallStack.depth]
      | cons newest older =>
          simp [hazard?, content, CallStack.depth, outside?_eq_some_iff]
  | call address =>
      simp only [hazard?]
      split <;> simp [outside?_eq_some_iff]
  | _ => simp [hazard?, outside?_eq_some_iff]

theorem hazard_stackFull_iff (fits : operation.FitsWord) :
    (∃ address depth,
      machine.hazard? operation = some (.stackFull address depth)) ↔
      ∃ address, operation = .call address ∧ address ≤ 0xFFE ∧
        machine.stack.depth = 16 := by
  cases operation with
  | returnFromCall =>
      cases content : machine.stack.newestFirst with
      | nil => simp [hazard?, content]
      | cons newest older => simp [hazard?, content, outside?_eq_some_iff]
  | call address =>
      have range : 0 ≤ address ∧ address < 4096 := fits.address
      have room : Memory.Spans address 2 ↔ address ≤ 0xFFE := by
        unfold Memory.Spans memorySize
        omega
      simp only [hazard?, room, stackSlots]
      split
      · rename_i both
        simp [both]
      · rename_i either
        simp [outside?_eq_some_iff, either]
  | _ => simp [hazard?, outside?_eq_some_iff]

/-- The lengths of the accesses of decoded operations can be written in a
message. -/
theorem isWritable_of_small {length : Int}
    (small : 0 ≤ length ∧ length < 257) : Text.isWritable length = true := by
  rw [Text.isWritable_eq_true_iff]
  apply Text.lt_digitBound
  omega

/-- Every fault in the table is of one of the three kinds. -/
theorem hazard_kinds (fits : operation.FitsWord) {fault : Fault}
    (failed : machine.hazard? operation = some fault) : fault.OfOperation := by
  have memoryKind : ∀ {address length : Int}, 0 ≤ length ∧ length < 257 →
      outside? address length = some fault → fault.OfOperation := by
    intro address length small beyond
    rcases outside?_eq_some_iff.mp beyond with ⟨_, rfl⟩
    exact .unmapped (isWritable_of_small small)
  have word : (0 : Int) ≤ 2 ∧ (2 : Int) < 257 := by
    decide
  cases operation with
  | returnFromCall =>
      simp only [hazard?] at failed
      split at failed
      · cases failed
        exact .stackEmpty
      · exact memoryKind word failed
  | jump address | jumpOffset address => exact memoryKind word failed
  | call address =>
      simp only [hazard?] at failed
      split at failed
      · cases failed
        exact .stackFull
      · exact memoryKind word failed
  | draw x y height =>
      have range : 0 ≤ height ∧ height < 256 := fits.value
      exact memoryKind (by omega) failed
  | storeDecimal x =>
      exact memoryKind (by decide) failed
  | storeRegisters x | loadRegisters x =>
      have range : 0 ≤ x ∧ x < 16 := fits.x
      exact memoryKind (by omega) failed
  | _ =>
      simp only [hazard?] at failed
      split at failed
      · exact memoryKind word failed
      · contradiction

end Conditions

/-! ## Every fault of a cycle -/

/-- A cycle of a bounded machine fails as the table says once it executes. -/
theorem Bounded.cycle_fault {machine : Machine} (bounded : machine.Bounded)
    (now : Float) {operation : Operation}
    (fetches : machine.Fetches operation) :
    (machine.cycle now).fault = (machine.advanced now).hazard? operation := by
  rw [cycle_fault_of_fetches now fetches]
  exact execute_fault (advanced_bounded bounded now fetches.1) machine.word
    fetches.fitsWord

/-- A fault of a cycle of a bounded machine can stop a program. -/
theorem Bounded.cycle_stops {machine : Machine} (bounded : machine.Bounded)
    {now : Float} {fault : Fault}
    (failed : (machine.cycle now).fault = some fault) :
    fault.stopsPrograms = true := by
  rcases machine.fetch_cases with
    outside | ⟨inside, rejected⟩ | ⟨operation, fetches⟩
  · rw [machine.cycle_of_unfetched now outside] at failed
    cases failed
    rfl
  · rw [machine.cycle_of_undecoded now inside rejected] at failed
    cases failed
    rfl
  · rw [bounded.cycle_fault now fetches] at failed
    exact (hazard_kinds fetches.fitsWord failed).stops

/-- What holds of some operation that the cycle fetches holds of the one that
it fetches. -/
theorem Fetches.exists_iff {machine : Machine} {operation : Operation}
    (fetches : machine.Fetches operation) {Holds : Operation → Prop} :
    (∃ fetched, machine.Fetches fetched ∧ Holds fetched) ↔ Holds operation := by
  constructor
  · rintro ⟨fetched, other, holds⟩
    rw [fetches.unique other]
    exact holds
  · exact fun holds => ⟨operation, fetches, holds⟩

/-- The conditions under which a cycle has a fault of each kind.  There are four
kinds: an access that leaves memory, a full stack, an empty stack, and a word
that stands for no instruction. -/
structure FaultConditions (machine : Machine) (outcome : Option Fault) :
    Prop where
  unmapped :
    (∃ address length, outcome = some (.unmapped address length)) ↔
      4094 < machine.pc ∨
        ∃ operation, machine.Fetches operation ∧ machine.Overreaches operation
  stackFull :
    (∃ address depth, outcome = some (.stackFull address depth)) ↔
      ∃ address, machine.Fetches (.call address) ∧ address ≤ 0xFFE ∧
        machine.stack.depth = 16
  stackEmpty :
    outcome = some .stackEmpty ↔
      machine.Fetches .returnFromCall ∧ machine.stack.depth = 0
  unknownWord : ∀ word location,
    outcome = some (.unknownWord word location) ↔
      machine.pc ≤ 4094 ∧ Instruction.decode? machine.word = none ∧
        word = machine.word ∧ location = some machine.pc
  /-- There is no fault of another kind. -/
  kinds : ∀ fault, outcome = some fault →
    fault.OfOperation ∨ ∃ word location, fault = .unknownWord word location

section Cycle

variable {machine : Machine} (now : Float)

theorem faultConditions_of_unfetched (bounded : machine.Bounded)
    (outside : ¬ machine.CanFetch) :
    machine.FaultConditions (machine.cycle now).fault := by
  have beyond : 4094 < machine.pc := by
    have natural := bounded.pc.1
    unfold CanFetch at outside
    omega
  have low : ¬ machine.pc ≤ 4094 := by
    omega
  have unfetched : ∀ operation, ¬ machine.Fetches operation :=
    fun operation fetches => outside fetches.1
  rw [machine.cycle_of_unfetched now outside]
  constructor
  case unmapped =>
    exact ⟨fun _ => Or.inl beyond, fun _ => ⟨machine.pc, 2, rfl⟩⟩
  case stackFull => simp [unfetched]
  case stackEmpty => simp [unfetched]
  case unknownWord => simp [low]
  case kinds =>
    rintro fault ⟨⟩
    exact Or.inl (.unmapped (isWritable_of_small (by decide)))

theorem faultConditions_of_undecoded (inside : machine.CanFetch)
    (rejected : Instruction.decode? machine.word = none) :
    machine.FaultConditions (machine.cycle now).fault := by
  have unfetched : ∀ operation, ¬ machine.Fetches operation := by
    intro operation fetches
    rw [fetches.2] at rejected
    contradiction
  have low : ¬ 4094 < machine.pc := Int.not_lt.mpr inside.2
  rw [machine.cycle_of_undecoded now inside rejected]
  constructor
  case unmapped => simp [unfetched, low]
  case stackFull => simp [unfetched]
  case stackEmpty => simp [unfetched]
  case unknownWord =>
    intro word location
    constructor
    · intro same
      cases same
      exact ⟨inside.2, rejected, rfl, rfl⟩
    · rintro ⟨_, _, rfl, rfl⟩
      rfl
  case kinds =>
    rintro fault ⟨⟩
    exact Or.inr ⟨_, _, rfl⟩

theorem faultConditions_of_fetches (bounded : machine.Bounded)
    {operation : Operation} (fetches : machine.Fetches operation) :
    machine.FaultConditions (machine.cycle now).fault := by
  have low : ¬ 4094 < machine.pc := Int.not_lt.mpr fetches.1.2
  have fits := fetches.fitsWord
  have sameStack : (machine.advanced now).stack = machine.stack := by
    rw [advanced_eq]
  rw [bounded.cycle_fault now fetches]
  constructor
  case unmapped =>
    rw [hazard_unmapped_iff bounded fits now, fetches.exists_iff]
    simp only [low, false_or]
  case stackFull =>
    rw [hazard_stackFull_iff fits, sameStack]
    constructor
    · rintro ⟨address, rfl, room, full⟩
      exact ⟨address, fetches, room, full⟩
    · rintro ⟨address, other, room, full⟩
      exact ⟨address, fetches.unique other, room, full⟩
  case stackEmpty =>
    rw [hazard_stackEmpty_iff, sameStack]
    constructor
    · rintro ⟨rfl, empty⟩
      exact ⟨fetches, empty⟩
    · rintro ⟨other, empty⟩
      exact ⟨fetches.unique other, empty⟩
  case unknownWord =>
    intro word location
    constructor
    · intro failed
      cases hazard_kinds fits failed
    · rintro ⟨_, rejected, _⟩
      rw [fetches.2] at rejected
      contradiction
  case kinds =>
    intro fault failed
    exact Or.inl (hazard_kinds fits failed)

end Cycle

/-- Each fault of a cycle of a reachable machine has its exact condition.  A
cycle to which none of the conditions applies succeeds, and integers that do not
fit their cells, register numbers out of range and unassigned operations never
stop one. -/
theorem cycle_fault_conditions {machine : Machine}
    (reachable : Reachable machine) (now : Float) :
    machine.FaultConditions (machine.cycle now).fault := by
  have bounded := reachable.bounded
  rcases machine.fetch_cases with
    outside | ⟨inside, rejected⟩ | ⟨operation, fetches⟩
  · exact faultConditions_of_unfetched now bounded outside
  · exact faultConditions_of_undecoded now inside rejected
  · exact faultConditions_of_fetches now bounded fetches

/-- A machine whose program returns at once, where nothing was called. -/
def returningAtOnce : Machine :=
  boot ⟨[0x00, 0xEE], by decide, by decide⟩ .chipEight (.ofVariant .chipEight) 0 0

theorem returningAtOnce_fault :
    Reachable returningAtOnce ∧
      (returningAtOnce.cycle 1).fault = some .stackEmpty := by
  have reachable : Reachable returningAtOnce :=
    (loaded_boot _ .chipEight 0 0).reachable
  have fetches : returningAtOnce.Fetches .returnFromCall := by
    decide +kernel
  refine ⟨reachable, ?_⟩
  exact (cycle_fault_conditions reachable 1).stackEmpty.mpr ⟨fetches, rfl⟩

end Machine

end ChipEight
