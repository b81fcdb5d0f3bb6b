import ChipEight.Proofs.Outcome

namespace ChipEight

/-!
# Arithmetic on registers

The operations that compute with registers take numbers from two registers, put
the result into the first, and most of them put a flag into the flag register.
The operands are read before either is written, and the flag is written last.  So
every register may take any of the roles: if the result shares the register of
the flag, the flag is what is left.

The law is about numbers.  The first part says what the operations on bytes are
as operations on numbers, and the second what is left in which register.
-/

/-! ## Bytes as numbers -/

namespace Machine

section Bytes

variable (a b : UInt8)

theorem toNat_sum : ((a + b).toNat : Int) = (a.toNat + b.toNat) % 256 := by
  rw [UInt8.toNat_add, Int.natCast_emod, Int.natCast_add]
  rfl

theorem toNat_difference :
    ((a - b).toNat : Int) = (a.toNat - b.toNat) % 256 := by
  have small : b.toNat < 256 := b.toNat_lt
  rw [UInt8.toNat_sub]
  omega

/-- Adding the low eight bits of an integer is adding the integer. -/
theorem toNat_sum_lowByte (value : Int) :
    ((a + lowByte value).toNat : Int) = (a.toNat + value) % 256 := by
  have low : (lowByte value).toNat = (value % 256).toNat :=
    UInt8.toNat_ofNat_of_lt' (by change _ < 256; omega)
  rw [toNat_sum, low]
  omega

theorem toNat_half : (a >>> 1).toNat = a.toNat / 2 := by
  rw [UInt8.toNat_shiftRight, Nat.shiftRight_eq_div_pow]
  rfl

theorem toNat_double : (a <<< 1).toNat = 2 * a.toNat % 256 := by
  rw [UInt8.toNat_shiftLeft, Nat.shiftLeft_eq, Nat.mul_comm]
  rfl

theorem decide_le_eq : decide (b ≤ a) = decide (b.toNat ≤ a.toNat) := by
  rw [decide_eq_decide]
  exact UInt8.le_iff_toNat_le

theorem lowBit_eq : lowBit a = a.toNat.testBit 0 :=
  (Nat.testBit_zero a.toNat).symm

theorem highBit_eq : highBit a = a.toNat.testBit 7 := by
  have small : a.toNat < 256 := a.toNat_lt
  rw [highBit, Nat.testBit_eq_decide_div_mod_eq, decide_eq_decide]
  omega

end Bytes

/-! ## What is left in the registers -/

/-- A step puts a number into a register, and then, if there is one, a flag into
the flag register.  It is accepted and changes nothing but these registers. -/
structure Puts (machine : Machine) (x : Fin 16) (result : Int)
    (flag : Option Bool) (step : Step) : Prop where
  done : step = .done { machine with registers := step.machine.registers }
  flagged : ∀ bit, flag = some bit →
    (step.machine.registers.get flagRegister).toNat = bit.toNat
  /-- The result is left unless the flag replaces it. -/
  left : flag = none ∨ x ≠ flagRegister →
    ((step.machine.registers.get x).toNat : Int) = result
  others : ∀ register, register ≠ x → flag = none ∨ register ≠ flagRegister →
    step.machine.registers.get register = machine.registers.get register

section Executions

variable {machine : Machine} {x : Fin 16} {byte : UInt8} {result : Int}

theorem puts_unflagged (number : (byte.toNat : Int) = result) :
    machine.Puts x result none
      (.done { machine with registers := machine.registers.set x byte }) where
  done := rfl
  flagged := fun _ present => nomatch present
  left := fun _ =>
    (congrArg (fun content : UInt8 => (content.toNat : Int))
      (machine.registers.get_set_same x byte)).trans number
  others := fun _ apart _ => machine.registers.get_set_other byte apart

theorem puts_flagged (number : (byte.toNat : Int) = result) (flag : Bool) :
    machine.Puts x result (some flag)
      (.done { machine with
        registers := (machine.registers.set x byte).setFlag flag }) where
  done := rfl
  flagged := by
    rintro bit ⟨⟩
    change (((machine.registers.set x byte).setFlag flag).get
      flagRegister).toNat = flag.toNat
    rw [Registers.setFlag, Registers.get_set_same]
    cases flag <;> rfl
  left := by
    intro shown
    have apart : x ≠ flagRegister := shown.resolve_left (Option.some_ne_none flag)
    change ((((machine.registers.set x byte).setFlag flag).get x).toNat : Int) =
      result
    rw [Registers.setFlag, Registers.get_set_other _ _ apart,
      Registers.get_set_same, number]
  others := by
    intro register apart shown
    have unflagged : register ≠ flagRegister :=
      shown.resolve_left (Option.some_ne_none flag)
    change ((machine.registers.set x byte).setFlag flag).get register = _
    rw [Registers.setFlag, Registers.get_set_other _ _ unflagged,
      Registers.get_set_other _ _ apart]

variable (machine x) (y : Fin 16)

theorem update_puts (change : UInt8 → UInt8)
    (number : ((change (machine.registers.get x)).toNat : Int) = result) :
    machine.Puts x result none
      (.attempt machine (machine.update x.val change)) := by
  rw [update_register]
  exact puts_unflagged number

theorem combine_puts (combined : UInt8 → UInt8 → UInt8)
    (flag : UInt8 → UInt8 → Bool)
    (number : ((combined (machine.registers.get x)
      (machine.registers.get y)).toNat : Int) = result) :
    machine.Puts x result
      (some (flag (machine.registers.get x) (machine.registers.get y)))
      (.attempt machine (machine.combine x.val y.val combined flag)) := by
  rw [combine_register]
  exact puts_flagged number _

theorem shift_puts (shifted : UInt8 → UInt8) (flag : UInt8 → Bool)
    (number : ((shifted (machine.registers.get
      (machine.shiftSource x y))).toNat : Int) = result) :
    machine.Puts x result
      (some (flag (machine.registers.get (machine.shiftSource x y))))
      (.attempt machine (machine.shift x.val y.val shifted flag)) := by
  rw [shift_register]
  exact puts_flagged number _

/-- The bitwise operations clear the flag, or have none. -/
theorem combineBits_puts (combined : UInt8 → UInt8 → UInt8)
    (number : ((combined (machine.registers.get x)
      (machine.registers.get y)).toNat : Int) = result) :
    machine.Puts x result
      (if machine.behaviour.logic.isOn then some false else none)
      (.attempt machine (machine.combineBits x.val y.val combined)) := by
  rw [combineBits_register]
  by_cases clears : machine.behaviour.logic.isOn = true
  · simp only [if_pos clears]
    exact puts_flagged number false
  · simp only [if_neg clears]
    exact puts_unflagged number

theorem toNat_shiftSource :
    (machine.registers.get (machine.shiftSource x y)).toNat =
      if machine.behaviour.shifting.isOn then (machine.registers.get y).toNat
      else (machine.registers.get x).toNat := by
  unfold shiftSource
  split <;> rfl

end Executions

/-- The results and the flags of the operations on registers, in terms of the
numbers in two registers before them.  The two may be the same register, and
either may be the flag register.  The switches say which number a shift takes, and
whether the bitwise operations clear the flag. -/
theorem arithmetic_on_numbers (machine : Machine) (word : Int) (x y : Fin 16)
    (value : Int) :
    let a := (machine.registers.get x).toNat
    let b := (machine.registers.get y).toNat
    let c := if machine.behaviour.shifting.isOn then b else a
    let cleared := if machine.behaviour.logic.isOn then some false else none
    let after := fun operation => machine.execute ⟨word, operation⟩
    machine.Puts x ((a + b) % 256) (some (decide (255 < a + b)))
        (after (.addRegister x.val y.val)) ∧
      machine.Puts x ((a - b) % 256) (some (decide (b ≤ a)))
        (after (.subtract x.val y.val)) ∧
      machine.Puts x ((b - a) % 256) (some (decide (a ≤ b)))
        (after (.subtractFrom x.val y.val)) ∧
      machine.Puts x (c / 2 : Nat) (some (c.testBit 0))
        (after (.shiftRight x.val y.val)) ∧
      machine.Puts x (2 * c % 256 : Nat) (some (c.testBit 7))
        (after (.shiftLeft x.val y.val)) ∧
      machine.Puts x (a ||| b : Nat) cleared (after (.or x.val y.val)) ∧
      machine.Puts x (a &&& b : Nat) cleared (after (.and x.val y.val)) ∧
      machine.Puts x (a ^^^ b : Nat) cleared (after (.xor x.val y.val)) ∧
      machine.Puts x ((a + value) % 256) none (after (.add x.val value)) := by
  intro a b c cleared after
  let first := machine.registers.get x
  let second := machine.registers.get y
  have source : (machine.registers.get (machine.shiftSource x y)).toNat = c :=
    machine.toNat_shiftSource x y
  refine ⟨?add, ?subtract, ?subtractFrom, ?shiftRight, ?shiftLeft, ?or, ?and, ?xor,
    ?immediate⟩
  case add =>
    exact machine.combine_puts x y _ carries (toNat_sum first second)
  case subtract =>
    have law := machine.combine_puts x y (fun a b => a - b)
      (fun a b => decide (b ≤ a)) (toNat_difference first second)
    rwa [decide_le_eq] at law
  case subtractFrom =>
    have law := machine.combine_puts x y (fun a b => b - a)
      (fun a b => decide (a ≤ b)) (toNat_difference second first)
    rwa [decide_le_eq] at law
  case shiftRight =>
    have law := machine.shift_puts x y (fun a => a >>> 1) lowBit
      (congrArg Nat.cast (toNat_half _))
    rwa [lowBit_eq, source] at law
  case shiftLeft =>
    have law := machine.shift_puts x y (fun a => a <<< 1) highBit
      (congrArg Nat.cast (toNat_double _))
    rwa [highBit_eq, source] at law
  case or =>
    exact machine.combineBits_puts x y _
      (congrArg Nat.cast (UInt8.toNat_or first second))
  case and =>
    exact machine.combineBits_puts x y _
      (congrArg Nat.cast (UInt8.toNat_and first second))
  case xor =>
    exact machine.combineBits_puts x y _
      (congrArg Nat.cast (UInt8.toNat_xor first second))
  case immediate =>
    exact machine.update_puts x _ (toNat_sum_lowByte first value)

end Machine

end ChipEight
