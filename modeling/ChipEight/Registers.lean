import ChipEight.Cell

namespace ChipEight

/-!
# Registers

There are sixteen registers of one byte.  The last one, `F`, also receives the
flag of arithmetic and of drawing.  A register number counts from the first
register, or, if it is negative, from behind the last one.
-/

/-- The register file. -/
structure Registers where
  cells : Vector UInt8 16

/-- The register that offsets jumps. -/
def offsetRegister : Fin 16 := ⟨0, by decide⟩

/-- The register that receives flags. -/
def flagRegister : Fin 16 := ⟨15, by decide⟩

namespace Registers

/-- A register file of zeros. -/
def zero : Registers :=
  ⟨Vector.replicate 16 0⟩

theorem inside_of_lower {index : Int} (lower : 0 ≤ index ∧ index < 16) :
    index.toNat < 16 := by
  omega

theorem inside_of_upper {index : Int} (upper : -16 ≤ index ∧ index < 0) :
    (index + 16).toNat < 16 := by
  omega

theorem register_lt (register : Fin 16) : register.val < 16 :=
  register.isLt

/-- Why a number stands for no register.  A number that 64 bits hold without a
sign is still a number, but it does not count. -/
def refusal (index : Int) : Fault :=
  if Fault.IsWide index then .noRegister index
  else if 0 ≤ index ∧ index < 2 * Fault.wideBound then .tooWide index
  else .noNumber index

/-- The register that a number stands for. -/
def slot (index : Int) : Except Fault (Fin 16) :=
  if lower : 0 ≤ index ∧ index < 16 then
    .ok ⟨index.toNat, inside_of_lower lower⟩
  else if upper : -16 ≤ index ∧ index < 0 then
    .ok ⟨(index + 16).toNat, inside_of_upper upper⟩
  else .error (refusal index)

/-- The content of a register. -/
def get (registers : Registers) (register : Fin 16) : UInt8 :=
  registers.cells.get register

/-- Put a byte into a register. -/
def set (registers : Registers) (register : Fin 16) (byte : UInt8) :
    Registers :=
  ⟨registers.cells.set register byte (register_lt register)⟩

/-- Read the register that a number stands for. -/
def read (registers : Registers) (index : Int) : Except Fault UInt8 :=
  (slot index).map registers.get

/-- Write the register that a number stands for. -/
def write (registers : Registers) (index : Int) (byte : UInt8) :
    Except Fault Registers :=
  (slot index).map fun register => registers.set register byte

/-- Write an integer, which has to be a byte.  A wrong register number is
reported before a wrong value. -/
def writeValue (registers : Registers) (index value : Int) :
    Except Fault Registers :=
  match slot index, byteOf value with
  | .error fault, _ => .error fault
  | .ok _, .error fault => .error fault
  | .ok register, .ok byte => .ok (registers.set register byte)

/-- Write the flag. -/
def setFlag (registers : Registers) (flag : Bool) : Registers :=
  registers.set flagRegister (if flag then 1 else 0)

/-! ## Blocks of leading registers -/

/-- How many leading registers lie below an end.  A negative end counts from
behind the last register. -/
def countBelow (stop : Int) : Nat :=
  if stop < 0 then (stop + 16).toNat else min stop.toNat 16

/-- The contents of the first `count` registers. -/
def leading (registers : Registers) (count : Nat) : List UInt8 :=
  registers.cells.toList.take count

/-- Overwrite consecutive registers from a given one on, as far as there are
registers. -/
def overlay (registers : Registers) (start : Nat) : List UInt8 → Registers
  | [] => registers
  | byte :: rest =>
      Registers.overlay ⟨registers.cells.setIfInBounds start byte⟩
        (start + 1) rest

theorem get_eq (registers : Registers) (register : Fin 16) :
    registers.get register = registers.cells[register.val] :=
  rfl

@[simp] theorem get_set_same (registers : Registers) (register : Fin 16)
    (byte : UInt8) : (registers.set register byte).get register = byte := by
  simp [get_eq, set]

theorem get_set_other (registers : Registers) {register other : Fin 16}
    (byte : UInt8) (different : other ≠ register) :
    (registers.set register byte).get other = registers.get other := by
  have apart : register.val ≠ other.val := fun same =>
    different (Fin.ext same.symm)
  simp [get_eq, set, apart]

/-- Overwriting registers with a block puts each of its bytes into the register
that many places on, and leaves the others. -/
theorem get_overlay (registers : Registers) (start : Nat) (block : List UInt8)
    (register : Fin 16) :
    (registers.overlay start block).get register =
      if start ≤ register.val ∧ register.val < start + block.length then
        block[register.val - start]?.getD 0
      else registers.get register := by
  induction block generalizing registers start with
  | nil =>
      have outside : ¬ (start ≤ register.val ∧ register.val < start + 0) := by
        omega
      rw [overlay, List.length_nil, if_neg outside]
  | cons byte rest inductionHypothesis =>
      rw [overlay, inductionHypothesis, List.length_cons]
      by_cases first : register.val = start
      · subst first
        have later : ¬ register.val + 1 ≤ register.val := by omega
        simp [later, get_eq]
      · have kept : get ⟨registers.cells.setIfInBounds start byte⟩ register =
            registers.get register := by
          have apart : start ≠ register.val := fun same => first same.symm
          simp [get_eq, apart]
        by_cases later : start + 1 ≤ register.val ∧
            register.val < start + 1 + rest.length
        · have whole : start ≤ register.val ∧
              register.val < start + (rest.length + 1) := by omega
          have shift : register.val - start =
              register.val - (start + 1) + 1 := by omega
          rw [if_pos later, if_pos whole, shift, List.getElem?_cons_succ]
        · have whole : ¬ (start ≤ register.val ∧
              register.val < start + (rest.length + 1)) := by omega
          rw [if_neg later, if_neg whole, kept]

end Registers

end ChipEight
