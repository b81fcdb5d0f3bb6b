import ChipEight.Instruction

namespace ChipEight

/-!
# Decoding and encoding instruction words

A word is sixteen bits.  Its leading digit selects a family, and within some
families the trailing digit or byte selects the operation.  Decoding looks at
nothing but the word.  Encoding puts an operation's operands back into the
pattern of its family.  It gives back the word that was decoded, except that
the second digit of a clear or a return is ignored and so is lost.
-/

namespace Operation

/-- The system family.  Only the trailing byte selects, so `0x0NEE` is a return
for every digit `N`. -/
def ofSystemWord (word : Nat) : Option Operation :=
  match word % 256 with
  | 0xE0 => some .clearDisplay
  | 0xEE => some .returnFromCall
  | 0x00 => some (.system (word % 4096 : Nat))
  | _ => none

/-- The operations on two registers, selected by the trailing digit. -/
def ofRegisterWord (word : Nat) : Option Operation :=
  let x : Int := (word / 256 % 16 : Nat)
  let y : Int := (word / 16 % 16 : Nat)
  match word % 16 with
  | 0x0 => some (.copy x y)
  | 0x1 => some (.or x y)
  | 0x2 => some (.and x y)
  | 0x3 => some (.xor x y)
  | 0x4 => some (.addRegister x y)
  | 0x5 => some (.subtract x y)
  | 0x6 => some (.shiftRight x y)
  | 0x7 => some (.subtractFrom x y)
  | 0xE => some (.shiftLeft x y)
  | _ => none

/-- The operations on the keypad, selected by the trailing byte. -/
def ofKeyWord (word : Nat) : Option Operation :=
  let x : Int := (word / 256 % 16 : Nat)
  match word % 256 with
  | 0x9E => some (.skipIfKey x)
  | 0xA1 => some (.skipIfNoKey x)
  | _ => none

/-- The operations on timers, index and register blocks, selected by the
trailing byte. -/
def ofDeviceWord (word : Nat) : Option Operation :=
  let x : Int := (word / 256 % 16 : Nat)
  match word % 256 with
  | 0x07 => some (.readDelay x)
  | 0x0A => some (.awaitKey x)
  | 0x15 => some (.setDelay x)
  | 0x18 => some (.setSound x)
  | 0x1E => some (.addIndex x)
  | 0x29 => some (.setIndexToGlyph x)
  | 0x33 => some (.storeDecimal x)
  | 0x55 => some (.storeRegisters x)
  | 0x65 => some (.loadRegisters x)
  | _ => none

/-- The operation of a word below `0x10000`. -/
def ofWord (word : Nat) : Option Operation :=
  let x : Int := (word / 256 % 16 : Nat)
  let y : Int := (word / 16 % 16 : Nat)
  let value : Int := (word % 256 : Nat)
  let address : Int := (word % 4096 : Nat)
  match word / 4096 with
  | 0x0 => ofSystemWord word
  | 0x1 => some (.jump address)
  | 0x2 => some (.call address)
  | 0x3 => some (.skipIfEqual x value)
  | 0x4 => some (.skipIfNotEqual x value)
  | 0x5 => if word % 16 = 0 then some (.skipIfSame x y) else none
  | 0x6 => some (.load x value)
  | 0x7 => some (.add x value)
  | 0x8 => ofRegisterWord word
  | 0x9 => if word % 16 = 0 then some (.skipIfDifferent x y) else none
  | 0xA => some (.setIndex address)
  | 0xB => some (.jumpOffset address)
  | 0xC => some (.random x value)
  | 0xD => some (.draw x y (word % 16 : Nat))
  | 0xE => ofKeyWord word
  | 0xF => ofDeviceWord word
  | _ => none

/-- The word of an operation.  An unassigned operation has none. -/
def encode : Operation → Option Int
  | .system address => some address
  | .clearDisplay => some 0x00E0
  | .returnFromCall => some 0x00EE
  | .jump address => some (0x1000 + address)
  | .call address => some (0x2000 + address)
  | .skipIfEqual x value => some (0x3000 + 256 * x + value)
  | .skipIfNotEqual x value => some (0x4000 + 256 * x + value)
  | .skipIfSame x y => some (0x5000 + 256 * x + 16 * y)
  | .load x value => some (0x6000 + 256 * x + value)
  | .add x value => some (0x7000 + 256 * x + value)
  | .copy x y => some (0x8000 + 256 * x + 16 * y)
  | .or x y => some (0x8001 + 256 * x + 16 * y)
  | .and x y => some (0x8002 + 256 * x + 16 * y)
  | .xor x y => some (0x8003 + 256 * x + 16 * y)
  | .addRegister x y => some (0x8004 + 256 * x + 16 * y)
  | .subtract x y => some (0x8005 + 256 * x + 16 * y)
  | .shiftRight x y => some (0x8006 + 256 * x + 16 * y)
  | .subtractFrom x y => some (0x8007 + 256 * x + 16 * y)
  | .shiftLeft x y => some (0x800E + 256 * x + 16 * y)
  | .skipIfDifferent x y => some (0x9000 + 256 * x + 16 * y)
  | .setIndex address => some (0xA000 + address)
  | .jumpOffset address => some (0xB000 + address)
  | .random x value => some (0xC000 + 256 * x + value)
  | .draw x y value => some (0xD000 + 256 * x + 16 * y + value)
  | .skipIfKey x => some (0xE09E + 256 * x)
  | .skipIfNoKey x => some (0xE0A1 + 256 * x)
  | .readDelay x => some (0xF007 + 256 * x)
  | .awaitKey x => some (0xF00A + 256 * x)
  | .setDelay x => some (0xF015 + 256 * x)
  | .setSound x => some (0xF018 + 256 * x)
  | .addIndex x => some (0xF01E + 256 * x)
  | .setIndexToGlyph x => some (0xF029 + 256 * x)
  | .storeDecimal x => some (0xF033 + 256 * x)
  | .storeRegisters x => some (0xF055 + 256 * x)
  | .loadRegisters x => some (0xF065 + 256 * x)
  | .unassigned _ => none

end Operation

/-- Decode a word.  Integers outside the sixteen-bit range are no words. -/
def Instruction.decode? (word : Int) : Option Instruction :=
  if 0 ≤ word ∧ word ≤ 0xFFFF then
    (Operation.ofWord word.toNat).map (Instruction.mk word)
  else none

end ChipEight
