import ChipEight.Machine

namespace ChipEight

/-!
# Executing instructions

Each operation is a change of the machine that either happens as a whole or is
refused.  A refused operation leaves the machine as it was, with two
exceptions: a return has taken its address off the stack before it finds that
the address leaves no room for an instruction, and a random byte has been drawn
before its register is found missing.

Operands are read before anything is written, and the flag is written last, so
it wins when it shares a register with the result.
-/

namespace Machine

/-! ## Control flow -/

/-- The given address, if a whole instruction can be fetched there. -/
def landing (address : Int) : Except Fault Int :=
  if Memory.Spans address 2 then .ok address
  else .error (.unmapped address 2)

/-- Go on at another address. -/
def continueAt (machine : Machine) (address : Int) : Except Fault Machine :=
  (landing address).map fun target => { machine with pc := target }

/-- Count a jump. -/
def countJump (machine : Machine) : Machine :=
  { machine with tally.jumps := machine.tally.jumps + 1 }

/-- Jump to an address. -/
def jump (machine : Machine) (address : Int) : Except Fault Machine :=
  (machine.continueAt address).map countJump

/-- Jump to an address offset by the first register. -/
def jumpOffset (machine : Machine) (address : Int) : Except Fault Machine :=
  machine.jump (address + (machine.registers.get offsetRegister).toNat)

/-- Call the subroutine at an address, to return to the present one. -/
def call (machine : Machine) (address : Int) : Except Fault Machine := do
  let target ← landing address
  let stack ← machine.stack.push machine.pc
  pure
    { machine with
      stack := stack
      pc := target
      tally.calls := machine.tally.calls + 1 }

/-- Count a return. -/
def countReturn (machine : Machine) : Machine :=
  { machine with tally.returns := machine.tally.returns + 1 }

/-- Return to the newest address on the stack. -/
def returnFromCall (machine : Machine) : Step :=
  match machine.stack.pop with
  | .error fault => .stopped machine fault
  | .ok (address, stack) =>
      let popped := { machine with stack := stack }
      .attempt popped ((popped.continueAt address.toNat).map countReturn)

/-- Skip the next instruction if a condition holds. -/
def skipIf (machine : Machine) (condition : Bool) : Except Fault Machine :=
  if condition then machine.continueAt (machine.pc + 2) else .ok machine

/-- Skip the next instruction depending on one register. -/
def skipOn (machine : Machine) (x : Int) (condition : UInt8 → Bool) :
    Except Fault Machine := do
  let first ← machine.registers.read x
  machine.skipIf (condition first)

/-- Skip the next instruction depending on two registers. -/
def skipOnPair (machine : Machine) (x y : Int)
    (condition : UInt8 → UInt8 → Bool) : Except Fault Machine := do
  let first ← machine.registers.read x
  let second ← machine.registers.read y
  machine.skipIf (condition first second)

/-- The key that the low digit of a byte names. -/
def keyOf (byte : UInt8) : Fin 16 :=
  ⟨byte.toNat % 16, Nat.mod_lt byte.toNat (by decide)⟩

/-- Whether the key that the low digit of a byte names is down. -/
def keyDown (machine : Machine) (byte : UInt8) : Bool :=
  machine.keypad.isDown (keyOf byte)

/-! ## Registers -/

/-- The byte that the low eight bits of an integer form. -/
def lowByte (value : Int) : UInt8 :=
  UInt8.ofNat (value % 256).toNat

/-- Replace the register file, unless that was refused. -/
def withRegisters (machine : Machine) (registers : Except Fault Registers) :
    Except Fault Machine :=
  registers.map fun content => { machine with registers := content }

/-- Write an integer to a register. -/
def assign (machine : Machine) (x value : Int) : Except Fault Machine :=
  machine.withRegisters (machine.registers.writeValue x value)

/-- Write a function of a register to that register. -/
def update (machine : Machine) (x : Int) (change : UInt8 → UInt8) :
    Except Fault Machine :=
  machine.withRegisters do
    let content ← machine.registers.read x
    machine.registers.write x (change content)

/-- Copy a register to another. -/
def copy (machine : Machine) (x y : Int) : Except Fault Machine :=
  machine.withRegisters do
    let content ← machine.registers.read y
    machine.registers.write x content

/-- Combine two registers bit by bit into the first.  The flag is cleared if
the behaviour says so. -/
def combineBits (machine : Machine) (x y : Int)
    (combine : UInt8 → UInt8 → UInt8) : Except Fault Machine :=
  machine.withRegisters do
    let first ← machine.registers.read x
    let second ← machine.registers.read y
    let combined ← machine.registers.write x (combine first second)
    pure (if machine.behaviour.logic.isOn then combined.setFlag false
      else combined)

/-- Combine two registers into the first and the flag. -/
def combine (machine : Machine) (x y : Int)
    (result : UInt8 → UInt8 → UInt8) (flag : UInt8 → UInt8 → Bool) :
    Except Fault Machine :=
  machine.withRegisters do
    let first ← machine.registers.read x
    let second ← machine.registers.read y
    let combined ← machine.registers.write x (result first second)
    pure (combined.setFlag (flag first second))

/-- Whether the sum of two bytes needs a ninth bit. -/
def carries (first second : UInt8) : Bool :=
  255 < first.toNat + second.toNat

/-- Shift a register into the first one and the flag.  The behaviour says which
register is shifted. -/
def shift (machine : Machine) (x y : Int) (result : UInt8 → UInt8)
    (flag : UInt8 → Bool) : Except Fault Machine :=
  machine.withRegisters do
    let source ← machine.registers.read
      (if machine.behaviour.shifting.isOn then y else x)
    let shifted ← machine.registers.write x (result source)
    pure (shifted.setFlag (flag source))

/-- The lowest bit of a byte. -/
def lowBit (byte : UInt8) : Bool :=
  byte.toNat % 2 = 1

/-- The highest bit of a byte. -/
def highBit (byte : UInt8) : Bool :=
  128 ≤ byte.toNat

/-- Draw a random byte and write its bits under a mask to a register. -/
def randomise (machine : Machine) (x mask : Int) : Step :=
  let (byte, random) := machine.random.next
  let drawn := { machine with random := random }
  .attempt drawn
    (drawn.withRegisters (drawn.registers.write x (byte &&& lowByte mask)))

/-! ## Keys and timers -/

/-- Write the smallest key that is down to a register, or else go back to fetch
this instruction again. -/
def awaitKey (machine : Machine) (x : Int) : Except Fault Machine :=
  match machine.keypad.firstDown? with
  | some key =>
      machine.withRegisters
        (machine.registers.write x (UInt8.ofNat key.val))
  | none =>
      .ok
        { machine with
          pc := machine.pc - 2
          tally.keyWaits := machine.tally.keyWaits + 1 }

/-- Set the delay timer from a register. -/
def setDelay (machine : Machine) (x : Int) : Except Fault Machine :=
  (machine.registers.read x).map fun byte =>
    { machine with timers.delay := byte.toNat }

/-- Set the sound timer from a register. -/
def setSound (machine : Machine) (x : Int) : Except Fault Machine :=
  (machine.registers.read x).map fun byte =>
    { machine with timers.sound := byte.toNat }

/-! ## Index and memory -/

/-- The low sixteen bits of an integer. -/
def lowDouble (value : Int) : Int :=
  value % 65536

/-- Set the index from a register. -/
def indexFrom (machine : Machine) (x : Int) (index : UInt8 → Int) :
    Except Fault Machine :=
  (machine.registers.read x).map fun byte =>
    { machine with index := index byte }

/-- The address of the glyph of the low digit of a byte. -/
def glyphAddress (byte : UInt8) : Int :=
  fontStart + byte.toNat % 16 * glyphSize

/-- Move the index behind a block of registers if the behaviour says so. -/
def passBlock (machine : Machine) (x : Int) : Machine :=
  if machine.behaviour.memory.isOn then
    { machine with index := lowDouble (machine.index + x + 1) }
  else machine

/-- The three decimal digits of a byte. -/
def decimalDigits (byte : UInt8) : List UInt8 :=
  [ UInt8.ofNat (byte.toNat / 100), UInt8.ofNat (byte.toNat / 10 % 10),
    UInt8.ofNat (byte.toNat % 10) ]

/-- Store the decimal digits of a register at the index. -/
def storeDecimal (machine : Machine) (x : Int) : Except Fault Machine := do
  let byte ← machine.registers.read x
  let memory ← machine.memory.writeBlock machine.index (decimalDigits byte)
  pure { machine with memory := memory }

/-- Store the registers up to the given one at the index. -/
def storeRegisters (machine : Machine) (x : Int) : Except Fault Machine := do
  let block := machine.registers.leading (Registers.countBelow (x + 1))
  let memory ← machine.memory.writeBlock machine.index block
  pure ({ machine with memory := memory }.passBlock x)

/-- Load the registers up to the given one from the index. -/
def loadRegisters (machine : Machine) (x : Int) : Except Fault Machine := do
  let block ← machine.memory.readBlock machine.index (x + 1)
  let wanted := Registers.countBelow (x + 1)
  if block.length = wanted then
    pure
      ({ machine with registers := machine.registers.overlay 0 block }.passBlock
        x)
  else .error (.blockMismatch block.length wanted)

/-! ## Drawing -/

/-- A sprite and the place where it is to be drawn. -/
structure Sprite where
  x : UInt8
  y : UInt8
  rows : List UInt8

/-- The sprite at the index, to be drawn where two registers say. -/
def sprite (machine : Machine) (x y height : Int) : Except Fault Sprite := do
  let column ← machine.registers.read x
  let row ← machine.registers.read y
  let rows ← machine.memory.readBlock machine.index height
  pure ⟨column, row, rows⟩

/-- Draw a sprite, with the collision as the flag. -/
def paint (machine : Machine) (sprite : Sprite) : Machine :=
  let x := sprite.x.toNat
  let y := sprite.y.toNat
  let collision := machine.display.collides x y sprite.rows
  { machine with
    display := machine.display.draw x y sprite.rows
    registers := machine.registers.setFlag collision
    tally.drawings := machine.tally.drawings + 1
    tally.collisions :=
      machine.tally.collisions + if collision then 1 else 0 }

/-- Draw the sprite at the index where two registers say, and record it. -/
def drawSprite (machine : Machine) (x y height : Int) : Step :=
  match machine.sprite x y height with
  | .error fault => .stopped machine fault
  | .ok sprite =>
      (Step.done (machine.paint sprite)).after
        (.drawing sprite.x.toNat sprite.y.toNat height)

/-- Turn every pixel off. -/
def clearDisplay (machine : Machine) : Machine :=
  { machine with
    display := .blank
    tally.clears := machine.tally.clears + 1 }

/-! ## Every instruction -/

/-- Execute one instruction. -/
def execute (machine : Machine) (instruction : Instruction) : Step :=
  match instruction.operation with
  | .system _ => .done machine
  | .clearDisplay => .done machine.clearDisplay
  | .returnFromCall => machine.returnFromCall
  | .jump address => .attempt machine (machine.jump address)
  | .call address => .attempt machine (machine.call address)
  | .skipIfEqual x value =>
      .attempt machine (machine.skipOn x fun a => (a.toNat : Int) == value)
  | .skipIfNotEqual x value =>
      .attempt machine (machine.skipOn x fun a => (a.toNat : Int) != value)
  | .skipIfSame x y =>
      .attempt machine (machine.skipOnPair x y fun a b => a == b)
  | .skipIfDifferent x y =>
      .attempt machine (machine.skipOnPair x y fun a b => a != b)
  | .load x value => .attempt machine (machine.assign x value)
  | .add x value =>
      .attempt machine (machine.update x fun a => a + lowByte value)
  | .copy x y => .attempt machine (machine.copy x y)
  | .or x y => .attempt machine (machine.combineBits x y fun a b => a ||| b)
  | .and x y => .attempt machine (machine.combineBits x y fun a b => a &&& b)
  | .xor x y => .attempt machine (machine.combineBits x y fun a b => a ^^^ b)
  | .addRegister x y =>
      .attempt machine (machine.combine x y (fun a b => a + b) carries)
  | .subtract x y =>
      .attempt machine
        (machine.combine x y (fun a b => a - b) fun a b => decide (b ≤ a))
  | .subtractFrom x y =>
      .attempt machine
        (machine.combine x y (fun a b => b - a) fun a b => decide (a ≤ b))
  | .shiftRight x y =>
      .attempt machine (machine.shift x y (fun a => a >>> 1) lowBit)
  | .shiftLeft x y =>
      .attempt machine (machine.shift x y (fun a => a <<< 1) highBit)
  | .setIndex address => .done { machine with index := address }
  | .jumpOffset address => .attempt machine (machine.jumpOffset address)
  | .random x mask => machine.randomise x mask
  | .draw x y height => machine.drawSprite x y height
  | .skipIfKey x => .attempt machine (machine.skipOn x machine.keyDown)
  | .skipIfNoKey x =>
      .attempt machine (machine.skipOn x fun a => !machine.keyDown a)
  | .readDelay x => .attempt machine (machine.assign x machine.timers.delay)
  | .awaitKey x => .attempt machine (machine.awaitKey x)
  | .setDelay x => .attempt machine (machine.setDelay x)
  | .setSound x => .attempt machine (machine.setSound x)
  | .addIndex x =>
      .attempt machine
        (machine.indexFrom x fun a => lowDouble (machine.index + a.toNat))
  | .setIndexToGlyph x => .attempt machine (machine.indexFrom x glyphAddress)
  | .storeDecimal x => .attempt machine (machine.storeDecimal x)
  | .storeRegisters x => .attempt machine (machine.storeRegisters x)
  | .loadRegisters x => .attempt machine (machine.loadRegisters x)
  | .unassigned _ => .stopped machine (.unassigned instruction)

end Machine

end ChipEight
