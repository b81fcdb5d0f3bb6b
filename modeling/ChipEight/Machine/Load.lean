import ChipEight.Machine
import ChipEight.Rom

namespace ChipEight

/-!
# Loading

Loading checks what a host asks for in a fixed order: the program, the variant,
the overridden switches and the seed.  The first thing that is wrong is the one
that is reported.  The machine that results depends on the bytes of the program
and not on where they came from.
-/

/-- What a host asks for.  Without a seed, the time decides. -/
structure LoadRequest where
  source : RomSource
  variant : Setting := .text Variant.chipEight.label
  overrides : List (String × Setting) := []
  seed : Option Int := none

/-- What loading takes from its surroundings: the files, a clock reading, and
the time as a seed. -/
structure Surroundings where
  lookup : String → Except FileFault (List UInt8)
  now : Float
  timestamp : Int

/-- Why loading is refused. -/
inductive LoadFault where
  | rom (fault : RomFault)
  | variant (setting : Setting)
  | switches (names : List String)
  | negativeSeed

/-- The text that reports why loading is refused. -/
def LoadFault.message : LoadFault → String
  | .rom fault => fault.message
  | .variant setting => setting.spelling ++ " is not a valid Variant"
  | .switches names =>
      "Unknown quirks: [" ++
        ", ".intercalate (names.map Text.literal) ++ "]"
  | .negativeSeed => "expected non-negative integer"

namespace Machine

/-- A machine with a program at its place and everything else at rest. -/
def boot (rom : Rom) (variant : Variant) (behaviour : Behaviour) (seed : Nat)
    (now : Float) : Machine :=
  let machine := fresh variant behaviour seed now
  { machine with memory := machine.memory.overlay programStart rom.bytes }

/-- The records of loading a program. -/
def bootRecords (rom : Rom) (machine : Machine) : List Record :=
  let high := machine.memory.byteAt programStart
  let low := machine.memory.byteAt (programStart + 1)
  [ .loaded rom.bytes.length machine.variant,
    .firstWord (256 * high.toNat + low.toNat : Nat) ]

/-- The seed of a machine: the one asked for, or else the time. -/
def chosenSeed (request : LoadRequest) (timestamp : Int) : Int :=
  request.seed.getD timestamp

/-- Load a machine. -/
def load (request : LoadRequest) (surroundings : Surroundings) :
    Except LoadFault Step :=
  match request.source.read surroundings.lookup with
  | .error fault => .error (.rom fault)
  | .ok rom =>
  match Variant.ofSetting? request.variant with
  | none => .error (.variant request.variant)
  | some variant =>
  match Behaviour.unknownSwitches request.overrides with
  | name :: names => .error (.switches (name :: names))
  | [] =>
      let seed := chosenSeed request surroundings.timestamp
      if seed < 0 then .error .negativeSeed
      else
        let behaviour :=
          (Behaviour.ofVariant variant).override request.overrides
        let machine :=
          boot rom variant behaviour seed.toNat surroundings.now
        .ok ⟨machine, bootRecords rom machine, none⟩

end Machine

end ChipEight
