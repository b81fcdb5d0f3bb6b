import ChipEight.Proofs.Effects
import ChipEight.Proofs.Frames

namespace ChipEight

/-!
# Which random bytes a program draws

A machine draws random bytes in halves of the 64-bit words that its generator
puts out, and keeps the second half until the next draw.  Seen from outside
there are no halves left over.  The byte at a position is one of two bytes of
the word at half that position, namely the leading byte of the low half at even
positions and of the high half at odd ones.

The position is counted over the whole run.  Every operation that stores a
random byte moves it on by one, even if the mask leaves nothing of the byte, and
nothing else moves it, be it a failing cycle, a countdown or a key.
-/

namespace RandomStream

/-! ## The words of a generator -/

/-- The state of a generator after a number of steps. -/
def stateAfter (stream : RandomStream) : Nat → BitVec 128
  | 0 => stream.state
  | steps + 1 => advance (stream.stateAfter steps) stream.increment

/-- The word at a position that a generator puts out, counted from zero. -/
def output (stream : RandomStream) (position : Nat) : BitVec 64 :=
  emit (stream.stateAfter (position + 1))

/-- The random byte at a position, taken from the words. -/
def outputByte (stream : RandomStream) (position : Nat) : UInt8 :=
  let word := stream.output (position / 2)
  if position % 2 = 0 then .ofBitVec (word.extractLsb' 24 8)
  else .ofBitVec (word.extractLsb' 56 8)

theorem leadingByte_low (word : BitVec 64) :
    leadingByte (word.setWidth 32) = .ofBitVec (word.extractLsb' 24 8) := by
  have same : ((word.setWidth 32) >>> 24).setWidth 8 =
      word.extractLsb' 24 8 := by
    ext bit inside
    simp
    omega
  rw [leadingByte, same]

theorem leadingByte_high (word : BitVec 64) :
    leadingByte ((word >>> 32).setWidth 32) =
      .ofBitVec (word.extractLsb' 56 8) := by
  have same : (((word >>> 32).setWidth 32) >>> 24).setWidth 8 =
      word.extractLsb' 56 8 := by
    ext bit inside
    have shifted : 32 + (24 + bit) = 56 + bit := by omega
    simp [shifted]
    omega
  rw [leadingByte, same]

variable (stream : RandomStream)

theorem skip_add (first second : Nat) :
    stream.skip (first + second) = (stream.skip first).skip second := by
  induction first generalizing stream with
  | zero => rw [Nat.zero_add, skip]
  | succ first inductionHypothesis =>
      rw [Nat.succ_add, skip, skip, inductionHypothesis]

/-- After an even number of draws no half is left over, and the generator has
made half as many steps. -/
theorem skip_double (settled : stream.pending = none) (steps : Nat) :
    stream.skip (2 * steps) =
      { stream with state := stream.stateAfter steps } := by
  induction steps with
  | zero => rfl
  | succ steps inductionHypothesis =>
      rw [Nat.mul_succ, skip_add, inductionHypothesis]
      simp only [skip, next, settled, stateAfter]

/-- The bytes that are drawn are the bytes of the words. -/
theorem byteAt_eq_outputByte (settled : stream.pending = none)
    (position : Nat) : stream.byteAt position = stream.outputByte position := by
  have parts : position = 2 * (position / 2) + position % 2 :=
    (Nat.div_add_mod position 2).symm
  rcases Nat.mod_two_eq_zero_or_one position with even | odd
  · rw [even, Nat.add_zero] at parts
    rw [outputByte, if_pos even, byteAt, parts, stream.skip_double settled,
      ← parts]
    simp only [next, settled]
    exact leadingByte_low _
  · rw [odd] at parts
    rw [outputByte, if_neg (by omega), byteAt, parts, skip_add,
      stream.skip_double settled, ← parts]
    simp only [skip, next, settled]
    exact leadingByte_high _

end RandomStream

/-- A cycle stores a random byte. -/
def Turn.draws (turn : Turn) : Bool :=
  match turn.machine.fetched? with
  | some (.random _ _) => true
  | _ => false

theorem Turn.draws_eq_true_iff {turn : Turn} :
    turn.draws = true ↔ ∃ x mask, turn.machine.Fetches (.random x mask) := by
  unfold draws
  constructor
  · intro draws
    split at draws
    · rename_i x mask found
      exact ⟨x, mask, Machine.fetched?_eq_some_iff.mp found⟩
    · contradiction
  · rintro ⟨x, mask, fetches⟩
    rw [Machine.fetched?_eq_some_iff.mpr fetches]

namespace Machine

variable {machine : Machine}

/-- A machine is only loaded with a natural seed. -/
theorem load_seed {request : LoadRequest} {surroundings : Surroundings}
    {step : Step} (loaded : load request surroundings = .ok step) :
    ∃ seed : Nat, chosenSeed request surroundings.timestamp = seed ∧
      step.machine.random = .ofSeed seed := by
  rcases load_boots loaded with ⟨rom, variant, found, named, known, booted⟩
  have natural : 0 ≤ chosenSeed request surroundings.timestamp := by
    apply Int.not_lt.mp
    intro negative
    simp only [load, found, named, known, if_pos negative] at loaded
    contradiction
  refine ⟨_, (Int.toNat_of_nonneg natural).symm, ?_⟩
  rw [booted]
  rfl

/-- Storing a random byte takes the next one and keeps its bits under the mask. -/
theorem cycle_draws (now : Float) {x mask : Int}
    (fetches : machine.Fetches (.random x mask)) :
    (machine.cycle now).fault = none ∧
      (machine.cycle now).machine.random = machine.random.next.2 ∧
      ∃ (register : Fin 16) (bits : UInt8), x = register.val ∧
        mask = bits.toNat ∧
        (machine.cycle now).machine.registers.get register =
          machine.random.next.1 &&& bits := by
  have fits : (0 ≤ x ∧ x < 16) ∧ 0 ≤ mask ∧ mask < 256 :=
    ⟨fetches.fitsWord.x, fetches.fitsWord.value⟩
  rcases exists_register x fits.1 with ⟨register, rfl⟩
  have same : lowByte mask = UInt8.ofNat mask.toNat := by
    rw [lowByte, Int.emod_eq_of_lt fits.2.1 fits.2.2]
  have executed : (machine.advanced now).execute
      ⟨machine.word, .random register.val mask⟩ =
        .done { machine.advanced now with
          random := machine.random.next.2
          registers := machine.registers.set register
            (machine.random.next.1 &&& UInt8.ofNat mask.toNat) } := by
    have stored := (machine.advanced now).randomise_register register mask
    rw [same] at stored
    exact stored.trans (by rw [advanced_eq])
  refine ⟨?_, ?_, register, UInt8.ofNat mask.toNat, rfl, ?_, ?_⟩
  · rw [cycle_fault_of_fetches now fetches, executed]
    rfl
  · rw [cycle_part_of_fetches now fetches random fun _ => rfl, executed]
    rfl
  · rw [UInt8.toNat_ofNat_of_lt' (by change _ < 256; omega)]
    omega
  · rw [cycle_part_of_fetches now fetches registers fun _ => rfl, executed]
    exact Registers.get_set_same _ _ _

/-- Every other cycle leaves the random stream. -/
theorem cycle_random_of_undrawn (now : Float)
    (undrawn : ∀ x mask, ¬ machine.Fetches (.random x mask)) :
    (machine.cycle now).machine.random = machine.random := by
  have kept : Part.random.Same machine (machine.cycle now).machine := by
    apply machine.cycle_frame now (by decide)
    intro operation fetches written
    cases operation with
    | random x mask => exact undrawn x mask fetches
    | _ => simp [Operation.writes] at written
  exact kept

/-- A cycle moves the random stream on by one draw or not at all. -/
theorem cycle_random (turn : Turn) :
    turn.step.machine.random =
      turn.machine.random.skip (if turn.draws then 1 else 0) := by
  split
  · rename_i drawn
    rcases Turn.draws_eq_true_iff.mp drawn with ⟨x, mask, fetches⟩
    exact (cycle_draws turn.now fetches).2.1
  · rename_i undrawn
    apply cycle_random_of_undrawn
    intro x mask fetches
    exact undrawn (Turn.draws_eq_true_iff.mpr ⟨x, mask, fetches⟩)

/-- A key that is moved leaves the random stream. -/
theorem respond_key_random (machine : Machine) (number : Int) (pressed : Bool) :
    (machine.respond (.key number pressed)).random = machine.random := by
  rcases machine.respond_key number pressed with ⟨keypad, moved⟩
  rw [moved]

/-- A history moves the random stream on by one draw for each cycle that stores
a random byte. -/
theorem follow_random (start : Machine) (events : List Event) :
    (start.follow events).random =
      start.random.skip ((start.turns events).countP Turn.draws) := by
  apply turns_induction fun turns machine =>
    machine.random = start.random.skip (turns.countP Turn.draws)
  · rfl
  · intro turns before now reached
    rw [List.countP_append, List.countP_singleton, RandomStream.skip_add,
      ← reached]
    exact cycle_random ⟨before, now⟩
  · intro turns before number pressed reached
    rw [before.respond_key_random, reached]

/-- A loaded machine has a natural seed, and however its run goes, it draws the
bytes of this seed in order.  What the next cycle stores is the byte whose
position is the number of random bytes stored before, under the mask of the
operation.  Counting down, moving a key, and every cycle that does not fetch this
operation leave the stream. -/
theorem random_draws {request : LoadRequest} {surroundings : Surroundings}
    {step : Step} (loaded : load request surroundings = .ok step) :
    ∃ seed : Nat, chosenSeed request surroundings.timestamp = seed ∧
      ∀ events,
        let left := step.machine.follow events
        let position := (step.machine.turns events).countP Turn.draws
        left.random = (RandomStream.ofSeed seed).skip position ∧
          (∀ number pressed,
            (left.respond (.key number pressed)).random = left.random) ∧
          ∀ now,
            (left.tick now).random = left.random ∧
            ((∀ x mask, ¬ left.Fetches (.random x mask)) →
              (left.cycle now).machine.random = left.random) ∧
            ∀ x mask, left.Fetches (.random x mask) →
              (left.cycle now).fault = none ∧
                (left.cycle now).machine.random = left.random.next.2 ∧
                ∃ (register : Fin 16) (bits : UInt8), x = register.val ∧
                  mask = bits.toNat ∧
                  (left.cycle now).machine.registers.get register =
                    (RandomStream.ofSeed seed).outputByte position &&& bits := by
  rcases load_seed loaded with ⟨seed, chosen, seeded⟩
  refine ⟨seed, chosen, ?_⟩
  intro events left position
  have reached : left.random = (RandomStream.ofSeed seed).skip position := by
    rw [← seeded]
    exact step.machine.follow_random events
  have following : left.random.next.1 =
      (RandomStream.ofSeed seed).outputByte position := by
    rw [reached, ← RandomStream.byteAt_eq_outputByte _ rfl]
    rfl
  refine ⟨reached, left.respond_key_random, ?_⟩
  intro now
  refine ⟨by rw [tick_eq], cycle_random_of_undrawn now, ?_⟩
  intro x mask fetches
  rw [← following]
  exact cycle_draws now fetches

/-- A program that stores two random bytes, of which the first mask leaves
nothing, and starts again. -/
def maskedDrawer : Rom where
  bytes := [0xC1, 0x00, 0xC2, 0xFF, 0x12, 0x00]
  nonempty := by decide
  fits := by decide

/-- The seed takes three words, and the second of its bytes is 115.  Masking the first
byte away has drawn it all the same. -/
theorem maskedDrawer_stores_second_byte :
    ∃ request surroundings step, load request surroundings = .ok step ∧
      request.seed = some 0x10000000000000000 ∧
      (step.machine.follow [.cycle 0, .key 3 true]).Fetches (.random 2 255) ∧
      ∃ (register : Fin 16) (bits : UInt8), 2 = (register.val : Int) ∧
        255 = (bits.toNat : Int) ∧
        ((step.machine.follow [.cycle 0, .key 3 true]).cycle
          1).machine.registers.get register = 115 &&& bits := by
  have plain : Behaviour.unknownSwitches [] = [] := by
    simp [Behaviour.unknownSwitches]
  let surroundings : Surroundings := ⟨fun _ => .ok [], 0, 0⟩
  rcases load_of_known maskedDrawer .chipEight plain 0x10000000000000000
    surroundings with ⟨step, loaded, booted⟩
  rcases random_draws loaded with ⟨seed, chosen, draws⟩
  have same : seed = 0x10000000000000000 := Int.ofNat.inj chosen.symm
  have fetches : (step.machine.follow [.cycle 0, .key 3 true]).Fetches
      (.random 2 255) := by
    rw [booted]
    decide +kernel
  have position : (step.machine.turns
      [.cycle 0, .key 3 true]).countP Turn.draws = 1 := by
    rw [booted]
    decide +kernel
  have second : (RandomStream.ofSeed 0x10000000000000000).outputByte 1 = 115 := by
    decide +kernel
  have stored := ((draws [.cycle 0, .key 3 true]).2.2 1).2.2 2 255 fetches
  rw [same, position, second] at stored
  exact ⟨_, surroundings, step, loaded, rfl, fetches, stored.2.2⟩

end Machine

end ChipEight
