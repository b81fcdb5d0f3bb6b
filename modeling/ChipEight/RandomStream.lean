namespace ChipEight

/-!
# The stream of random bytes

A seed, any natural number, fixes an endless stream of bytes.  The words of the
seed are stirred into a pool of four words, and the pool gives the state and
the increment of a congruential generator on 128 bits.  Each step of the
generator is folded to 64 bits and rotated by its own leading bits.  A step
serves two draws, first with the low and then with the high half, and a draw is
the leading byte of its half.
-/

/-- A generator between two draws.  `pending` is the half that the next draw
takes, if the last draw left one. -/
structure RandomStream where
  state : BitVec 128
  increment : BitVec 128
  pending : Option (BitVec 32)
  deriving DecidableEq

namespace RandomStream

/-! ## Stirring the seed -/

/-- The 32-bit words of a number, lowest first, without leading zeros.  Zero
has one word. -/
def seedWords (seed : Nat) : List (BitVec 32) :=
  if seed < 0x100000000 then [BitVec.ofNat 32 seed]
  else BitVec.ofNat 32 seed :: seedWords (seed / 0x100000000)
termination_by seed
decreasing_by omega

/-- Fold the upper half of a word onto its lower half. -/
def foldHalves (word : BitVec 32) : BitVec 32 :=
  word ^^^ (word >>> 16)

/-- Scramble a word with a running constant, and step the constant on by its
multiplier. -/
def scramble (multiplier constant word : BitVec 32) :
    BitVec 32 × BitVec 32 :=
  let next := constant * multiplier
  (foldHalves ((word ^^^ constant) * next), next)

/-- Stir one word into another. -/
def stir (target word : BitVec 32) : BitVec 32 :=
  foldHalves (0xca01f9dd * target - 0x4973f715 * word)

/-- Four words and the running constant with which they are scrambled. -/
structure Pool where
  words : Vector (BitVec 32) 4
  constant : BitVec 32

namespace Pool

/-- The multiplier of the running constant while a pool is stirred. -/
def multiplier : BitVec 32 := 0x931e8875

/-- A pool that starts with the first four words of a seed.  A missing word
counts as zero. -/
def start (seed : List (BitVec 32)) : Pool :=
  [0, 1, 2, 3].foldl
    (fun pool index =>
      let (word, constant) := scramble multiplier pool.constant (seed.getD index 0)
      ⟨pool.words.setIfInBounds index word, constant⟩)
    ⟨Vector.replicate 4 0, 0x43b0d7e5⟩

/-- Scramble a word and stir it into one word of the pool. -/
def absorb (pool : Pool) (index : Nat) (word : BitVec 32) : Pool :=
  let (scrambled, constant) := scramble multiplier pool.constant word
  ⟨pool.words.setIfInBounds index (stir (pool.words[index]?.getD 0) scrambled),
    constant⟩

/-- Stir every word of the pool into the three others. -/
def blend (pool : Pool) : Pool :=
  [0, 1, 2, 3].foldl
    (fun outer source =>
      [0, 1, 2, 3].foldl
        (fun inner target =>
          if source = target then inner
          else inner.absorb target (inner.words[source]?.getD 0))
        outer)
    pool

/-- Stir one more word of the seed into every word of the pool. -/
def absorbEverywhere (pool : Pool) (word : BitVec 32) : Pool :=
  [0, 1, 2, 3].foldl (fun inner target => inner.absorb target word) pool

/-- The pool of a seed. -/
def ofSeed (seed : Nat) : Pool :=
  let words := seedWords seed
  (words.drop 4).foldl absorbEverywhere (start words).blend

/-- Scrambled words drawn from the pool in turn, from a position on. -/
def draw (pool : Pool) (constant : BitVec 32) (position : Nat) :
    Nat → List (BitVec 32)
  | 0 => []
  | count + 1 =>
      let (word, next) :=
        scramble 0x58f38ded constant (pool.words[position % 4]?.getD 0)
      word :: draw pool next (position + 1) count

/-- Join words of 32 bits in pairs, the low one first. -/
def pairs : List (BitVec 32) → List (BitVec 64)
  | low :: high :: rest => (high ++ low) :: pairs rest
  | _ => []

/-- The four 64-bit words that set up a generator. -/
def output (pool : Pool) : List (BitVec 64) :=
  pairs (pool.draw 0x8b51f9dd 0 8)

end Pool

/-! ## The generator -/

/-- The multiplier of the congruential step. -/
def multiplier : BitVec 128 := 0x2360ED051FC65DA44385DF649FCCF645

/-- The congruential step. -/
def advance (state increment : BitVec 128) : BitVec 128 :=
  state * multiplier + increment

/-- The 64 bits that a state shows: its halves folded together and rotated
right by its six leading bits. -/
def emit (state : BitVec 128) : BitVec 64 :=
  let folded := (state >>> 64) ^^^ state
  (folded.setWidth 64).rotateRight (state >>> 122).toNat

/-- The generator of a seed. -/
def ofSeed (seed : Nat) : RandomStream :=
  let words := (Pool.ofSeed seed).output
  let origin := words.getD 0 0 ++ words.getD 1 0
  let increment := ((words.getD 2 0 ++ words.getD 3 0) <<< 1) ||| 1
  let first := advance 0 increment + origin
  ⟨advance first increment, increment, none⟩

/-- The leading byte of a half. -/
def leadingByte (half : BitVec 32) : UInt8 :=
  UInt8.ofBitVec ((half >>> 24).setWidth 8)

/-- Draw one byte. -/
def next (stream : RandomStream) : UInt8 × RandomStream :=
  match stream.pending with
  | some half => (leadingByte half, { stream with pending := none })
  | none =>
      let state := advance stream.state stream.increment
      let word := emit state
      (leadingByte (word.setWidth 32),
        ⟨state, stream.increment, some ((word >>> 32).setWidth 32)⟩)

/-- The stream after a number of draws. -/
def skip (stream : RandomStream) : Nat → RandomStream
  | 0 => stream
  | count + 1 => stream.next.2.skip count

/-- The byte at a position of the stream, counted from zero. -/
def byteAt (stream : RandomStream) (position : Nat) : UInt8 :=
  (stream.skip position).next.1

end RandomStream

end ChipEight
