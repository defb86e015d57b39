import LiteserverFleet.Random.Source

/-!
# The seeded word source

A 64-bit seed is expanded into a key of eight words by a permuted linear congruential generator.  The words of the
source are those of the ChaCha keystream with twelve rounds under this key, with a 64-bit block counter that
starts at zero and a zero nonce.
-/

set_option autoImplicit false

namespace LiteserverFleet.Random

def rotateLeft (x : UInt32) (bits : UInt32) : UInt32 :=
  (x <<< bits) ||| (x >>> (32 - bits))

def rotateRight (x : UInt32) (bits : UInt32) : UInt32 :=
  (x >>> bits) ||| (x <<< (32 - bits))

namespace SeedExpansion

def step (state : UInt64) : UInt64 :=
  state * 6364136223846793005 + 11634580027462260723

/-- The output of a state: its high bits folded and rotated by its highest ones. -/
def output (state : UInt64) : UInt32 :=
  rotateRight ((((state >>> 18) ^^^ state) >>> 27).toUInt32) (state >>> 59).toUInt32

def words : Nat → UInt64 → List UInt32
  | 0, _ => []
  | count + 1, state => output (step state) :: words count (step state)

end SeedExpansion

abbrev Block := Vector UInt32 16

namespace Block

def quarterRound (s : Block) (a b c d : Fin 16) : Block :=
  let s := s.set a (s[a] + s[b])
  let s := s.set d (rotateLeft (s[d] ^^^ s[a]) 16)
  let s := s.set c (s[c] + s[d])
  let s := s.set b (rotateLeft (s[b] ^^^ s[c]) 12)
  let s := s.set a (s[a] + s[b])
  let s := s.set d (rotateLeft (s[d] ^^^ s[a]) 8)
  let s := s.set c (s[c] + s[d])
  s.set b (rotateLeft (s[b] ^^^ s[c]) 7)

/-- A round over the columns and one over the diagonals. -/
def doubleRound (s : Block) : Block :=
  let s := s.quarterRound 0 4 8 12
  let s := s.quarterRound 1 5 9 13
  let s := s.quarterRound 2 6 10 14
  let s := s.quarterRound 3 7 11 15
  let s := s.quarterRound 0 5 10 15
  let s := s.quarterRound 1 6 11 12
  let s := s.quarterRound 2 7 8 13
  s.quarterRound 3 4 9 14

def doubleRounds : Nat → Block → Block
  | 0, s => s
  | count + 1, s => doubleRounds count s.doubleRound

/-- The block in front of the rounds: four constants, the key, the block counter and a zero nonce. -/
def initial (key : Vector UInt32 8) (counter : UInt64) : Block :=
  #v[0x61707865, 0x3320646E, 0x79622D32, 0x6B206574,
    key[0], key[1], key[2], key[3], key[4], key[5], key[6], key[7],
    counter.toUInt32, (counter >>> 32).toUInt32, 0, 0]

def keystream (key : Vector UInt32 8) (counter : UInt64) : List UInt32 :=
  let start := initial key counter
  let mixed := doubleRounds 6 start
  (start.zipWith (· + ·) mixed).toList

end Block

/-- A place in the keystream of a key: the words of the current block that are left, and the number of the
block behind it. -/
structure Keystream where
  key : Vector UInt32 8
  pending : List UInt32
  nextBlock : UInt64

namespace Keystream

def ofSeed (seed : UInt64) : Keystream :=
  let words := SeedExpansion.words 8 seed
  { key := Vector.ofFn fun i => words.getD i 0, pending := [], nextBlock := 0 }

def next (g : Keystream) : UInt32 × Keystream :=
  match g.pending with
  | word :: rest => (word, { g with pending := rest })
  | [] =>
      match Block.keystream g.key g.nextBlock with
      | word :: rest => (word, { g with pending := rest, nextBlock := g.nextBlock + 1 })
      | [] => (0, { g with nextBlock := g.nextBlock + 1 })

instance : WordSource Keystream where
  next := next

end Keystream

end LiteserverFleet.Random
