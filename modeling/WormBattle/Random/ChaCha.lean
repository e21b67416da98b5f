/-!
# ChaCha with eight rounds

The ChaCha stream cipher, used as a source of random words. A block of sixteen words depends on
nothing but the key and the block's number, so the stream is a function: `word key n` is its `n`-th
word.

A key is made from a seed of 64 bits by a permuted congruential generator, one word at a time.
-/

namespace WormBattle.ChaCha

/-- The state of the cipher: sixteen words. -/
abbrev Block := Vector UInt32 16

/-- A key: eight words. -/
abbrev Key := Vector UInt32 8

/-- A word turned to the left. -/
def rotateLeft (x : UInt32) (n : UInt32) : UInt32 :=
  (x <<< n) ||| (x >>> (32 - n))

/-- A quarter round mixes four words of the state. -/
def quarterRound (s : Block) (i j k l : Fin 16) : Block :=
  let a := s[i] + s[j]
  let d := rotateLeft (s[l] ^^^ a) 16
  let c := s[k] + d
  let b := rotateLeft (s[j] ^^^ c) 12
  let a := a + b
  let d := rotateLeft (d ^^^ a) 8
  let c := c + d
  let b := rotateLeft (b ^^^ c) 7
  (((s.set i a).set j b).set k c).set l d

/-- A double round mixes the columns of the state, then its diagonals. -/
def doubleRound (s : Block) : Block :=
  let s := quarterRound s 0 4 8 12
  let s := quarterRound s 1 5 9 13
  let s := quarterRound s 2 6 10 14
  let s := quarterRound s 3 7 11 15
  let s := quarterRound s 0 5 10 15
  let s := quarterRound s 1 6 11 12
  let s := quarterRound s 2 7 8 13
  quarterRound s 3 4 9 14

/-- The state before the rounds: four constants, the key, the block's number, and two zeros. -/
def start (key : Key) (number : UInt64) : Block :=
  #v[0x61707865, 0x3320646e, 0x79622d32, 0x6b206574,
    key[0], key[1], key[2], key[3], key[4], key[5], key[6], key[7],
    number.toUInt32, (number >>> 32).toUInt32, 0, 0]

/-- A block of the stream: eight rounds, and the state before them added. -/
def block (key : Key) (number : UInt64) : Block :=
  let s := start key number
  (doubleRound (doubleRound (doubleRound (doubleRound s)))).zipWith (· + ·) s

/-- A word of the stream. -/
def word (key : Key) (n : Nat) : UInt32 :=
  (block key (n / 16).toUInt64).get ⟨n % 16, Nat.mod_lt _ (by decide)⟩

/-- The next state of the generator that expands a seed. -/
def stepSeed (s : UInt64) : UInt64 :=
  s * 6364136223846793005 + 11634580027462260723

/-- The word of the key that a state of the generator gives. -/
def seedWord (s : UInt64) : UInt32 :=
  let x := (((s >>> 18) ^^^ s) >>> 27).toUInt32
  let n := (s >>> 59).toUInt32
  (x >>> n) ||| (x <<< (32 - n))

/-- The key of a seed. -/
def keyOfSeed (seed : UInt64) : Key :=
  let s₁ := stepSeed seed
  let s₂ := stepSeed s₁
  let s₃ := stepSeed s₂
  let s₄ := stepSeed s₃
  let s₅ := stepSeed s₄
  let s₆ := stepSeed s₅
  let s₇ := stepSeed s₆
  let s₈ := stepSeed s₇
  #v[seedWord s₁, seedWord s₂, seedWord s₃, seedWord s₄,
    seedWord s₅, seedWord s₆, seedWord s₇, seedWord s₈]

end WormBattle.ChaCha
