import WormBattle.Random.ChaCha
import WormBattle.Scalar

/-!
# Random numbers

An endless stream of numbers of `[0, 1)`, of which some have been drawn. Which numbers these are is
fixed by the seed; the rules that draw numbers work with any stream.
-/

namespace WormBattle

/-- A stream of numbers and how many of them have been drawn. -/
structure RandomStream (α : Type) where
  /-- The numbers. -/
  number : Nat → α
  /-- How many have been drawn. -/
  drawn : Nat := 0

namespace RandomStream

variable {α : Type}

/-- The next number and the stream after it. -/
def next (s : RandomStream α) : α × RandomStream α :=
  (s.number s.drawn, { s with drawn := s.drawn + 1 })

/-- The number of `[0, 1)` that two words make: of their 64 bits, the second word's first, the upper
53 count. -/
def unit [Scalar α] (low high : UInt32) : α :=
  let bits := low.toUInt64 ||| (high.toUInt64 <<< 32)
  ((bits >>> 11).toNat : α) / ((Nat.pow 2 53 : Nat) : α)

/-- The stream of a seed: each number is made of two words. -/
def ofSeed [Scalar α] (seed : Nat) : RandomStream α :=
  let key := ChaCha.keyOfSeed seed.toUInt64
  { number := fun n => unit (ChaCha.word key (2 * n)) (ChaCha.word key (2 * n + 1)) }

end RandomStream

end WormBattle
