/-! Random draws. The engine has 256 bits of state, from which 64 bits are drawn at a time by
additions, rotations and exclusive or (xoshiro256++); a seed of 64 bits is spread over the state by a
linear congruential generator with permuted output.

For a draw from a range, a word is multiplied by the size of the range. The high part of the product
is the value, and the word is rejected if the low part lies outside a zone that holds the same number
of words for every value. How often a draw may be rejected is bounded, and a draw that finds no word
within the bound has no value; a value that it has is in the range. -/

namespace ScentedGrid.Draw

/-! ## Words -/

structure Engine where
  first : UInt64
  second : UInt64
  third : UInt64
  fourth : UInt64
  deriving DecidableEq

def rotateLeft (word : UInt64) (count : UInt64) : UInt64 :=
  (word <<< count) ||| (word >>> (64 - count))

def rotateRight (word : UInt32) (count : UInt32) : UInt32 :=
  (word >>> count) ||| (word <<< (32 - count))

namespace Engine

def next (engine : Engine) : UInt64 × Engine :=
  let word := rotateLeft (engine.first + engine.fourth) 23 + engine.first
  let third := engine.third ^^^ engine.first
  let fourth := engine.fourth ^^^ engine.second
  (word,
    { first := engine.first ^^^ fourth
      second := engine.second ^^^ third
      third := third ^^^ (engine.second <<< 17)
      fourth := rotateLeft fourth 45 })

/-- The upper half of the next 64 bits. -/
def nextHalf (engine : Engine) : UInt32 × Engine :=
  let (word, engine) := engine.next
  ((word >>> 32).toUInt32, engine)

def spread (seed : UInt64) : UInt64 := seed * 6364136223846793005 + 11634580027462260723

/-- The 32 bits that stand for one state of the seed. -/
def permuted (seed : UInt64) : UInt32 :=
  rotateRight (((seed >>> 18) ^^^ seed) >>> 27).toUInt32 (seed >>> 59).toUInt32

/-- Two halves, the lower one first, and the seed after them. -/
def seedWord (seed : UInt64) : UInt64 × UInt64 :=
  let low := spread seed
  let high := spread low
  ((permuted low).toUInt64 ||| ((permuted high).toUInt64 <<< 32), high)

def ofSeed (seed : UInt64) : Engine :=
  let (first, seed) := seedWord seed
  let (second, seed) := seedWord seed
  let (third, seed) := seedWord seed
  let (fourth, _) := seedWord seed
  ⟨first, second, third, fourth⟩

end Engine

/-! ## Ranges -/

/-- The first product, within `limit` words, whose low part is at most `zone`. -/
def firstWithin (word : Engine → Nat × Engine) (modulus range zone : Nat) :
    Nat → Engine → Option (Nat × Engine)
  | 0, _ => none
  | limit + 1, engine =>
    let (drawn, engine) := word engine
    if drawn * range % modulus ≤ zone then some (drawn * range / modulus, engine)
    else firstWithin word modulus range zone limit engine

def fullWord (engine : Engine) : Nat × Engine :=
  let (word, engine) := engine.next
  (word.toNat, engine)

def halfWord (engine : Engine) : Nat × Engine :=
  let (word, engine) := engine.nextHalf
  (word.toNat, engine)

/-- A byte from zero to `last`, both included, out of 32 bits. The full range takes the lowest
byte. -/
def byteUpTo (limit : Nat) (last : UInt8) (engine : Engine) : Option (UInt8 × Engine) :=
  if last = 255 then
    let (word, engine) := engine.nextHalf
    some (word.toUInt8, engine)
  else
    let range := last.toNat + 1
    let zone := UInt32.size - 1 - (UInt32.size - range) % range
    (firstWithin halfWord UInt32.size range zone limit engine).map fun (value, engine) =>
      (UInt8.ofNat value, engine)

/-- A number below `range`, out of 64 bits; the zone is the range moved up to the highest bit. -/
def indexBelow (limit range : Nat) (engine : Engine) : Option (Nat × Engine) :=
  firstWithin fullWord UInt64.size range (range <<< (63 - range.log2) - 1) limit engine

variable {limit : Nat} {engine next : Engine}

theorem firstWithin_lt {word : Engine → Nat × Engine} {modulus range zone value : Nat}
    (small : ∀ engine, (word engine).1 < modulus) (filled : 0 < range)
    (drawn : firstWithin word modulus range zone limit engine = some (value, next)) :
    value < range := by
  induction limit generalizing engine with
  | zero => cases drawn
  | succ limit ih =>
    rw [firstWithin] at drawn
    by_cases accepted : (word engine).1 * range % modulus ≤ zone
    · simp only [accepted, if_true, Option.some.injEq, Prod.mk.injEq] at drawn
      rw [← drawn.1]
      apply Nat.div_lt_of_lt_mul
      exact Nat.mul_lt_mul_of_pos_right (small engine) filled
    · simp only [accepted, if_false] at drawn
      exact ih drawn

theorem byteUpTo_le {last value : UInt8}
    (drawn : byteUpTo limit last engine = some (value, next)) : value.toNat ≤ last.toNat := by
  have bound := value.toNat_lt
  unfold byteUpTo at drawn
  by_cases full : last = 255
  · have top : last.toNat = 255 := by rw [full]; rfl
    omega
  · simp only [full, if_false, Option.map_eq_some_iff, Prod.mk.injEq] at drawn
    obtain ⟨⟨number, _⟩, found, same, _⟩ := drawn
    have small (engine : Engine) : (halfWord engine).1 < UInt32.size :=
      (engine.nextHalf.1).toNat_lt
    have less := firstWithin_lt small (Nat.succ_pos _) found
    rw [← same, UInt8.toNat_ofNat']
    omega

theorem indexBelow_lt {range value : Nat} (filled : 0 < range)
    (drawn : indexBelow limit range engine = some (value, next)) : value < range :=
  firstWithin_lt (fun engine => (engine.next.1).toNat_lt) filled drawn

end ScentedGrid.Draw
