namespace Adventure

/-- A source of random words, which come in blocks. `buffer` holds the words of the current block that are
left. -/
structure Rng where
  blocks : Nat → List UInt32
  next : Nat
  buffer : List UInt32

namespace Rng

/-- A block of sixteen words. -/
abbrev Block := Vector UInt32 16

def rotateLeft (x count : UInt32) : UInt32 := (x <<< count) ||| (x >>> (32 - count))

/-- Mix the words at four places. -/
def quarter (a b c d : Fin 16) (v : Block) : Block :=
  let v := v.set a (v[a] + v[b])
  let v := v.set d (rotateLeft (v[d] ^^^ v[a]) 16)
  let v := v.set c (v[c] + v[d])
  let v := v.set b (rotateLeft (v[b] ^^^ v[c]) 12)
  let v := v.set a (v[a] + v[b])
  let v := v.set d (rotateLeft (v[d] ^^^ v[a]) 8)
  let v := v.set c (v[c] + v[d])
  v.set b (rotateLeft (v[b] ^^^ v[c]) 7)

/-- Mix the columns of a block, then its diagonals. -/
def doubleRound (v : Block) : Block :=
  let v := quarter 0 4 8 12 v
  let v := quarter 1 5 9 13 v
  let v := quarter 2 6 10 14 v
  let v := quarter 3 7 11 15 v
  let v := quarter 0 5 10 15 v
  let v := quarter 1 6 11 12 v
  let v := quarter 2 7 8 13 v
  quarter 3 4 9 14 v

/-- The block of a number under a key of eight words: twelve rounds over the constants, the key and the
number. -/
def cipherBlock (key : List UInt32) (number : Nat) : List UInt32 :=
  let word (i : Nat) : UInt32 := key.getD i 0
  let start : Block := #v[
    0x61707865, 0x3320646e, 0x79622d32, 0x6b206574,
    word 0, word 1, word 2, word 3, word 4, word 5, word 6, word 7,
    UInt32.ofNat number, UInt32.ofNat (number >>> 32), 0, 0]
  let mixed := Nat.repeat doubleRound 6 start
  (Vector.zipWith (· + ·) mixed start).toList

/-- A key of `count` words drawn from a seed by a multiplicative generator. -/
def keyFrom : (count : Nat) → (seed : UInt64) → List UInt32
  | 0, _ => []
  | count + 1, seed =>
    let seed := seed * 6364136223846793005 + 11634580027462260723
    let folded := (((seed >>> 18) ^^^ seed) >>> 27).toUInt32
    let turn := (seed >>> 59).toUInt32
    ((folded >>> turn) ||| (folded <<< ((32 - turn) % 32))) :: keyFrom count seed

/-- The source of a seed. -/
def ofSeed (seed : UInt64) : Rng := ⟨cipherBlock (keyFrom 8 seed), 0, []⟩

/-- The next word. A block without words counts as a zero. -/
def word (rng : Rng) : UInt32 × Rng :=
  match rng.buffer with
  | first :: rest => (first, { rng with buffer := rest })
  | [] =>
    match rng.blocks rng.next with
    | first :: rest => (first, { rng with next := rng.next + 1, buffer := rest })
    | [] => (0, { rng with next := rng.next + 1 })

end Rng

end Adventure
