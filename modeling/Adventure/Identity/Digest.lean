namespace Adventure.Digest

/-- The five words of a digest. -/
structure Words where
  a : UInt32
  b : UInt32
  c : UInt32
  d : UInt32
  e : UInt32

def start : Words := ⟨0x67452301, 0xEFCDAB89, 0x98BADCFE, 0x10325476, 0xC3D2E1F0⟩

def rotateLeft (x count : UInt32) : UInt32 := (x <<< count) ||| (x >>> (32 - count))

/-- The function and the constant of a round. -/
def round (i : Nat) (b c d : UInt32) : UInt32 × UInt32 :=
  if i < 20 then ((b &&& c) ||| ((~~~b) &&& d), 0x5A827999)
  else if i < 40 then (b ^^^ c ^^^ d, 0x6ED9EBA1)
  else if i < 60 then ((b &&& c) ||| (b &&& d) ||| (c &&& d), 0x8F1BBCDC)
  else (b ^^^ c ^^^ d, 0xCA62C1D6)

/-- Extend sixteen words, given in reverse, by `count` more. -/
def schedule : (count : Nat) → List UInt32 → List UInt32
  | 0, words => words.reverse
  | count + 1, words =>
    let back (i : Nat) : UInt32 := words.getD (i - 1) 0
    schedule count (rotateLeft (back 3 ^^^ back 8 ^^^ back 14 ^^^ back 16) 1 :: words)

def mix : (i : Nat) → List UInt32 → Words → Words
  | _, [], h => h
  | i, word :: rest, h =>
    let (f, k) := round i h.b h.c h.d
    mix (i + 1) rest ⟨rotateLeft h.a 5 + f + h.e + k + word, h.a, rotateLeft h.b 30, h.c, h.d⟩

/-- Take one block of sixteen words into a digest. -/
def absorb (h : Words) (block : List UInt32) : Words :=
  let m := mix 0 (schedule 64 block.reverse) h
  ⟨h.a + m.a, h.b + m.b, h.c + m.c, h.d + m.d, h.e + m.e⟩

/-- Bytes with the mark, the zeros and the length in bits that fill up the last block. -/
def padded (bytes : List UInt8) : List UInt8 :=
  let zeros := (55 + 64 - bytes.length % 64) % 64
  let bits := 8 * bytes.length
  bytes ++ [0x80] ++ List.replicate zeros 0 ++
    (List.range 8).map fun (i : Nat) => UInt8.ofNat (Nat.shiftRight bits (8 * (7 - i)))

/-- Four bytes a word, the high one first. -/
def words : List UInt8 → List UInt32
  | a :: b :: c :: d :: rest =>
    ((a.toUInt32 <<< 24) ||| (b.toUInt32 <<< 16) ||| (c.toUInt32 <<< 8) ||| d.toUInt32) :: words rest
  | _ => []

/-- Take `count` blocks into a digest. -/
def absorbAll : (count : Nat) → List UInt32 → Words → Words
  | 0, _, h => h
  | count + 1, words, h => absorbAll count (words.drop 16) (absorb h (words.take 16))

/-- The digest of twenty bytes of a message. -/
def ofBytes (bytes : List UInt8) : List UInt8 :=
  let message := words (padded bytes)
  let h := absorbAll (message.length / 16) message start
  [h.a, h.b, h.c, h.d, h.e].flatMap fun (word : UInt32) =>
    [(word >>> 24).toUInt8, (word >>> 16).toUInt8, (word >>> 8).toUInt8, word.toUInt8]

end Adventure.Digest
