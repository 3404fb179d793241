import Adventure.Identity.Digest
import Adventure.Sorted

namespace Adventure.Uuid

/-- The name space of games. -/
def games : List UInt8 := [
  0x5b, 0x0d, 0x7f, 0x3e, 0x8a, 0x51, 0x4c, 0x2e, 0x9d, 0x7b, 0x3f, 0x6e, 0x1a, 0x2c, 0x9b, 0x84]

def hexByte (byte : UInt8) : List Char :=
  (if byte < 16 then ['0'] else []) ++ Nat.toDigits 16 byte.toNat

def hex (bytes : List UInt8) : String := String.ofList (bytes.flatMap hexByte)

/-- Sixteen bytes in groups. -/
def text (bytes : List UInt8) : String :=
  "-".intercalate [
    hex (bytes.take 4), hex ((bytes.drop 4).take 2), hex ((bytes.drop 6).take 2), hex ((bytes.drop 8).take 2),
    hex ((bytes.drop 10).take 6)]

/-- Set the bits that tell how an identifier was made. -/
def stamped (digest : List UInt8) : List UInt8 :=
  (digest.modify 6 fun byte => (byte &&& 0x0F) ||| 0x50).modify 8 fun byte => (byte &&& 0x3F) ||| 0x80

/-- The identifier of a name in a name space. -/
def ofName (space : List UInt8) (name : String) : String :=
  text ((stamped (Digest.ofBytes (space ++ name.toUTF8.toList))).take 16)

/-- The identifier of the game that some seeds give. -/
def ofSeeds (seeds : SortedMap String UInt64) : String :=
  ofName games (";".intercalate (seeds.toList.map fun (concern, seed) => concern ++ "=" ++ toString seed))

end Adventure.Uuid
