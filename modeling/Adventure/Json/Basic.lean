import Adventure.Document
import Adventure.Sorted

namespace Adventure

/-- A value of the data format. A number with a fraction or an exponent is kept as the bits of the nearest
one of 64 bits. -/
inductive Json where
  | null
  | bool (value : Bool)
  | int (value : Int)
  | float (bits : UInt64)
  | text (value : String)
  | list (items : List Json)
  | object (fields : List (String × Json))

/-- A format of which a record can keep values that it does not know. -/
class Keepable (ν : Type) extends Readable ν where
  /-- The value, which stands in `level` records. -/
  keep? : (level : Nat) → ν → Option Json

namespace Json

mutual

def same : Json → Json → Bool
  | .null, .null => true
  | .bool a, .bool b => a == b
  | .int a, .int b => a == b
  | .float a, .float b => a == b
  | .text a, .text b => a == b
  | .list a, .list b => sameItems a b
  | .object a, .object b => sameFields a b
  | _, _ => false

def sameItems : List Json → List Json → Bool
  | [], [] => true
  | a :: as, b :: bs => same a b && sameItems as bs
  | _, _ => false

def sameFields : List (String × Json) → List (String × Json) → Bool
  | [], [] => true
  | (k, a) :: as, (l, b) :: bs => k == l && same a b && sameFields as bs
  | _, _ => false

end

mutual

theorem same_iff : (a b : Json) → (same a b = true ↔ a = b)
  | .null, b => by cases b <;> simp [same]
  | .bool _, b => by cases b <;> simp [same]
  | .int _, b => by cases b <;> simp [same]
  | .float _, b => by cases b <;> simp [same]
  | .text _, b => by cases b <;> simp [same]
  | .list as, b => by cases b <;> simp [same, sameItems_iff as]
  | .object as, b => by cases b <;> simp [same, sameFields_iff as]

theorem sameItems_iff : (as bs : List Json) → (sameItems as bs = true ↔ as = bs)
  | [], bs => by cases bs <;> simp [sameItems]
  | a :: as, bs => by cases bs <;> simp [sameItems, same_iff a, sameItems_iff as]

theorem sameFields_iff : (as bs : List (String × Json)) → (sameFields as bs = true ↔ as = bs)
  | [], bs => by cases bs <;> simp [sameFields]
  | (k, a) :: as, bs => by
    cases bs with
    | nil => simp [sameFields]
    | cons b bs =>
      obtain ⟨l, b⟩ := b
      simp [sameFields, same_iff a, sameFields_iff as]

end

instance : DecidableEq Json := fun a b => decidable_of_iff _ (same_iff a b)

instance : Inhabited Json := ⟨.null⟩

mutual

/-- The value with the keys of every object in order; of two fields with one key the later counts. -/
def canonical : Json → Json
  | .list items => .list (canonicalItems items)
  | .object fields => .object (SortedMap.of (canonicalFields fields)).toList
  | other => other

def canonicalItems : List Json → List Json
  | [] => []
  | item :: rest => canonical item :: canonicalItems rest

def canonicalFields : List (String × Json) → List (String × Json)
  | [] => []
  | (key, value) :: rest => (key, canonical value) :: canonicalFields rest

end

/-- The value of a field of an object. -/
def field? : Json → String → Option Json
  | .object fields, key => fields.lookup key
  | _, _ => none

instance : Writable Json where
  text := .text
  int := .int
  flag := .bool
  option value := value.getD .null
  list := .list
  variant := .text
  record := .object

/-- A record is an object, or the list of its fields in order. -/
instance : Readable Json where
  text?
    | .text value => some value
    | _ => none
  int? _
    | .int value => some value
    | _ => none
  number?
    | .int value => some (Float.ofInt value)
    | .float bits => some (Float.ofBits bits)
    | _ => none
  flag?
    | .bool value => some value
    | _ => none
  option?
    | .null => some none
    | value => some (some value)
  list?
    | .list items => some items
    | _ => none
  variant?
    | .text value => some value
    | _ => none
  isKind _ _ := true
  fields? names
    | .object fields => Readable.known names fields
    | .list items => if items.length ≤ names.length then some (names.zip items) else none
    | _ => none
  entries?
    | .object fields => some fields
    | _ => none

instance : Keepable Json where
  keep? _ := some

end Json

end Adventure
