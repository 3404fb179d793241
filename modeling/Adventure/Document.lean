namespace Adventure

/-- A format in which records are written as values. -/
class Writable (ν : Type) where
  text : String → ν
  int : Int → ν
  flag : Bool → ν
  option : Option ν → ν
  list : List ν → ν
  variant : String → ν
  record : List (String × ν) → ν

/-- The sign and the width of a machine integer. -/
structure IntegerKind where
  signed : Bool
  bits : Nat
deriving DecidableEq

namespace IntegerKind

def word32 : IntegerKind := ⟨false, 32⟩

def word64 : IntegerKind := ⟨false, 64⟩

def int32 : IntegerKind := ⟨true, 32⟩

/-- The number can be held. -/
def holds (kind : IntegerKind) (n : Int) : Bool :=
  if kind.signed then decide (-(Nat.pow 2 (kind.bits - 1) : Nat) ≤ n ∧ n < (Nat.pow 2 (kind.bits - 1) : Nat))
  else decide (0 ≤ n ∧ n < (Nat.pow 2 kind.bits : Nat))

end IntegerKind

/-- A format from whose values records are read. -/
class Readable (ν : Type) where
  text? : ν → Option String
  /-- The integer, if the value can be meant as one of the kind; it need not fit. -/
  int? : IntegerKind → ν → Option Int
  number? : ν → Option Float
  flag? : ν → Option Bool
  option? : ν → Option (Option ν)
  list? : ν → Option (List ν)
  variant? : ν → Option String
  /-- The value does not say of itself that it is a record of another kind. -/
  isKind : String → ν → Bool
  /-- The fields of a record that can have the given ones. -/
  fields? : List String → ν → Option (List (String × ν))
  /-- The entries of a table with keys of any name, in order. -/
  entries? : ν → Option (List (String × ν))

namespace Readable

variable {ν α : Type} [Readable ν]

def listOf? (read : ν → Option α) (value : ν) : Option (List α) := do
  (← list? value).mapM read

def optionOf? (read : ν → Option α) (value : ν) : Option (Option α) := do
  match ← option? value with
  | some inner => return some (← read inner)
  | none => return none

/-- An integer of a kind. -/
def integer? (kind : IntegerKind) (value : ν) : Option Int := do
  let n ← int? kind value
  if kind.holds n then some n else none

/-- A natural number of 64 bits. -/
def size? (value : ν) : Option Nat := (integer? .word64 value).map Int.toNat

def word32? (value : ν) : Option UInt32 := (integer? .word32 value).map fun n => UInt32.ofNat n.toNat

def word64? (value : ν) : Option UInt64 := (integer? .word64 value).map fun n => UInt64.ofNat n.toNat

def int32? (value : ν) : Option Int32 := (integer? .int32 value).map Int32.ofInt

/-- The fields of a record of a kind. -/
def recordOf? (kind : String) (names : List String) (value : ν) : Option (List (String × ν)) :=
  if isKind kind value then fields? names value else none

/-- Keep the known fields; a known field that stands twice is refused. -/
def known (names : List String) : List (String × ν) → Option (List (String × ν))
  | [] => some []
  | (name, value) :: rest => do
    let others ← known names rest
    if names.contains name then
      if (others.map Prod.fst).contains name then none else return (name, value) :: others
    else return others

/-- A field that must be there. -/
def required (fields : List (String × ν)) (name : String) (read : ν → Option α) : Option α :=
  (fields.lookup name).bind read

/-- A field that may be missing. -/
def defaulted (fields : List (String × ν)) (name : String) (fallback : α) (read : ν → Option α) : Option α :=
  match fields.lookup name with
  | some value => read value
  | none => some fallback

end Readable

end Adventure
