import Adventure.Json.Basic

namespace Adventure.Json

/-- A value as it is written. A number out of range and a text with half of a pair have no value, which matters only
to one who reads them. -/
inductive Written where
  | null
  | bool (value : Bool)
  | number (value : Option Json)
  | text (value : Option String)
  | list (items : List Written)
  | object (fields : List (Option String × Written))

namespace Written

/-- The deepest nesting of lists and objects that is read. -/
def maxDepth : Nat := 127

mutual

/-- What is written, if all of it has a value and lists and objects are nested at most `depth` deep. -/
def value? : (depth : Nat) → Written → Option Json
  | _, .null => some Json.null
  | _, .bool value => some (.bool value)
  | _, .number value => value
  | _, .text value => value.map Json.text
  | 0, .list _ => none
  | depth + 1, .list items => (items? depth items).map Json.list
  | 0, .object _ => none
  | depth + 1, .object fields => (fields? depth fields).map Json.object

def items? : (depth : Nat) → List Written → Option (List Json)
  | _, [] => some []
  | depth, item :: rest => do
    let first ← value? depth item
    return first :: (← items? depth rest)

def fields? : (depth : Nat) → List (Option String × Written) → Option (List (String × Json))
  | _, [] => some []
  | depth, (key, value) :: rest => do
    let first := (← key, ← value? depth value)
    return first :: (← fields? depth rest)

end

def named? : Option String × Written → Option (String × Written)
  | (key, value) => key.map (·, value)

/-- A field that a record does not know need not have a value, but its key must. -/
instance : Readable Written where
  text?
    | .text value => value
    | _ => none
  int? _
    | .number (some (.int value)) => some value
    | _ => none
  number?
    | .number (some value) => Readable.number? value
    | _ => none
  flag?
    | .bool value => some value
    | _ => none
  option?
    | .null => some none
    | value => some (some value)
  list?
    | .list items => some items
    | _ => none
  variant?
    | .text value => value
    | _ => none
  isKind _ _ := true
  fields? names
    | .object fields => (fields.mapM named?).bind (Readable.known names)
    | .list items => if items.length ≤ names.length then some (names.zip items) else none
    | _ => none
  entries?
    | .object fields => fields.mapM named?
    | _ => none

/-- A value kept from `level` levels deep. -/
instance : Keepable Written where
  keep? level value := value.value? (maxDepth - level)

end Written

end Adventure.Json
