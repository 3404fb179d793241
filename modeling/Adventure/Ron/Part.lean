import Adventure.Ron.Basic

namespace Adventure.Ron

/-- What a text may ask for: that every record has its name before it, that an option can be its value alone, and
that what an option holds can stand in its parentheses without its own. -/
structure Rules where
  namedRecords : Bool
  bareValues : Bool
  bareContents : Bool
deriving DecidableEq

namespace Rules

def usual : Rules := ⟨false, false, false⟩

def join (a b : Rules) : Rules :=
  ⟨a.namedRecords || b.namedRecords, a.bareValues || b.bareValues, a.bareContents || b.bareContents⟩

end Rules

/-- A value in a text with its rules. -/
structure Part where
  rules : Rules
  value : Ron

namespace Part

def keyed? (rules : Rules) : Ron × Ron → Option (String × Part)
  | (.text key, value) => some (key, ⟨rules, value⟩)
  | _ => none

/-- A name in front of a record has to be that of its kind, and a kind behind a number the one that is read. -/
instance : Readable Part where
  text? part :=
    match part.value with
    | .text value => some value
    | _ => none
  int? kind part :=
    match part.value with
    | .integer value named => if named.all (· == kind) then some value else none
    | _ => none
  number? _ := none
  flag? part :=
    match part.value with
    | .flag value => some value
    | _ => none
  option? part :=
    match part.value with
    | .option value => some (value.map (⟨part.rules, ·⟩))
    | _ => if part.rules.bareValues then some (some part) else none
  list? part :=
    match part.value with
    | .list items => some (items.map (⟨part.rules, ·⟩))
    | _ => none
  variant? part :=
    match part.value with
    | .word name => some name
    | _ => none
  isKind kind part :=
    match part.value with
    | .record (some name) _ | .tuple (some name) _ => name == kind
    | _ => !part.rules.namedRecords
  fields? names part :=
    match part.value with
    | .record _ fields => Readable.known names (fields.map fun (name, value) => (name, ⟨part.rules, value⟩))
    | .tuple _ [] => some []
    | _ => none
  entries? part :=
    match part.value with
    | .table entries => entries.mapM (keyed? part.rules)
    | _ => none

end Part

end Adventure.Ron
