import Adventure.Document

namespace Adventure

/-- A value of the settings format. -/
inductive Toml where
  | text (value : String)
  | int (value : Int)
  | float (bits : UInt64)
  | flag (value : Bool)
  | moment (written : String)
  | list (items : List Toml)
  | table (entries : List (String × Toml))

namespace Toml

instance : Inhabited Toml := ⟨.table []⟩

/-- A record is a table, or the list of its fields in order, of which those beyond the last field are not looked
at. A date is a record of which no field is known. -/
instance : Readable Toml where
  text?
    | .text value => some value
    | _ => none
  int? _
    | .int value => some value
    | _ => none
  number?
    | .int value => some (Float.ofInt value)
    | .float bits => some (Float.ofBits bits)
    | _ => none
  flag?
    | .flag value => some value
    | _ => none
  option? value := some (some value)
  list?
    | .list items => some items
    | _ => none
  variant?
    | .text value => some value
    | _ => none
  isKind _ _ := true
  fields? names
    | .table entries => Readable.known names entries
    | .list items => some (names.zip items)
    | .moment _ => some []
    | _ => none
  entries?
    | .table entries => some entries
    | _ => none

end Toml

end Adventure
