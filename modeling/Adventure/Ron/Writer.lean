import Adventure.Ron.Basic
import Adventure.Text.Printable

namespace Adventure.Ron

/-- Single quotes are escaped too, though only double ones end a text. -/
def escaped (c : Char) : String := if c = '\'' then "\\'" else Text.escaped c

def quote (text : String) : String := "\"" ++ String.join (text.toList.map escaped) ++ "\""

def margin (depth : Nat) : String := String.ofList (List.replicate (4 * depth) ' ')

/-- Parts on lines of their own between brackets, each with a comma after it. -/
def block (depth : Nat) (opening closing : String) : List String → String
  | [] => opening ++ closing
  | parts =>
    opening ++ "\n" ++ String.join (parts.map fun part => margin (depth + 1) ++ part ++ ",\n") ++ margin depth ++
      closing

def hexByte (value : UInt8) : String :=
  "\\x" ++ (if value < 16 then "0" else "") ++ String.ofList (Nat.toDigits 16 value.toNat)

def suffix (kind : IntegerKind) : String :=
  (suffixes.findSome? fun (name, given) => if given = kind then some name else none).getD ""

mutual

/-- The text of a value, indented by four blanks for each level. -/
def render (depth : Nat) : Ron → String
  | .word name => name
  | .text value => quote value
  | .letter value => "'" ++ escaped value ++ "'"
  | .flag value => if value then "true" else "false"
  | .option none => "None"
  | .option (some value) => "Some(" ++ render depth value ++ ")"
  | .bytes values => "b\"" ++ String.join (values.map hexByte) ++ "\""
  | .integer value kind => toString value ++ kind.elim "" suffix
  | .fraction digits => digits
  | .list items => block depth "[" "]" (renderItems depth items)
  | .tuple name items => name.getD "" ++ "(" ++ ", ".intercalate (renderInline depth items) ++ ")"
  | .record name fields => block depth (name.getD "" ++ "(") ")" (renderFields depth fields)
  | .table entries => block depth "\x7b" "\x7d" (renderEntries depth entries)

def renderItems (depth : Nat) : List Ron → List String
  | [] => []
  | item :: rest => render (depth + 1) item :: renderItems depth rest

def renderInline (depth : Nat) : List Ron → List String
  | [] => []
  | item :: rest => render depth item :: renderInline depth rest

def renderFields (depth : Nat) : List (String × Ron) → List String
  | [] => []
  | (field, value) :: rest => (field ++ ": " ++ render (depth + 1) value) :: renderFields depth rest

def renderEntries (depth : Nat) : List (Ron × Ron) → List String
  | [] => []
  | (key, value) :: rest =>
    (render (depth + 1) key ++ ": " ++ render (depth + 1) value) :: renderEntries depth rest

end

def toText (value : Ron) : String := render 0 value

end Adventure.Ron
