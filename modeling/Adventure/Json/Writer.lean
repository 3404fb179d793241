import Adventure.Decimal.Shortest
import Adventure.Json.Basic

namespace Adventure.Json

/-- Numbers from one hundred-thousandth up to sixteen digits are written without an exponent, and a positive exponent
has a sign. -/
def numberStyle : Decimal.Style := ⟨-4, 16, "+", .even⟩

def hexByte (n : Nat) : String :=
  String.ofList (['0', '0'] ++ (if n < 16 then ['0'] else []) ++ Nat.toDigits 16 n)

def escaped (c : Char) : String :=
  match c with
  | '"' => "\\\""
  | '\\' => "\\\\"
  | '\x08' => "\\b"
  | '\x0c' => "\\f"
  | '\n' => "\\n"
  | '\r' => "\\r"
  | '\t' => "\\t"
  | c => if c.toNat < 0x20 then "\\u" ++ hexByte c.toNat else c.toString

def quote (text : String) : String := "\"" ++ String.join (text.toList.map escaped) ++ "\""

mutual

/-- The text of a value without blanks. -/
def compact : Json → String
  | .null => "null"
  | .bool value => if value then "true" else "false"
  | .int value => toString value
  | .float bits => numberStyle.text bits
  | .text value => quote value
  | .list items => "[" ++ ",".intercalate (compactItems items) ++ "]"
  | .object fields => "\x7b" ++ ",".intercalate (compactFields fields) ++ "\x7d"

def compactItems : List Json → List String
  | [] => []
  | item :: rest => compact item :: compactItems rest

def compactFields : List (String × Json) → List String
  | [] => []
  | (key, value) :: rest => (quote key ++ ":" ++ compact value) :: compactFields rest

end

def margin (depth : Nat) : String := String.ofList (List.replicate (2 * depth) ' ')

/-- Parts on lines of their own between brackets. -/
def block (depth : Nat) (opening closing : String) : List String → String
  | [] => opening ++ closing
  | parts =>
    let lines := parts.map (margin (depth + 1) ++ ·)
    opening ++ "\n" ++ ",\n".intercalate lines ++ "\n" ++ margin depth ++ closing

mutual

/-- The text of a value, indented by two blanks for each level. -/
def pretty (depth : Nat) : Json → String
  | .list items => block depth "[" "]" (prettyItems depth items)
  | .object fields => block depth "\x7b" "\x7d" (prettyFields depth fields)
  | other => compact other

def prettyItems (depth : Nat) : List Json → List String
  | [] => []
  | item :: rest => pretty (depth + 1) item :: prettyItems depth rest

def prettyFields (depth : Nat) : List (String × Json) → List String
  | [] => []
  | (key, value) :: rest => (quote key ++ ": " ++ pretty (depth + 1) value) :: prettyFields depth rest

end

end Adventure.Json
