import Adventure.Toml.Scalar
import Adventure.Toml.Table

namespace Adventure.Toml

def skipBlank (chars : List Char) : List Char := chars.dropWhile isBlank

/-- Drop a comment; its control characters are refused. -/
def skipComment? : List Char → Option (List Char)
  | '#' :: rest =>
    let rest := rest.dropWhile (!isControl ·)
    if rest.isEmpty ∨ (lineEnd? rest).isSome then some rest else none
  | rest => some rest

/-- Drop blanks, comments and line ends. -/
def skipLines? : (fuel : Nat) → List Char → Option (List Char)
  | 0, _ => none
  | fuel + 1, chars =>
    match skipComment? (skipBlank chars) with
    | none => none
    | some rest =>
      match lineEnd? rest with
      | some rest => skipLines? fuel rest
      | none => some rest

def isBareChar (c : Char) : Bool := c.isAlphanum || c == '_' || c == '-'

/-- One part of a key: a bare word, or a text in quotes on one line. -/
def simpleKey? (fuel : Nat) : List Char → Option (String × List Char)
  | '"' :: rest => (basicRest fuel rest).map fun (chars, rest) => (String.ofList chars, rest)
  | '\'' :: rest => (literalRest rest).map fun (chars, rest) => (String.ofList chars, rest)
  | chars =>
    match chars.takeWhile isBareChar with
    | [] => none
    | word => some (String.ofList word, chars.dropWhile isBareChar)

/-- The parts of a key between its dots. -/
def keyParts? : (fuel : Nat) → List Char → Option (List String × List Char)
  | 0, _ => none
  | fuel + 1, chars =>
    match simpleKey? (fuel + 1) (skipBlank chars) with
    | none => none
    | some (part, rest) =>
      match skipBlank rest with
      | '.' :: rest => (keyParts? fuel rest).map fun (parts, rest) => (part :: parts, rest)
      | rest => some ([part], rest)

/-- How deep lists and tables may be nested, and how many parts a key may have. -/
def maxDepth : Nat := 79

def key? (fuel : Nat) (chars : List Char) : Option (List String × List Char) := do
  let (parts, rest) ← keyParts? fuel chars
  if parts.length ≤ maxDepth then some (parts, rest) else none

mutual

/-- A value that holds others at most `depth` deep. -/
def value? : (fuel depth : Nat) → List Char → Option (Toml × List Char)
  | 0, _, _ => none
  | fuel + 1, depth, chars =>
    match chars with
    | [] => none
    | c :: rest =>
      if c = '"' ∨ c = '\'' then (quoted? (fuel + 1) chars).map fun (quoted, rest) => (.text quoted, rest)
      else if c = '[' then
        if depth = 0 then none else (items? fuel (depth - 1) rest).map fun (items, rest) => (.list items, rest)
      else if c = '\x7b' then
        if depth = 0 then none
        else
          match skipBlank rest with
          | '\x7d' :: rest => some (.table [], rest)
          | rest =>
            (members? fuel (depth - 1) [] rest).map fun (entries, rest) => (.table (Node.values entries), rest)
      else scalar? chars

/-- The items of a list up to its closing bracket, over as many lines as they take. -/
def items? : (fuel depth : Nat) → List Char → Option (List Toml × List Char)
  | 0, _, _ => none
  | fuel + 1, depth, chars =>
    match skipLines? (fuel + 1) chars with
    | none => none
    | some (']' :: rest) => some ([], rest)
    | some rest =>
      match value? fuel depth rest with
      | none => none
      | some (item, rest) =>
        match skipLines? (fuel + 1) rest with
        | some (',' :: rest) => (items? fuel depth rest).map fun (items, rest) => (item :: items, rest)
        | some (']' :: rest) => some ([item], rest)
        | _ => none

/-- The entries of a table on one line, up to its closing brace. -/
def members? : (fuel depth : Nat) → Entries → List Char → Option (Entries × List Char)
  | 0, _, _, _ => none
  | fuel + 1, depth, entries, chars =>
    match key? (fuel + 1) chars with
    | some (path, '=' :: rest) =>
      match value? fuel depth (skipBlank rest) with
      | none => none
      | some (item, rest) =>
        match entries.assign item path with
        | none => none
        | some entries =>
          match skipBlank rest with
          | ',' :: rest => members? fuel depth entries rest
          | '\x7d' :: rest => some (entries, rest)
          | _ => none
    | _ => none

end

/-- What is left after a statement is blank up to the end of its line. -/
def finishLine? (chars : List Char) : Option (List Char) :=
  (skipComment? (skipBlank chars)).bind fun rest => if rest.isEmpty then some [] else lineEnd? rest

/-- The path of a header, up to its closing brackets. -/
def header? (fuel : Nat) (closing : List Char) (chars : List Char) : Option (List String × List Char) :=
  (key? fuel chars).bind fun (path, rest) =>
    if closing.isPrefixOf rest then (finishLine? (rest.drop closing.length)).map (path, ·) else none

/-- Read statements under a header. -/
def statements? : (fuel : Nat) → (header : List String) → Entries → List Char → Option Entries
  | 0, _, _, _ => none
  | fuel + 1, header, entries, chars =>
    match skipLines? (fuel + 1) chars with
    | none => none
    | some [] => some entries
    | some ('[' :: '[' :: rest) =>
      (header? (fuel + 1) [']', ']'] rest).bind fun (path, rest) =>
        (entries.openNext path).bind fun entries => statements? fuel path entries rest
    | some ('[' :: rest) =>
      (header? (fuel + 1) [']'] rest).bind fun (path, rest) =>
        (entries.openTable path).bind fun entries => statements? fuel path entries rest
    | some rest =>
      match key? (fuel + 1) rest with
      | some (path, '=' :: rest) =>
        (value? (fuel + 1) maxDepth (skipBlank rest)).bind fun (item, rest) =>
          (finishLine? rest).bind fun rest =>
            (entries.assignUnder item path header).bind fun entries => statements? fuel header entries rest
      | _ => none

/-- The table of a document. A mark of the byte order at its start does not count. -/
def ofText? (source : String) : Option Toml :=
  let chars := source.toList
  let chars := if chars.head? = some '\ufeff' then chars.tail else chars
  (statements? (2 * chars.length + 2) [] [] chars).map fun entries => .table (Node.values entries)

end Adventure.Toml
