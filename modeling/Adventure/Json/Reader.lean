import Adventure.Json.Number
import Adventure.Json.Written

namespace Adventure.Json

def isSpace (c : Char) : Bool := c == ' ' || c == '\t' || c == '\n' || c == '\r'

def skipSpace (chars : List Char) : List Char := chars.dropWhile isSpace

def hexDigit? (c : Char) : Option Nat :=
  if '0' ≤ c ∧ c ≤ '9' then some (c.toNat - '0'.toNat)
  else if 'a' ≤ c ∧ c ≤ 'f' then some (c.toNat - 'a'.toNat + 10)
  else if 'A' ≤ c ∧ c ≤ 'F' then some (c.toNat - 'A'.toNat + 10)
  else none

/-- Four hexadecimal digits. -/
def unit? : List Char → Option (Nat × List Char)
  | a :: b :: c :: d :: rest => do
    return (((← hexDigit? a) * 16 + (← hexDigit? b)) * 256 + (← hexDigit? c) * 16 + (← hexDigit? d), rest)
  | _ => none

/-- The character of a `u` escape, which may take two units. Half of a pair without its other half has none. -/
def escapedUnit? (chars : List Char) : Option (Option Char × List Char) := do
  let (unit, rest) ← unit? chars
  if 0xD800 ≤ unit ∧ unit < 0xDC00 then
    match rest with
    | '\\' :: 'u' :: after =>
      let (low, after) ← unit? after
      if 0xDC00 ≤ low ∧ low < 0xE000 then
        some (some (Char.ofNat (0x10000 + (unit - 0xD800) * 0x400 + (low - 0xDC00))), after)
      else some (none, rest)
    | _ => some (none, rest)
  else if 0xDC00 ≤ unit ∧ unit < 0xE000 then some (none, rest)
  else some (some (Char.ofNat unit), rest)

def escape? : Char → Option Char
  | '"' => some '"'
  | '\\' => some '\\'
  | '/' => some '/'
  | 'b' => some '\x08'
  | 'f' => some '\x0c'
  | 'n' => some '\n'
  | 'r' => some '\r'
  | 't' => some '\t'
  | _ => none

/-- The rest of a quoted text, where `taken` holds its characters so far in reverse, if all have a value. -/
def quotedRest : (fuel : Nat) → (taken : Option (List Char)) → List Char → Option (Option String × List Char)
  | 0, _, _ => none
  | _ + 1, _, [] => none
  | fuel + 1, taken, c :: rest =>
    let more (c : Char) : Option (List Char) := taken.map (c :: ·)
    if c = '"' then some (taken.map fun chars => String.ofList chars.reverse, rest)
    else if c = '\\' then
      match rest with
      | 'u' :: rest =>
        match escapedUnit? rest with
        | some (c, rest) => quotedRest fuel (c.bind more) rest
        | none => none
      | e :: rest =>
        match escape? e with
        | some c => quotedRest fuel (more c) rest
        | none => none
      | [] => none
    else if c.toNat < 0x20 then none
    else quotedRest fuel (more c) rest

def digitOf (c : Char) : Nat := c.toNat - '0'.toNat

def digitsValue (digits : List Nat) : Nat := digits.foldl (fun n digit => n * 10 + digit) 0

/-- Digits, at least one. -/
def digits? (chars : List Char) : Option (List Nat × List Char) :=
  match chars.takeWhile Char.isDigit with
  | [] => none
  | digits => some (digits.map digitOf, chars.dropWhile Char.isDigit)

/-- Whole digits without a zero before others. -/
def whole? (chars : List Char) : Option (List Nat × List Char) := do
  let (digits, rest) ← digits? chars
  if digits.length > 1 ∧ digits.head? = some 0 then none else some (digits, rest)

def fraction? : List Char → Option (Option (List Nat) × List Char)
  | '.' :: rest => do
    let (digits, rest) ← digits? rest
    return (some digits, rest)
  | rest => some (none, rest)

def exponentDigits? (sign : Int) (chars : List Char) : Option (Option Int × List Char) := do
  let (digits, rest) ← digits? chars
  return (some (sign * digitsValue digits), rest)

def exponent? : List Char → Option (Option Int × List Char)
  | c :: rest =>
    if c = 'e' ∨ c = 'E' then
      match rest with
      | '+' :: rest => exponentDigits? 1 rest
      | '-' :: rest => exponentDigits? (-1) rest
      | rest => exponentDigits? 1 rest
    else some (none, c :: rest)
  | [] => some (none, [])

def numeral? (negative : Bool) (chars : List Char) : Option (Numeral × List Char) := do
  let (whole, rest) ← whole? chars
  let (fraction, rest) ← fraction? rest
  let (exponent, rest) ← exponent? rest
  return (⟨negative, whole, fraction, exponent⟩, rest)

def number? (negative : Bool) (chars : List Char) : Option (Written × List Char) :=
  (numeral? negative chars).map fun (numeral, rest) => (.number numeral.value?, rest)

/-- The rest of a text after a fixed word. -/
def after? (word : String) (chars : List Char) : Option (List Char) :=
  if word.toList.isPrefixOf chars then some (chars.drop word.length) else none

mutual

/-- The value at the front of a text. -/
def value? : (fuel : Nat) → List Char → Option (Written × List Char)
  | 0, _ => none
  | fuel + 1, chars =>
    match skipSpace chars with
    | [] => none
    | c :: rest =>
      if c = '"' then (quotedRest (fuel + 1) (some []) rest).map fun (quoted, rest) => (.text quoted, rest)
      else if c = '[' then
        match skipSpace rest with
        | ']' :: rest => some (.list [], rest)
        | rest => (items? fuel rest).map fun (items, rest) => (.list items, rest)
      else if c = '\x7b' then
        match skipSpace rest with
        | '\x7d' :: rest => some (.object [], rest)
        | rest => (members? fuel rest).map fun (fields, rest) => (.object fields, rest)
      else if c = '-' then number? true rest
      else if c.isDigit then number? false (c :: rest)
      else if c = 'n' then (after? "ull" rest).map (Written.null, ·)
      else if c = 't' then (after? "rue" rest).map (Written.bool true, ·)
      else if c = 'f' then (after? "alse" rest).map (Written.bool false, ·)
      else none

/-- The items of a list up to its closing bracket. -/
def items? : (fuel : Nat) → List Char → Option (List Written × List Char)
  | 0, _ => none
  | fuel + 1, chars =>
    match value? fuel chars with
    | none => none
    | some (item, rest) =>
      match skipSpace rest with
      | ',' :: rest => (items? fuel rest).map fun (items, rest) => (item :: items, rest)
      | ']' :: rest => some ([item], rest)
      | _ => none

/-- The fields of an object up to its closing brace. -/
def members? : (fuel : Nat) → List Char → Option (List (Option String × Written) × List Char)
  | 0, _ => none
  | fuel + 1, chars =>
    match skipSpace chars with
    | '"' :: rest =>
      match quotedRest (fuel + 1) (some []) rest with
      | none => none
      | some (key, rest) =>
        match skipSpace rest with
        | ':' :: rest =>
          match value? fuel rest with
          | none => none
          | some (item, rest) =>
            match skipSpace rest with
            | ',' :: rest => (members? fuel rest).map fun (fields, rest) => ((key, item) :: fields, rest)
            | '\x7d' :: rest => some ([(key, item)], rest)
            | _ => none
        | _ => none
    | _ => none

end

/-- What is written in a text that holds one value and blanks. -/
def Written.ofText? (source : String) : Option Written :=
  let chars := source.toList
  match Json.value? (2 * chars.length + 2) chars with
  | some (value, rest) => if (skipSpace rest).isEmpty then some value else none
  | none => none

/-- The value of a text all of which is read. -/
def ofText? (source : String) : Option Json := (Written.ofText? source).bind (·.value? Written.maxDepth)

end Adventure.Json
