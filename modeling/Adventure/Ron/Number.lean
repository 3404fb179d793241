import Adventure.Ron.Basic
import Adventure.Text.Identifier

namespace Adventure.Ron

/-- A number of the object notation. -/
inductive Number where
  | integer (value : Int) (kind : Option IntegerKind)
  | fraction (digits : String)
deriving DecidableEq

def digit? (base : Nat) (c : Char) : Option Nat :=
  let value :=
    if c.isDigit then c.toNat - '0'.toNat
    else if 'a' ≤ c ∧ c ≤ 'f' then c.toNat - 'a'.toNat + 10
    else if 'A' ≤ c ∧ c ≤ 'F' then c.toNat - 'A'.toNat + 10
    else base
  if value < base then some value else none

/-- The text after a word that ends there. -/
def afterWord? (word : String) (chars : List Char) : Option (List Char) :=
  let rest := chars.drop word.length
  if word.toList.isPrefixOf chars && !rest.head?.any Text.continuesName then some rest else none

namespace Number

def isIntegerChar (c : Char) : Bool := (digit? 16 c).isSome || c == '_'

def isFractionChar (c : Char) : Bool := c.isDigit || ['e', 'E', '.', '+', '-', '_'].contains c

/-- The number of digits that may be grouped by underscores. -/
def digits? (base : Nat) (chars : List Char) : Option Nat :=
  if chars.isEmpty ∨ chars.head? = some '_' then none
  else (chars.filter (· != '_')).foldlM (fun total c => (digit? base c).map (total * base + ·)) 0

/-- The value of digits in the base that their first two characters name, or in base ten. -/
def natural? (chars : List Char) : Option (Nat × List Char) :=
  let inBase (base : Nat) (chars : List Char) : Option (Nat × List Char) :=
    (digits? base (chars.takeWhile isIntegerChar)).map (·, chars.dropWhile isIntegerChar)
  match chars with
  | '0' :: 'b' :: rest => inBase 2 rest
  | '0' :: 'o' :: rest => inBase 8 rest
  | '0' :: 'x' :: rest => inBase 16 rest
  | chars => inBase 10 chars

/-- The sign of a number, and what follows it. -/
def signed : List Char → Int × List Char
  | '-' :: rest => (-1, rest)
  | '+' :: rest => (1, rest)
  | chars => (1, chars)

/-- The kind that is named at the front of a text, and what follows it. -/
def suffix? (chars : List Char) : Option (IntegerKind × List Char) :=
  suffixes.findSome? fun (name, kind) => (afterWord? name chars).map (kind, ·)

/-- An integer that fits the kind that it names, or 64 bits if it names none. -/
def integer? (chars : List Char) : Option (Number × List Char) := do
  let (sign, body) := signed chars
  match suffix? (body.dropWhile isIntegerChar) with
  | some (kind, rest) =>
    let (n, []) ← natural? (body.takeWhile isIntegerChar) | none
    if kind.holds (sign * n) then some (.integer (sign * n) (some kind), rest) else none
  | none =>
    let (n, rest) ← natural? body
    if IntegerKind.holds ⟨true, 64⟩ (sign * n) || IntegerKind.holds ⟨false, 64⟩ (sign * n) then
      some (.integer (sign * n) none, rest)
    else none

/-- Digits without the underscores between them. An underscore can stand after a digit or the mark of an exponent,
and not next after the point. -/
def ungrouped? : (allowed : Bool) → List Char → Option (List Char)
  | _, [] => some []
  | allowed, c :: rest =>
    if c = '_' then if allowed then ungrouped? allowed rest else none
    else
      let next := if c = '.' then false else allowed || c.isDigit || c == 'e' || c == 'E'
      (ungrouped? next rest).map (c :: ·)

/-- An exponent, if the text has more. -/
def isExponent : List Char → Bool
  | [] => true
  | c :: rest => (c == 'e' || c == 'E') && !(signed rest).2.isEmpty && (signed rest).2.all Char.isDigit

/-- A decimal with a sign, digits on either side of a point, and an exponent. -/
def isDecimal (chars : List Char) : Bool :=
  let body := (signed chars).2
  let whole := body.takeWhile Char.isDigit
  match body.dropWhile Char.isDigit with
  | '.' :: rest =>
    let fraction := rest.takeWhile Char.isDigit
    !(whole.isEmpty && fraction.isEmpty) && isExponent (rest.dropWhile Char.isDigit)
  | rest => !whole.isEmpty && isExponent rest

/-- The first of some words that ends at the front of a text, and what follows it. -/
def oneOf? (words : List String) (chars : List Char) : Option (String × List Char) :=
  words.findSome? fun word => (afterWord? word chars).map (word, ·)

/-- What is not finite has a name, which may have a width. -/
def unbounded : List String :=
  ["inf", "NaN"].flatMap fun name => ["", "f32", "f64"].map (name ++ ·)

/-- A number with a fraction, or one that is not finite. -/
def fraction? (chars : List Char) : Option (Number × List Char) :=
  match oneOf? unbounded (signed chars).2 with
  | some (name, rest) => some (.fraction ((if (signed chars).1 < 0 then "-" else "") ++ name), rest)
  | none => do
    let run := chars.takeWhile isFractionChar
    let rest := chars.dropWhile isFractionChar
    let digits ← ungrouped? false run
    if isDecimal digits then
      let (width, rest) := (oneOf? ["f32", "f64"] rest).getD ("", rest)
      some (.fraction (String.ofList run ++ width), rest)
    else none

/-- A number has a fraction if more of it can be read so than as an integer. What is no integer is tried as one
with a fraction. -/
def next? (chars : List Char) : Option (Number × List Char) :=
  let body := (signed chars).2
  if (body.takeWhile isIntegerChar).length < (body.takeWhile isFractionChar).length then fraction? chars
  else (integer? chars).orElse fun _ => fraction? chars

def starts (c : Char) : Bool := c.isDigit || c == '+' || c == '-' || c == '.'

end Number

end Adventure.Ron
