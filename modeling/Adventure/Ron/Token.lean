import Adventure.Ron.Number

namespace Adventure.Ron

/-- A word, a text, a number or a mark of the object notation. A word may be written so that it has no meaning of
its own. -/
inductive Token where
  | mark (c : Char)
  | word (name : String)
  | plainWord (name : String)
  | text (value : String)
  | bytes (values : List UInt8)
  | letter (value : Char)
  | number (value : Number)
deriving DecidableEq

namespace Token

def isSpace (c : Char) : Bool :=
  [' ', '\t', '\n', '\r', '\x0b', '\x0c', '\u0085', '\u200e', '\u200f', '\u2028', '\u2029'].contains c

def isMark (c : Char) : Bool := ['(', ')', '[', ']', '\x7b', '\x7d', ',', ':', '#', '!'].contains c

def startsWord (c : Char) : Bool := Text.startsName c || c == '_'

def continuesPlainWord (c : Char) : Bool := Text.continuesName c || ['.', '+', '-'].contains c

/-- The text after the end of a comment, which may hold comments. -/
def commentRest : (depth : Nat) → List Char → Option (List Char)
  | _, [] => none
  | depth, '*' :: '/' :: rest => if depth = 0 then some rest else commentRest (depth - 1) rest
  | depth, '/' :: '*' :: rest => commentRest (depth + 1) rest
  | depth, _ :: rest => commentRest depth rest

/-- Drop blanks and comments; a comment without an end is refused. -/
def skipSpace : (fuel : Nat) → List Char → Option (List Char)
  | 0, chars => some chars
  | fuel + 1, chars =>
    match chars.dropWhile isSpace with
    | '/' :: '/' :: rest => skipSpace fuel (rest.dropWhile (· != '\n'))
    | '/' :: '*' :: rest => (commentRest 0 rest).bind (skipSpace fuel)
    | rest => some rest

/-- The character that a code in braces stands for. -/
def code? (chars : List Char) : Option (Char × List Char) :=
  let digits := chars.takeWhile (· != '\x7d')
  if digits.length < 1 ∨ digits.length > 6 ∨ digits.length = chars.length then none
  else
    match digits.foldlM (fun total c => (digit? 16 c).map (total * 16 + ·)) 0, chars.drop (digits.length + 1) with
    | some n, rest => if n.isValidChar then some (Char.ofNat n, rest) else none
    | none, _ => none

/-- A byte of two hexadecimal digits. -/
def byte? : List Char → Option (UInt8 × List Char)
  | a :: b :: rest => do return (UInt8.ofNat ((← digit? 16 a) * 16 + (← digit? 16 b)), rest)
  | _ => none

/-- What a backslash stands for before a single character. -/
def simpleEscape? : Char → Option Char
  | '\'' => some '\''
  | '"' => some '"'
  | '\\' => some '\\'
  | 'n' => some '\n'
  | 'r' => some '\r'
  | 't' => some '\t'
  | '0' => some '\x00'
  | _ => none

/-- What an escape stands for. -/
inductive Escape where
  | byte (value : UInt8)
  | char (value : Char)

def escape? : List Char → Option (Escape × List Char)
  | 'x' :: rest => (byte? rest).map fun (value, rest) => (.byte value, rest)
  | 'u' :: '\x7b' :: rest => (code? rest).map fun (c, rest) => (.char c, rest)
  | c :: rest => (simpleEscape? c).map fun c => (.byte (UInt8.ofNat c.toNat), rest)
  | [] => none

/-- The character whose encoding some bytes are. -/
def encoded? (code : List UInt8) : Option Char :=
  match (String.fromUTF8? ⟨code.toArray⟩).map String.toList with
  | some [c] => some c
  | _ => none

/-- The character whose encoding begins with the given bytes and goes on in escapes, at most `more` of them. -/
def encodedChar? (more : Nat) (code : List UInt8) (chars : List Char) : Option (Char × List Char) :=
  match encoded? code, more, chars with
  | some c, _, _ => some (c, chars)
  | none, more + 1, '\\' :: 'x' :: rest =>
    match byte? rest with
    | some (value, rest) => encodedChar? more (code ++ [value]) rest
    | none => none
  | none, _, _ => none

/-- The character of an escape in a text. -/
def textEscape? (chars : List Char) : Option (List Char × List Char) := do
  match ← escape? chars with
  | (.char c, rest) => return ([c], rest)
  | (.byte value, rest) =>
    let (c, rest) ← encodedChar? 3 [value] rest
    return ([c], rest)

def utf8 (c : Char) : List UInt8 := c.toString.toUTF8.toList

def bytesEscape? (chars : List Char) : Option (List UInt8 × List Char) := do
  match ← escape? chars with
  | (.char c, rest) => return (utf8 c, rest)
  | (.byte value, rest) => return ([value], rest)

/-- The rest of what stands between quotes, where `taken` is what came before in reverse. -/
def quotedRest {α : Type} (plain : Char → List α) (escaped? : List Char → Option (List α × List Char)) :
    (fuel : Nat) → (taken : List α) → List Char → Option (List α × List Char)
  | 0, _, _ => none
  | _ + 1, _, [] => none
  | fuel + 1, taken, c :: rest =>
    if c = '"' then some (taken.reverse, rest)
    else if c = '\\' then
      match escaped? rest with
      | some (items, rest) => quotedRest plain escaped? fuel (items.reverse ++ taken) rest
      | none => none
    else quotedRest plain escaped? fuel ((plain c).reverse ++ taken) rest

/-- The rest of a text that ends at a quote and as many hash signs as it began with. -/
def rawRest (hashes : Nat) : (taken : List Char) → List Char → Option (List Char × List Char)
  | _, [] => none
  | taken, c :: rest =>
    if c = '"' ∧ (rest.take hashes).length = hashes ∧ (rest.take hashes).all (· == '#') then
      some (taken.reverse, rest.drop hashes)
    else rawRest hashes (c :: taken) rest

/-- What stands between quotes and hash signs, without escapes. -/
def raw? (chars : List Char) : Option (List Char × List Char) :=
  let hashes := (chars.takeWhile (· == '#')).length
  match chars.drop hashes with
  | '"' :: rest => rawRest hashes [] rest
  | _ => none

def text? (fuel : Nat) (chars : List Char) : Option (Token × List Char) :=
  (quotedRest ([·]) textEscape? fuel [] chars).map fun (chars, rest) => (.text (String.ofList chars), rest)

def bytes? (fuel : Nat) (chars : List Char) : Option (Token × List Char) :=
  (quotedRest utf8 bytesEscape? fuel [] chars).map fun (values, rest) => (.bytes values, rest)

def letter? : List Char → Option (Token × List Char)
  | '\\' :: rest =>
    match escape? rest with
    | some (.char c, '\'' :: rest) => some (.letter c, rest)
    | some (.byte value, '\'' :: rest) => if value < 0x80 then some (.letter (Char.ofNat value.toNat), rest) else none
    | _ => none
  | c :: '\'' :: rest => some (.letter c, rest)
  | _ => none

/-- A byte is a number that is written as a letter. -/
def byteLetter? (chars : List Char) : Option (Token × List Char) :=
  let number (n : Nat) : Token := .number (.integer n (some ⟨false, 8⟩))
  match chars with
  | '\\' :: rest =>
    match escape? rest with
    | some (.byte value, '\'' :: rest) => some (number value.toNat, rest)
    | _ => none
  | c :: '\'' :: rest => if c.toNat < 0x80 then some (number c.toNat, rest) else none
  | _ => none

def plainWord? (chars : List Char) : Option (Token × List Char) :=
  match chars.takeWhile continuesPlainWord with
  | [] => none
  | name => some (.plainWord (String.ofList name), chars.dropWhile continuesPlainWord)

def word? (chars : List Char) : Option (Token × List Char) :=
  if chars.head?.any startsWord then
    some (.word (String.ofList (chars.takeWhile Text.continuesName)), chars.dropWhile Text.continuesName)
  else none

/-- The first token of a text, if a quoted one is shorter than `fuel`. -/
def next? (fuel : Nat) (chars : List Char) : Option (Token × List Char) :=
  match chars with
  | '"' :: rest => text? fuel rest
  | '\'' :: rest => letter? rest
  | 'b' :: '"' :: rest => bytes? fuel rest
  | 'b' :: '\'' :: rest => byteLetter? rest
  | 'b' :: 'r' :: '"' :: _ | 'b' :: 'r' :: '#' :: _ =>
    (raw? (chars.drop 2)).map fun (chars, rest) => (.bytes (chars.flatMap utf8), rest)
  | 'r' :: '"' :: _ | 'r' :: '#' :: '"' :: _ | 'r' :: '#' :: '#' :: _ =>
    (raw? (chars.drop 1)).map fun (chars, rest) => (.text (String.ofList chars), rest)
  | 'r' :: '#' :: rest => plainWord? rest
  | c :: rest =>
    if isMark c then some (.mark c, rest)
    else if Number.starts c then (Number.next? chars).map fun (value, rest) => (.number value, rest)
    else word? chars
  | [] => none

/-- The tokens of a text, where `taken` holds those so far in reverse. Every token takes a character, so the length
of the text is fuel enough. -/
def allFrom : (fuel : Nat) → (taken : List Token) → List Char → Option (List Token)
  | 0, _, _ => none
  | fuel + 1, taken, chars =>
    match skipSpace (fuel + 1) chars with
    | none => none
    | some [] => some taken.reverse
    | some chars =>
      match next? (fuel + 1) chars with
      | none => none
      | some (token, rest) => allFrom fuel (token :: taken) rest

def all (source : String) : Option (List Token) := allFrom (source.length + 1) [] source.toList

end Token

end Adventure.Ron
