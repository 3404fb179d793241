import Adventure.Decimal.Shortest
import Adventure.Toml.Basic

namespace Adventure.Toml

def isBlank (c : Char) : Bool := c == ' ' || c == '\t'

/-- The text after a line end. -/
def lineEnd? : List Char → Option (List Char)
  | '\n' :: rest => some rest
  | '\r' :: '\n' :: rest => some rest
  | _ => none

/-- A control character may stand only where it is escaped. -/
def isControl (c : Char) : Bool := (c.toNat < 0x20 && c != '\t') || c.toNat == 0x7F

def digit? (base : Nat) (c : Char) : Option Nat :=
  let value :=
    if c.isDigit then c.toNat - '0'.toNat
    else if 'a' ≤ c ∧ c ≤ 'f' then c.toNat - 'a'.toNat + 10
    else if 'A' ≤ c ∧ c ≤ 'F' then c.toNat - 'A'.toNat + 10
    else base
  if value < base then some value else none

/-- The digits of a number; an underscore stands only between two of them. -/
def digits? (base : Nat) : List Char → Option (List Nat)
  | [] => none
  | [c] => (digit? base c).map ([·])
  | c :: '_' :: rest => do return (← digit? base c) :: (← digits? base rest)
  | c :: rest => do return (← digit? base c) :: (← digits? base rest)

def valueOf (base : Nat) (digits : List Nat) : Nat := digits.foldl (fun total digit => total * base + digit) 0

/-- An integer of 64 bits. -/
def inWord (n : Int) : Option Toml := if -0x8000000000000000 ≤ n ∧ n < 0x8000000000000000 then some (.int n) else none

/-- Digits of a whole number, which do not start with a zero unless it is the only one. -/
def whole? (chars : List Char) : Option (List Nat) := do
  let digits ← digits? 10 chars
  if digits.length > 1 ∧ digits.head? = some 0 then none else some digits

def integer? : List Char → Option Toml
  | '0' :: 'x' :: rest => (digits? 16 rest).bind fun digits => inWord (valueOf 16 digits)
  | '0' :: 'o' :: rest => (digits? 8 rest).bind fun digits => inWord (valueOf 8 digits)
  | '0' :: 'b' :: rest => (digits? 2 rest).bind fun digits => inWord (valueOf 2 digits)
  | '-' :: rest => (whole? rest).bind fun digits => inWord (-(valueOf 10 digits : Nat))
  | '+' :: rest => (whole? rest).bind fun digits => inWord (valueOf 10 digits)
  | chars => (whole? chars).bind fun digits => inWord (valueOf 10 digits)

def isExponentMark (c : Char) : Bool := c == 'e' || c == 'E'

def exponent? : List Char → Option Int
  | '-' :: rest => (digits? 10 rest).map fun digits => -(valueOf 10 digits : Nat)
  | '+' :: rest => (digits? 10 rest).map fun digits => (valueOf 10 digits : Nat)
  | rest => (digits? 10 rest).map fun digits => (valueOf 10 digits : Nat)

/-- The bits of an unsigned number with a fraction or an exponent, or of a word for one. -/
def magnitude? (chars : List Char) : Option UInt64 :=
  if chars = "inf".toList then some 0x7FF0000000000000
  else if chars = "nan".toList then some 0x7FF8000000000000
  else
    let front := chars.takeWhile (!isExponentMark ·)
    let back := chars.dropWhile (!isExponentMark ·)
    let whole := front.takeWhile (· != '.')
    let point := front.dropWhile (· != '.')
    if point.isEmpty ∧ back.isEmpty then none
    else do
      let digits ← whole? whole
      let fraction ← if point.isEmpty then some [] else digits? 10 (point.drop 1)
      let exponent ← if back.isEmpty then some 0 else exponent? (back.drop 1)
      return Decimal.nearest (valueOf 10 (digits ++ fraction)) (exponent - fraction.length)

/-- A number too large for 64 bits is refused unless it is negative. -/
def float? : List Char → Option Toml
  | '-' :: rest => (magnitude? rest).map fun bits => .float (bits ||| 0x8000000000000000)
  | '+' :: rest => positive? rest
  | rest => positive? rest
where
  positive? (chars : List Char) : Option Toml :=
    (magnitude? chars).bind fun bits =>
      if bits = 0x7FF0000000000000 ∧ chars ≠ "inf".toList then none else some (.float bits)

/-- A number of exactly `count` digits from `least` up to `most`. -/
def bounded? (count least most : Nat) (chars : List Char) : Option (Nat × List Char) :=
  let front := chars.take count
  if front.length = count ∧ front.all Char.isDigit then
    let value := front.foldl (fun total c => total * 10 + (c.toNat - '0'.toNat)) 0
    if least ≤ value ∧ value ≤ most then some (value, chars.drop count) else none
  else none

/-- The text after such a number. -/
def field? (count least most : Nat) (chars : List Char) : Option (List Char) :=
  (bounded? count least most chars).map Prod.snd

def char? (c : Char) : List Char → Option (List Char)
  | d :: rest => if c = d then some rest else none
  | [] => none

def isLeapYear (year : Nat) : Bool := year % 4 == 0 && (year % 100 != 0 || year % 400 == 0)

def daysOf (year month : Nat) : Nat :=
  if month = 2 then if isLeapYear year then 29 else 28
  else if [4, 6, 9, 11].contains month then 30
  else 31

/-- The text after a day of the calendar. -/
def date? (chars : List Char) : Option (List Char) := do
  let (year, rest) ← bounded? 4 0 9999 chars
  let (month, rest) ← char? '-' rest >>= bounded? 2 1 12
  char? '-' rest >>= field? 2 1 (daysOf year month)

def time? (chars : List Char) : Option (List Char) := do
  let rest ← field? 2 0 23 chars >>= char? ':' >>= field? 2 0 59 >>= char? ':' >>= field? 2 0 60
  match rest with
  | '.' :: rest => if (rest.takeWhile Char.isDigit).isEmpty then none else some (rest.dropWhile Char.isDigit)
  | rest => some rest

def offset? : List Char → Option (List Char)
  | 'Z' :: rest => some rest
  | 'z' :: rest => some rest
  | '+' :: rest => field? 2 0 23 rest >>= char? ':' >>= field? 2 0 59
  | '-' :: rest => field? 2 0 23 rest >>= char? ':' >>= field? 2 0 59
  | rest => some rest

def isDateMark (c : Char) : Bool := c == 'T' || c == 't' || c == ' '

/-- The text after a date, a time or both. -/
def moment? (chars : List Char) : Option (List Char) :=
  match date? chars with
  | some rest =>
    match rest with
    | c :: after => if isDateMark c then (time? after >>= offset?) <|> some rest else some rest
    | [] => some []
  | none => time? chars

def isScalarChar (c : Char) : Bool := c.isAlphanum || ['+', '-', '_', '.', ':'].contains c

/-- A value that is a single word. -/
def scalar? (chars : List Char) : Option (Toml × List Char) :=
  match moment? chars with
  | some rest => some (.moment (String.ofList (chars.take (chars.length - rest.length))), rest)
  | none =>
    let word := chars.takeWhile isScalarChar
    let rest := chars.dropWhile isScalarChar
    if word = "true".toList then some (.flag true, rest)
    else if word = "false".toList then some (.flag false, rest)
    else ((integer? word) <|> (float? word)).map (·, rest)

/-- A character given by its code in `count` hexadecimal digits. -/
def code? (count : Nat) (chars : List Char) : Option (Char × List Char) :=
  let front := chars.take count
  if front.length = count then
    match front.foldlM (fun total c => (digit? 16 c).map (total * 16 + ·)) 0 with
    | some n => if n.isValidChar then some (Char.ofNat n, chars.drop count) else none
    | none => none
  else none

/-- The character after a backslash. -/
def escape? : List Char → Option (Char × List Char)
  | 'b' :: rest => some ('\x08', rest)
  | 't' :: rest => some ('\t', rest)
  | 'n' :: rest => some ('\n', rest)
  | 'f' :: rest => some ('\x0c', rest)
  | 'r' :: rest => some ('\r', rest)
  | '"' :: rest => some ('"', rest)
  | '\\' :: rest => some ('\\', rest)
  | 'u' :: rest => code? 4 rest
  | 'U' :: rest => code? 8 rest
  | _ => none

/-- The rest of a text in double quotes on one line. -/
def basicRest : (fuel : Nat) → List Char → Option (List Char × List Char)
  | 0, _ => none
  | _ + 1, [] => none
  | fuel + 1, c :: rest =>
    if c = '"' then some ([], rest)
    else if c = '\\' then
      (escape? rest).bind fun (c, rest) => (basicRest fuel rest).map fun (chars, rest) => (c :: chars, rest)
    else if isControl c then none
    else (basicRest fuel rest).map fun (chars, rest) => (c :: chars, rest)

/-- The rest of a text in single quotes on one line, which has no escapes. -/
def literalRest : List Char → Option (List Char × List Char)
  | [] => none
  | c :: rest =>
    if c = '\'' then some ([], rest)
    else if isControl c then none
    else (literalRest rest).map fun (chars, rest) => (c :: chars, rest)

/-- The quotes at the end of a text of many lines: three close it, and up to two before them belong to it. -/
def closing? (quote : Char) (chars : List Char) : Option (List Char × List Char) :=
  let quotes := (chars.takeWhile (· == quote)).length
  if quotes < 3 then none
  else
    let kept := min (quotes - 3) 2
    some (List.replicate kept quote, chars.drop (kept + 3))

/-- The rest of a text of many lines. Between double quotes, a backslash at the end of a line joins it with
what follows the blanks after it. -/
def linesRest (quote : Char) : (fuel : Nat) → List Char → Option (List Char × List Char)
  | 0, _ => none
  | fuel + 1, chars =>
    match closing? quote chars with
    | some ended => some ended
    | none =>
      match lineEnd? chars, chars with
      | some rest, _ => (linesRest quote fuel rest).map fun (chars, rest) => ('\n' :: chars, rest)
      | none, [] => none
      | none, c :: rest =>
        if c = '\\' ∧ quote = '"' then
          match lineEnd? (rest.dropWhile isBlank) with
          | some after => linesRest quote fuel (after.dropWhile fun c => isBlank c || c == '\n' || c == '\r')
          | none =>
            (escape? rest).bind fun (c, rest) =>
              (linesRest quote fuel rest).map fun (chars, rest) => (c :: chars, rest)
        else if isControl c then none
        else (linesRest quote fuel rest).map fun (chars, rest) => (c :: chars, rest)

/-- A text of many lines, after its opening quotes. A line end right after them does not count. -/
def lines? (quote : Char) (fuel : Nat) (chars : List Char) : Option (List Char × List Char) :=
  linesRest quote fuel ((lineEnd? chars).getD chars)

/-- A text in quotes. -/
def quoted? (fuel : Nat) : List Char → Option (String × List Char)
  | '"' :: '"' :: '"' :: rest => finish (lines? '"' fuel rest)
  | '\'' :: '\'' :: '\'' :: rest => finish (lines? '\'' fuel rest)
  | '"' :: rest => finish (basicRest fuel rest)
  | '\'' :: rest => finish (literalRest rest)
  | _ => none
where
  finish (found : Option (List Char × List Char)) : Option (String × List Char) :=
    found.map fun (chars, rest) => (String.ofList chars, rest)

end Adventure.Toml
