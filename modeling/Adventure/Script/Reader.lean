import Adventure.Script.Statement

namespace Adventure.Script

/-- Reading takes characters from the front of a text, or fails. -/
abbrev Reader := StateT (List Char) Option

def isWordStart (c : Char) : Bool := c.isAlphanum || c == '_'

def isWordChar (c : Char) : Bool := isWordStart c || c == '-'

def isBlank (c : Char) : Bool := c == ' ' || c == '\t' || c == '\r' || c == '\n'

/-- Drop blanks and comments, where `inComment` tells whether one is open. A comment lasts to the end of its
line. -/
def skipFrom : (inComment : Bool) → List Char → List Char
  | _, [] => []
  | true, c :: rest => skipFrom (c != '\n') rest
  | false, c :: rest =>
    if isBlank c then skipFrom false rest else if c = '#' then skipFrom true rest else c :: rest

def skip : Reader Unit := modify (skipFrom false)

/-- Take a fixed text. -/
def literally (text : List Char) : Reader Unit := fun rest =>
  if text.isPrefixOf rest then some ((), rest.drop text.length) else none

/-- Take the longest run of characters of a class. -/
def run (p : Char → Bool) : Reader (List Char) := fun rest => some (rest.takeWhile p, rest.dropWhile p)

/-- Take a run that is not empty. -/
def run1 (p : Char → Bool) : Reader (List Char) := do
  match ← run p with
  | [] => failure
  | taken => return taken

/-- Read `p` if it can be read. -/
def maybe {α : Type} (p : Reader α) : Reader (Option α) := fun rest =>
  match p rest with
  | some (value, rest) => some (some value, rest)
  | none => some (none, rest)

/-- Read `p` up to `count` times, as long as it can be read. -/
def repeated {α : Type} (p : Reader α) : (count : Nat) → Reader (List α)
  | 0 => return []
  | count + 1 => do
    match ← maybe p with
    | some value => return value :: (← repeated p count)
    | none => return []

/-- Read `p` as long as it can be read. -/
def many {α : Type} (p : Reader α) : Reader (List α) := do
  repeated p (← get).length

/-- A keyword, which no letter of a word may follow. -/
def keyword (word : String) : Reader Unit := do
  literally word.toList
  match ← get with
  | c :: _ => if isWordChar c then failure
  | [] => return

def word : Reader (List Char) := do
  match ← get with
  | c :: _ => if isWordStart c then run isWordChar else failure
  | [] => failure

def identifier : Reader String := String.ofList <$> word

/-- Words joined by slashes. -/
def ruleName : Reader String := do
  let first ← word
  let others ← many do
    literally ['/']
    return '/' :: (← word)
  return String.ofList (first ++ others.flatten)

/-- What a backslash and a character stand for. -/
def unescape : Char → List Char
  | 'n' => ['\n']
  | 't' => ['\t']
  | '"' => ['"']
  | '\\' => ['\\']
  | c => ['\\', c]

/-- The rest of a quoted text, up to the closing quote. -/
def quotedRest : List Char → Option (List Char × List Char)
  | [] => none
  | '\\' :: c :: rest => (quotedRest rest).map fun (text, rest) => (unescape c ++ text, rest)
  | c :: rest =>
    if c = '"' then some ([], rest)
    else if c = '\\' then none
    else (quotedRest rest).map fun (text, rest) => (c :: text, rest)

def quoted : Reader String := do
  literally ['"']
  String.ofList <$> (quotedRest : Reader (List Char))

/-- Read `p` after blanks. -/
def next {α : Type} (p : Reader α) : Reader α := do skip; p

def mark (text : String) : Reader Unit := next (literally text.toList)

/-- One or more items with a mark between each two. -/
def separated {α : Type} (separator : String) (item : Reader α) : Reader (List α) := do
  let first ← item
  let others ← many do
    mark separator
    next item
  return first :: others

def typeList : Reader (List String) := separated "," identifier

def isNameChar (c : Char) : Bool := isWordStart c

/-- A placeholder. Its type, if it is not written, is the name without the primes at its end. -/
def placeholder : Reader Placeholder := do
  let stem ← run1 isNameChar
  let primes ← run (· == '\'')
  let type ← maybe do
    mark ":"
    next identifier
  return ⟨String.ofList (stem ++ primes), type.getD (String.ofList stem)⟩

def literal : Reader Literal := do
  let preserved ← maybe (literally ['$'])
  let predicate ← next identifier
  mark "("
  let parameters ← maybe (next (separated "," placeholder))
  mark ")"
  return ⟨preserved.isSome, ⟨predicate, parameters.getD []⟩⟩

def conjunction : Reader (List Literal) := separated "&" literal

def nameStatement : Reader Statement := do
  keyword "name"
  let id ← next quoted
  mark ";"
  return .name id

def typeStatement : Reader Statement := do
  keyword "type"
  let name ← next identifier
  let parents ← maybe do
    mark ":"
    next typeList
  mark ";"
  return .type ⟨name, parents.getD []⟩

def predicateStatement : Reader Statement := do
  keyword "predicate"
  let name ← next identifier
  mark "("
  let types ← maybe (next typeList)
  mark ")"
  mark ";"
  return .predicate ⟨name, types.getD []⟩

def newlines (text : List Char) : Nat := text.count '\n'

/-- A rule in a text with `lines` line ends. -/
def ruleStatement (lines : Nat) : Reader Statement := do
  let line := lines - newlines (← get) + 1
  let observational ← maybe (keyword "observe")
  next (keyword "rule")
  let name ← next ruleName
  mark "::"
  let before ← maybe (next conjunction)
  mark "->"
  let after ← maybe (next conjunction)
  let command ← maybe do
    mark "=>"
    next quoted
  mark ";"
  return .rule ⟨observational.isSome, name, before.getD [], after.getD [], command, line⟩

def constraintStatement : Reader Statement := do
  keyword "constraint"
  let name ← next ruleName
  mark "::"
  let literals ← next conjunction
  mark ";"
  return .constraint name literals

def inverseStatement : Reader Statement := do
  keyword "inverse"
  let rule ← next ruleName
  mark "::"
  let inverse ← next ruleName
  mark ";"
  return .inverse ⟨rule, inverse⟩

def hintStatement : Reader Statement := do
  keyword "hint"
  let type ← next identifier
  let text ← next quoted
  mark ";"
  return .hint ⟨type, text⟩

def statement (lines : Nat) : Reader Statement :=
  nameStatement <|> typeStatement <|> predicateStatement <|> ruleStatement lines <|> constraintStatement <|>
    inverseStatement <|> hintStatement

/-- The statements of a text, if it holds nothing else. -/
def read? (source : String) : Option (List Statement) :=
  let chars := source.toList
  match (many (next (statement (newlines chars)))) chars with
  | some (statements, rest) => if (skipFrom false rest).isEmpty then some statements else none
  | none => none

end Adventure.Script
