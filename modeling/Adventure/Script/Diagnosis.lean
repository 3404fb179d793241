import Adventure.Script.Grammar

namespace Adventure.Script

/-- The characters still to read, and the number of those read. -/
structure Cursor where
  position : Nat
  rest : List Char

def Cursor.advance (cursor : Cursor) (count : Nat) : Cursor :=
  ⟨cursor.position + count, cursor.rest.drop count⟩

def Cursor.skip (cursor : Cursor) : Cursor :=
  let rest := skipFrom false cursor.rest
  ⟨cursor.position + (cursor.rest.length - rest.length), rest⟩

/-- The furthest place at which phrases failed, and those phrases. -/
structure Attempts where
  position : Nat
  phrases : List Phrase

namespace Attempts

def countAt (attempts : Attempts) (position : Nat) : Nat :=
  if attempts.position = position then attempts.phrases.length else 0

/-- Note that a phrase failed where it began, at `start`, before which `known` attempts were noted there. The
phrase takes the place of its parts that failed at the same place, unless there is just one. -/
def note (attempts : Attempts) (phrase : Phrase) (start known : Nat) : Attempts :=
  if attempts.countAt start = known + 1 then attempts
  else if start > attempts.position then ⟨start, [phrase]⟩
  else if start = attempts.position then ⟨start, attempts.phrases.take known ++ [phrase]⟩
  else attempts

end Attempts

/-- Read a form, noting the phrases that fail. `fuel` bounds the depth of the reading. -/
def Form.attempt : (fuel : Nat) → Texture → Form → Cursor → Attempts → Option Cursor × Attempts
  | 0, _, _, _, attempts => (none, attempts)
  | fuel + 1, texture, form, cursor, attempts =>
    let blanks (cursor : Cursor) : Cursor := if texture = .loose then cursor.skip else cursor
    match form with
    | .text chars => (if chars.isPrefixOf cursor.rest then some (cursor.advance chars.length) else none, attempts)
    | .char allowed =>
      match cursor.rest with
      | c :: _ => (if allowed c then some (cursor.advance 1) else none, attempts)
      | [] => (none, attempts)
    | .unless next =>
      match cursor.rest with
      | c :: _ => (if next c then none else some cursor, attempts)
      | [] => (some cursor, attempts)
    | .finish => (if cursor.rest.isEmpty then some cursor else none, attempts)
    | .phrase part =>
      let (inner, body) := part.form
      let known := attempts.countAt cursor.position
      let inside := if texture = .loose then inner else if inner = .loose then texture else inner
      match Form.attempt fuel inside body cursor attempts with
      | (some after, attempts) => (some after, attempts)
      | (none, attempts) =>
        (none, if texture = .solid then attempts else attempts.note part cursor.position known)
    | .seq first second =>
      match Form.attempt fuel texture first cursor attempts with
      | (some after, attempts) => Form.attempt fuel texture second (blanks after) attempts
      | failed => failed
    | .either first second =>
      match Form.attempt fuel texture first cursor attempts with
      | (some after, attempts) => (some after, attempts)
      | (none, attempts) => Form.attempt fuel texture second cursor attempts
    | .maybe body =>
      match Form.attempt fuel texture body cursor attempts with
      | (some after, attempts) => (some after, attempts)
      | (none, attempts) => (some cursor, attempts)
    | .star round =>
      match Form.attempt fuel texture round cursor attempts with
      | (some after, attempts) => Form.attempt fuel texture (.more round) after attempts
      | (none, attempts) => (some cursor, attempts)
    | .more round =>
      match Form.attempt fuel texture round (blanks cursor) attempts with
      | (some after, attempts) => Form.attempt fuel texture (.more round) after attempts
      | (none, attempts) => (some cursor, attempts)

/-- `a`, `a or b`, `a, b, or c`. -/
def alternatives : List String → String
  | [] => ""
  | [only] => only
  | [first, second] => first ++ " or " ++ second
  | names => ", ".intercalate names.dropLast ++ ", or " ++ names.getLastD ""

/-- Line and column of a place in a text, both counted from one. -/
def lineColumn (before : List Char) : Nat × Nat :=
  (newlines before + 1, (before.reverse.takeWhile (· != '\n')).length + 1)

/-- Where a text stops being a list of statements. -/
def diagnose (source : String) : ReadFault :=
  let chars := source.toList
  let fuel := 16 * (chars.length + 16)
  let (_, attempts) := Form.attempt fuel .loose (.phrase .program) ⟨0, chars⟩ ⟨0, []⟩
  let (line, column) := lineColumn (chars.take attempts.position)
  let expected := (Phrase.labels.filter fun (phrase, _) => attempts.phrases.contains phrase).map Prod.snd
  ⟨line, column, "expected " ++ alternatives expected⟩

end Adventure.Script
