import Adventure.Sorted

namespace Adventure

namespace Template

/-- A stretch of a command template: characters to copy, or the name of a slot. -/
inductive Piece where
  | text (chars : List Char)
  | slot (name : List Char)

/-- Cut a template into pieces, where `opened` holds the characters after an open brace in reverse. A slot
is a non-empty name between braces with no brace in it; all other braces are text. -/
def piecesFrom : (opened : Option (List Char)) → List Char → List Piece
  | none, [] => []
  | some opened, [] => [.text ('\x7b' :: opened.reverse)]
  | none, c :: rest =>
    if c = '\x7b' then piecesFrom (some []) rest else .text [c] :: piecesFrom none rest
  | some opened, c :: rest =>
    if c = '\x7b' then .text ('\x7b' :: opened.reverse) :: piecesFrom (some []) rest
    else if c = '\x7d' then
      match opened with
      | [] => .text ['\x7b', '\x7d'] :: piecesFrom none rest
      | _ => .slot opened.reverse :: piecesFrom none rest
    else piecesFrom (some (c :: opened)) rest

def pieces (template : String) : List Piece := piecesFrom none template.toList

/-- The text of a template whose slots are filled by `fill`. -/
def render (fill : String → String) (template : String) : String :=
  String.join ((pieces template).map fun
    | .text chars => String.ofList chars
    | .slot name => fill (String.ofList name))

/-- Write a name as a slot. -/
def slot (name : String) : String := "\x7b" ++ name ++ "\x7d"

/-- The texts from each open brace to the next closing one, where `opened` holds the characters after an
open brace in reverse. -/
def slotsFrom : (opened : Option (List Char)) → List Char → List String
  | _, [] => []
  | none, c :: rest => slotsFrom (if c = '\x7b' then some [] else none) rest
  | some opened, c :: rest =>
    if c = '\x7d' then String.ofList opened.reverse :: slotsFrom none rest
    else slotsFrom (some (c :: opened)) rest

/-- The slot names that a template uses. -/
def slots (template : String) : List String := slotsFrom none template.toList

end Template

end Adventure
