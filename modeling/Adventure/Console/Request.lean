import Adventure.Text.Lowercase
import Adventure.Text.Blank

namespace Adventure

/-- A line that is not for the game itself. -/
inductive Request where
  | help
  | quit
  | save (slot : String)
  | load (slot : String)
  | saves
  | hint
  | commands
  | score
  | facts
  | unknown (verb : String)
deriving DecidableEq

namespace Request

/-- The slot that a line names, or the usual one. -/
def slotOf (argument : String) : String :=
  let slot := Text.trim argument
  if slot.isEmpty then "quicksave" else slot

def ofVerb (verb argument : String) : Request :=
  match verb with
  | "help" | "h" => help
  | "quit" | "q" | "exit" => quit
  | "save" => save (slotOf argument)
  | "load" => load (slotOf argument)
  | "saves" => saves
  | "hint" => hint
  | "commands" | "cmds" => commands
  | "score" => score
  | "facts" => facts
  | other => unknown other

/-- The words that ask for something. -/
def words : Request → List String
  | help => ["help"]
  | quit => ["quit"]
  | save slot => ["save", slot]
  | load slot => ["load", slot]
  | saves => ["saves"]
  | hint => ["hint"]
  | commands => ["commands"]
  | score => ["score"]
  | facts => ["facts"]
  | unknown verb => [verb]

/-- The request of a line that starts with a colon. -/
def ofLine? (line : String) : Option Request :=
  match (Text.trim line).toList with
  | ':' :: rest =>
    let verb := rest.takeWhile (!Text.isBlank ·)
    some (ofVerb (Text.lowercase (String.ofList verb)) (String.ofList (rest.drop verb.length)))
  | _ => none

end Request

end Adventure
