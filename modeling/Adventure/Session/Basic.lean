import Adventure.Game.Basic
import Adventure.Save.Basic
import Adventure.Text.Lowercase

namespace Adventure

/-- A game that is played by typing commands. -/
structure Session where
  game : Game
  options : PolicyOptions
  progression : Option Progression
  watched : Bool

namespace Session

/-- A game that has not been started. -/
def of (game : Game) (options : PolicyOptions) : Session := ⟨game, options, none, false⟩

/-- The session, watched or not. -/
def watch (session : Session) (watched : Bool) : Session := { session with watched }

def running (session : Session) : Except Error Progression :=
  match session.progression with
  | some progression => .ok progression
  | none => .error .notRunning

/-- A command without regard to case and spacing. -/
def normalized (command : String) : String := Text.lowercase (" ".intercalate (Text.words command))

/-- The valid actions by their commands; of actions with one command the first counts. -/
def actionsOf (game : Game) (progression : Progression) : SortedMap String Action :=
  progression.validActions.foldl
    (fun found action => found.insertIfNew (normalized (game.commandFor action)) action) ∅

/-- The commands that can be typed now, in order. -/
def admissible (session : Session) : Except Error (List String) := do
  return (actionsOf session.game (← session.running)).keys

/-- The commands that win the game, if they are known. -/
def planned (session : Session) : Except Error (Option (List String)) := do
  return (← session.running).plan.map (·.map session.game.commandFor)

def facts (session : Session) : Except Error (List Fact) := do
  return (← session.running).state.facts.toList

def save (session : Session) : Except Error SavedGame := do
  return ⟨engineVersion, session.game.metadata.uuid, (← session.running).snapshot⟩

/-- Go on from a saved game. -/
def load (session : Session) (saved : SavedGame) : Except Error Session := do
  let progression ←
    Progression.restore session.game.kb session.game.quests saved.progression session.options
  return { session with progression := some progression }

end Session

end Adventure
