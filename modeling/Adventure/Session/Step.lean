import Adventure.Play.Watch
import Adventure.Session.Scene

namespace Adventure

/-- The answer to a command. -/
structure Reply where
  observation : String
  score : Int
  done : Bool
deriving DecidableEq

namespace Session

/-- The player's room as it is now; a game that is not running shows nothing. -/
def describeRoom (session : Session) : Except Error String := do
  match session.progression with
  | none => return ""
  | some progression => return session.game.roomText (← World.ofState progression.state)

/-- Start the game, or start it again. -/
def reset (session : Session) : Except Error (String × Session) := do
  let game := session.game
  let progression := Progression.start game.world.state game.quests session.options
  let session := { session with progression := some progression }
  let room ← session.describeRoom
  let objective := game.metadata.objective
  return (if objective.isEmpty then room else objective ++ "\n\n" ++ room, session)

/-- How a game that is over has ended. -/
def verdict (progression : Progression) : String :=
  let result :=
    if progression.won then "*** You won! ***"
    else if progression.lost then "*** You lost! ***"
    else "*** There is no way left to win. ***"
  result ++ s!" Score: {progression.score}/{progression.maxScore} in {progression.moves} moves."

/-- What the player reads after an action: what it did, the quests that it decided, and how the game ended. -/
def report (game : Game) (after : Progression) (action : Action) (outcome : Outcome) : Except Error String := do
  let feedback ← game.feedback after.state action
  let quests := match outcome with
    | .invalid => []
    | .applied completed failed =>
      completed.map (fun number => "Quest complete: " ++ game.questLabel number) ++
      failed.map fun number => "Quest failed: " ++ game.questLabel number
  let ending := if after.done then [verdict after] else []
  return "\n".intercalate (feedback :: quests ++ ending)

/-- Play a command. One that no valid action has changes nothing, and no command does once the game is over. -/
def step (session : Session) (command : String) : Except Error (Reply × Session) := do
  let progression ← session.running
  if progression.done then return (⟨"The game is over.", progression.score, true⟩, session)
  else
    match (actionsOf session.game progression)[normalized command]? with
    | none =>
      return (⟨"Invalid command: '" ++ Text.trim command ++ "'.", progression.score, false⟩, session)
    | some action =>
      let (outcome, after) ← progression.updateWatched session.watched action
      let observation ← report session.game after action outcome
      return (⟨observation, after.score, after.done⟩, { session with progression := some after })

/-- Play commands in turn, up to one that cannot be answered. The session is left as the answered ones left
it. -/
def stepAll (session : Session) : (commands : List String) → Except Error (List Reply) × Session
  | [] => (.ok [], session)
  | command :: rest =>
    match session.step command with
    | .error error => (.error error, session)
    | .ok (reply, next) => (next.stepAll rest).map (·.map (reply :: ·)) id

end Session

end Adventure
