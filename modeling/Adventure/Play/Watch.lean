import Adventure.Play.Progression
import Adventure.World.Building
import Adventure.World.Invariant

namespace Adventure.Progression

/-- Look the world over in which a game stands. One that has flaws may be played in, but not a state that makes no
world. -/
def inspect (progression : Progression) : Except Error Unit :=
  match World.ofState progression.state >>= World.check with
  | .error error => if error.isFatal then .error error else .ok ()
  | .ok () => .ok ()

/-- Take an action. In a game that is watched the world is looked over after each action that was taken. -/
def updateWatched (progression : Progression) (watched : Bool) (action : Action) :
    Except Error (Outcome × Progression) := do
  let (outcome, after) ← progression.update action
  if watched && outcome != .invalid then after.inspect
  return (outcome, after)

end Adventure.Progression
