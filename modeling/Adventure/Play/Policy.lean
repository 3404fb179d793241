import Adventure.Play.Tracker
import Adventure.Search.Priority
import Adventure.State.Matching
import Std.Data.HashSet

namespace Adventure

/-- How far a way to win is looked for. -/
structure PolicyOptions where
  maxDepth : Nat
  maxNodes : Nat
deriving DecidableEq

def PolicyOptions.usual : PolicyOptions := ⟨32, 50000⟩

/-- What is known of a way to win: a shortest one, that there is none, or nothing. -/
inductive Policy where
  | found (plan : List Action)
  | unreachable
  | unknown
deriving DecidableEq

/-- The facts and where the quests stand: all that matters for what follows. -/
structure Situation where
  facts : FactSet
  trackers : List Tracker
deriving DecidableEq

instance : Hashable Situation :=
  ⟨fun situation => mixHash (hash situation.facts.toList) (hash situation.trackers)⟩

namespace Policy

/-- A state on the way, with the actions that led to it, the last one first. -/
structure Spot where
  state : State
  trackers : List Tracker
  trail : List Action

/-- The spots that wait, the situations met, the number of spots made, and whether one was left at full depth. -/
structure Progress where
  waiting : SortedMap Priority Spot
  met : Std.HashSet Situation
  made : Nat
  cut : Bool

/-- Spots are taken by depth, then by how far their quests have come, then as they were made. -/
def priority (spot : Spot) (turn : Nat) : Priority :=
  ⟨spot.trail.length, -(spot.trackers.foldr (fun tracker rest => tracker.advancement + rest) 0 : Nat), turn⟩

/-- The spot after an action, unless the action changes nothing, cannot be taken, or fails a quest. -/
def Spot.after (quests : List Quest) (spot : Spot) (action : Action) : Option Spot :=
  if action.idle then none
  else
    match spot.state.apply action with
    | .ok (some next) =>
      let trackers := Tracker.progressAll action next quests spot.trackers
      if Tracker.anyFailed trackers then none else some ⟨next, trackers, action :: spot.trail⟩
    | _ => none

/-- Try actions in turn at a spot. A spot that wins or is one too many ends the search. -/
def tryAll (quests : List Quest) (options : PolicyOptions) (spot : Spot) :
    List Action → Progress → Except Policy Progress
  | [], progress => .ok progress
  | action :: rest, progress =>
    match spot.after quests action with
    | none => tryAll quests options spot rest progress
    | some next =>
      let situation : Situation := ⟨next.state.facts, next.trackers⟩
      if progress.met.contains situation then tryAll quests options spot rest progress
      else if Tracker.allWon quests next.trackers then .error (.found next.trail.reverse)
      else if progress.made + 1 ≥ options.maxNodes then .error .unknown
      else
        tryAll quests options spot rest { progress with
          waiting := progress.waiting.insert (priority next progress.made) next
          met := progress.met.insert situation
          made := progress.made + 1 }

/-- Take waiting spots in order up to one that wins. Every round takes a spot, so there are no more rounds than
spots made. -/
def run (quests : List Quest) (options : PolicyOptions) : (fuel : Nat) → Progress → Policy
  | 0, _ => .unknown
  | fuel + 1, progress =>
    match progress.waiting.minEntry? with
    | none => if progress.cut then .unknown else .unreachable
    | some (key, spot) =>
      let progress := { progress with waiting := progress.waiting.erase key }
      if spot.trail.length ≥ options.maxDepth then run quests options fuel { progress with cut := true }
      else
        let actions := spot.state.actions spot.state.kb.chainingRules Binding.fixed
        match tryAll quests options spot actions progress with
        | .ok progress => run quests options fuel progress
        | .error outcome => outcome

/-- Look for a shortest way to win every quest that can be won without failing one. -/
def search (s : State) (quests : List Quest) (trackers : List Tracker) (options : PolicyOptions) : Policy :=
  if Tracker.anyFailed trackers then .unreachable
  else if Tracker.allWon quests trackers then .found []
  else
    let spot : Spot := ⟨s, trackers, []⟩
    run quests options (options.maxNodes + 2)
      ⟨(∅ : SortedMap Priority Spot).insert (priority spot 0) spot,
        (∅ : Std.HashSet Situation).insert ⟨s.facts, trackers⟩, 1, false⟩

end Policy

end Adventure
