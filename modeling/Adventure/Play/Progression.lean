import Adventure.Play.Policy

namespace Adventure

/-- A game under way: the state, where the quests stand, the score, and the way to win. -/
structure Progression where
  state : State
  quests : List Quest
  trackers : List Tracker
  score : Int
  moves : Nat
  policy : Policy
  options : PolicyOptions

/-- What is kept of a game under way. -/
structure Snapshot where
  facts : List Fact
  trackers : List Tracker
  score : Int
  moves : Nat
deriving DecidableEq

/-- What an action did: nothing, since it could not be taken, or the quests of some numbers were completed and
others failed. -/
inductive Outcome where
  | invalid
  | applied (completed failed : List Nat)
deriving DecidableEq

namespace Progression

/-- The rewards of quests with some numbers. -/
def rewards (quests : List Quest) (numbers : List Nat) : Int :=
  numbers.foldr (fun number rest => ((quests[number]?).elim 0 fun quest => quest.reward.toInt) + rest) 0

/-- The numbers of the quests that were pending and now have a status. -/
def newly (status : Status) (before after : List Tracker) : List Nat :=
  ((before.zip after).zipIdx.filter fun ((old, new), _) => old.status == .pending && new.status == status).map
    Prod.snd

/-- Find the way to win again. An action that follows it leaves the rest of it. -/
def replan (progression : Progression) (taken : Option Action) : Progression :=
  let searched := fun (_ : Unit) =>
    Policy.search progression.state progression.quests progression.trackers progression.options
  let policy :=
    if Tracker.anyFailed progression.trackers then .unreachable
    else
      match taken, progression.policy with
      | some action, .found (first :: rest) => if first = action then .found rest else searched ()
      | _, _ => searched ()
  { progression with policy }

def observeAll (s : State) : List Quest → List Tracker → List Tracker
  | quest :: quests, tracker :: trackers => tracker.settle quest s :: observeAll s quests trackers
  | _, trackers => trackers

/-- Start to follow quests. Those that the state decides are decided at once. -/
def start (s : State) (quests : List Quest) (options : PolicyOptions) : Progression :=
  let fresh := quests.map Tracker.ofQuest
  let trackers := observeAll s quests fresh
  replan ⟨s, quests, trackers, rewards quests (newly .completed fresh trackers), 0, .unknown, options⟩ none

/-- A list cut or filled to a length. -/
def resized {α : Type} (xs : List α) (length : Nat) (filler : α) : List α :=
  xs.take length ++ List.replicate (length - xs.length) filler

/-- A tracker with a place for each event of a quest. -/
def fitted (quest : Quest) (tracker : Tracker) : Tracker :=
  { tracker with
    wins := resized tracker.wins quest.wins.length 0
    fails := resized tracker.fails quest.fails.length 0 }

/-- Go on from a snapshot. -/
def restore (kb : KnowledgeBase) (quests : List Quest) (snapshot : Snapshot) (options : PolicyOptions) :
    Except Error Progression := do
  let s ← State.ofFacts kb snapshot.facts
  let kept := resized snapshot.trackers quests.length ⟨.pending, [], []⟩
  let trackers := observeAll s quests (List.zipWith fitted quests kept)
  return replan ⟨s, quests, trackers, snapshot.score, snapshot.moves, .unknown, options⟩ none

def snapshot (progression : Progression) : Snapshot :=
  ⟨progression.state.facts.toList, progression.trackers, progression.score, progression.moves⟩

/-- Take an action. -/
def update (progression : Progression) (action : Action) : Except Error (Outcome × Progression) := do
  match ← progression.state.apply action with
  | none => return (.invalid, progression)
  | some s =>
    let trackers := Tracker.progressAll action s progression.quests progression.trackers
    let completed := newly .completed progression.trackers trackers
    let after := { progression with
      state := s
      trackers
      score := progression.score + rewards progression.quests completed
      moves := progression.moves + 1 }
    return (.applied completed (newly .failed progression.trackers trackers), after.replan (some action))

def maxScore (progression : Progression) : Int := Quest.maxScore progression.quests

/-- Every quest that can be won is, and none failed. -/
def won (progression : Progression) : Bool :=
  !Tracker.anyFailed progression.trackers && Tracker.allWon progression.quests progression.trackers

def canFail (progression : Progression) : Bool := progression.quests.any fun quest => !quest.fails.isEmpty

/-- A quest failed, or there is no way to win any more a game that can be failed. -/
def lost (progression : Progression) : Bool :=
  Tracker.anyFailed progression.trackers || (progression.policy == .unreachable && progression.canFail)

/-- There is no way to win any more a game that cannot be failed. -/
def trapped (progression : Progression) : Bool :=
  !progression.won && progression.policy == .unreachable && !progression.canFail

def done (progression : Progression) : Bool :=
  progression.won || progression.lost || progression.trapped

/-- A shortest way to win, if one is known. -/
def plan (progression : Progression) : Option (List Action) :=
  match progression.policy with
  | .found plan => some plan
  | _ => none

/-- All actions that can be taken, in the order of the rules. -/
def validActions (progression : Progression) : List Action :=
  progression.state.actions progression.state.kb.rules Binding.fixed

end Progression

end Adventure
