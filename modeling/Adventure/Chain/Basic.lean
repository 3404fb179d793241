import Adventure.State.Basic

namespace Adventure

/-- The facts that a chain has added, each with the number of the subgoal that it serves, and how many subgoals
there are. -/
structure Dependencies where
  facts : SortedMap Fact Nat
  subgoals : Nat

namespace Dependencies

def empty : Dependencies := ⟨∅, 0⟩

/-- The earliest subgoal whose facts an action relies on. -/
def joined (links : Dependencies) (action : Action) : Option Nat :=
  (action.before.toList.filterMap (links.facts[·]?)).min?

/-- Follow an action, and tell its subgoal: one that it relies on, or else a new one. -/
def record (links : Dependencies) (action : Action) : Nat × Dependencies :=
  let (subgoal, subgoals) := match links.joined action with
    | some subgoal => (subgoal, links.subgoals)
    | none => (links.subgoals, links.subgoals + 1)
  let kept := action.removed.toList.foldl (fun facts fact => facts.erase fact) links.facts
  (subgoal, ⟨action.added.toList.foldl (fun facts fact => facts.insert fact subgoal) kept, subgoals⟩)

def follow (links : Dependencies) (action : Action) : Dependencies := (links.record action).2

def ofActions (actions : List Action) : Dependencies := actions.foldl follow empty

/-- The number of subgoals after each action. -/
def breadths (links : Dependencies) : List Action → List Nat
  | [] => []
  | action :: rest => (links.follow action).subgoals :: breadths (links.follow action) rest

/-- Put each action to the part of its subgoal; a new subgoal opens a part. -/
def split (links : Dependencies) (parts : List (List Action)) : List Action → List (List Action)
  | [] => parts
  | action :: rest =>
    let (subgoal, links) := links.record action
    let parts := if subgoal = parts.length then parts ++ [[]] else parts
    split links (parts.modify subgoal (· ++ [action])) rest

end Dependencies

/-- Actions with the states that they pass through and the number of subgoals after each. -/
structure Chain where
  start : State
  actions : List Action
  states : List State
  breadths : List Nat

namespace Chain

def final (chain : Chain) : State := chain.states.getLast?.getD chain.start

/-- The actions of each subgoal, in the order of the chain. -/
def splitByBreadth (chain : Chain) : List (List Action) := Dependencies.empty.split [] chain.actions

end Chain

end Adventure
