import Adventure.Chain.Search

namespace Adventure.Forward

/-- The chain of the steps to a node. -/
def chainTo (node : Node State) : Chain :=
  let steps := node.steps.reverse
  ⟨node.root, steps.map Step.action, steps.map Step.value, steps.map Step.breadth⟩

/-- The node is deep and broad enough. -/
def ample (options : ChainOptions) (node : Node State) : Bool :=
  options.minDepth ≤ node.depth && options.minBreadth ≤ node.breadth

/-- The node reaches the goal, or without a goal the full depth. -/
def reached (options : ChainOptions) (node : Node State) : Bool :=
  match options.goal with
  | some goal => goal.all node.value.contains
  | none => node.depth == options.maxDepth

/-- The node after an action, unless the chain may not take it, comes back to one of its states by it, or becomes
too broad. -/
def step (options : ChainOptions) (node : Node State) (action : Action) : Except Error (Option (Node State)) :=
  if options.allows node.root node.value node.lastAction action then do
    match ← node.value.apply action with
    | none => return none
    | some next =>
      let links := node.links.follow action
      if node.lineage.contains next || options.maxBreadth < links.subgoals then return none
      else return some (node.child action next links)
  else return none

/-- The nodes after each action, as far as there is one. -/
def stepAll (options : ChainOptions) (node : Node State) : List Action → Except Error (List (Node State))
  | [] => return []
  | action :: rest => do
    let child ← step options node action
    return child.toList ++ (← stepAll options node rest)

def expand (options : ChainOptions) (node : Node State) (rng : Option Rng) :
    Except Error (List (Node State) × Option Rng) := do
  let s := node.value
  let (actions, rng) := reorder rng (s.actions (options.rulesAt s.kb node.depth) options.fixed)
  return (← stepAll options node actions, rng)

def strategy (options : ChainOptions) : Strategy State where
  finished node := if ample options node && reached options node then some (chainTo node) else none
  stuck node := if options.goal.isNone && ample options node then some (chainTo node) else none
  expand := expand options
  shallowFirst := options.goal.isSome
  maxDepth := options.maxDepth
  maxNodes := options.maxNodes
  fault := .forwardExhausted

/-- A chain of actions from a state on: a shortest one to the goal, or without a goal one of full length or that
cannot go on. -/
def search (start : State) (options : ChainOptions) : Except Error Chain :=
  Search.fromRoot (strategy options) start options.rng

end Adventure.Forward
