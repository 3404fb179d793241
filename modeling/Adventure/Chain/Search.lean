import Adventure.Chain.Basic
import Adventure.Chain.Options
import Adventure.Search.Priority

namespace Adventure

/-- An action of a chain, with what it leads to and the number of subgoals then. -/
structure Step (σ : Type) where
  action : Action
  value : σ
  breadth : Nat

/-- A node of a search, with the steps from the root to it, the last one first. -/
structure Node (σ : Type) where
  root : σ
  steps : List (Step σ)
  links : Dependencies

namespace Node

variable {σ : Type}

def value (node : Node σ) : σ := (node.steps.head?.map Step.value).getD node.root

def depth (node : Node σ) : Nat := node.steps.length

def breadth (node : Node σ) : Nat := node.links.subgoals

def lastAction (node : Node σ) : Option Action := node.steps.head?.map Step.action

/-- The values of the node and of the nodes above it. -/
def lineage (node : Node σ) : List σ := node.steps.map Step.value ++ [node.root]

def child (node : Node σ) (action : Action) (value : σ) (links : Dependencies) : Node σ :=
  ⟨node.root, ⟨action, value, links.subgoals⟩ :: node.steps, links⟩

end Node

/-- How nodes are judged and expanded. -/
structure Strategy (σ : Type) where
  /-- The chain of a node that is good as it is. -/
  finished : Node σ → Option Chain
  /-- The chain of a node that is good since nothing follows it. -/
  stuck : Node σ → Option Chain
  expand : Node σ → Option Rng → Except Error (List (Node σ) × Option Rng)
  /-- Nodes of small depth are taken first, or those of great depth. -/
  shallowFirst : Bool
  maxDepth : Nat
  maxNodes : Nat
  fault : ChainFault

/-- The nodes that wait, how many were made, and what the order of the next ones is drawn from. -/
structure Search (σ : Type) where
  waiting : SortedMap Priority (Node σ)
  made : Nat
  rng : Option Rng

namespace Search

variable {σ : Type}

/-- Nodes are taken by depth, then by breadth, then as they came. -/
def priority (strategy : Strategy σ) (node : Node σ) (turn : Nat) : Priority :=
  ⟨if strategy.shallowFirst then node.depth else -node.depth, node.breadth, turn⟩

/-- Let a new node wait. -/
def add (strategy : Strategy σ) (search : Search σ) (node : Node σ) : Search σ :=
  { search with
    waiting := search.waiting.insert (priority strategy node search.made) node
    made := search.made + 1 }

/-- Let new nodes wait as long as no more are made than may be. -/
def addAll (strategy : Strategy σ) (search : Search σ) : List (Node σ) → Except Error (Search σ)
  | [] => .ok search
  | node :: rest =>
    if search.made + 1 > strategy.maxNodes then .error (.noChain (.nodeBudget strategy.maxNodes))
    else addAll strategy (search.add strategy node) rest

/-- Take waiting nodes in order up to one that makes a chain. Every round takes a node, so there are no more rounds
than nodes made. -/
def run (strategy : Strategy σ) : (fuel : Nat) → Search σ → Except Error Chain
  | 0, _ => .error (.noChain strategy.fault)
  | fuel + 1, search =>
    match search.waiting.minEntry? with
    | none => .error (.noChain strategy.fault)
    | some (key, node) =>
      match strategy.finished node with
      | some chain => .ok chain
      | none =>
        let search := { search with waiting := search.waiting.erase key }
        if node.depth ≥ strategy.maxDepth then run strategy fuel search
        else do
          let (children, rng) ← strategy.expand node search.rng
          match if children.isEmpty then strategy.stuck node else none with
          | some chain => return chain
          | none => run strategy fuel (← addAll strategy { search with rng } children)

/-- Search from a root. -/
def fromRoot (strategy : Strategy σ) (root : σ) (rng : Option Rng) : Except Error Chain :=
  run strategy (strategy.maxNodes + 2) (add strategy ⟨∅, 0, rng⟩ ⟨root, [], Dependencies.empty⟩)

end Search

/-- Draw a new order for a list, if there is something to draw from. -/
def reorder {α : Type} (rng : Option Rng) (xs : List α) : List α × Option Rng :=
  match rng with
  | none => (xs, none)
  | some rng =>
    let (shuffled, rng) := Random.shuffle xs rng
    (shuffled, some rng)

end Adventure
