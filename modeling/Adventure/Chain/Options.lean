import Adventure.Random.Draw
import Adventure.State.Matching

namespace Adventure

/-- What a chain may be and how it is looked for. -/
structure ChainOptions where
  backward : Bool
  minDepth : Nat
  maxDepth : Nat
  minBreadth : Nat
  maxBreadth : Nat
  /-- How many nodes may be made before the search is given up. -/
  maxNodes : Nat
  /-- A backward chain may need entities that are not there yet. -/
  createEntities : Bool
  fixed : Binding
  /-- Types of which no entity is made up. -/
  restrictedTypes : SortedSet String
  /-- Nor may an action change facts about entities of those types. -/
  restrictExisting : Bool
  /-- The names of the rules for each depth; all rules serve where none is named. -/
  rulesPerDepth : List (List String)
  goal : Option (List Fact)
  /-- Where the order of the candidates is drawn from; without it they keep the order of the rules. -/
  rng : Option Rng
  /-- Whether an action may be taken in a state after another one. -/
  checkAction : State → Option Action → Action → Bool
  /-- Whether an entity of a type may be made up when so many are. -/
  checkNew : State → String → Nat → Bool

namespace ChainOptions

def usual : ChainOptions where
  backward := false
  minDepth := 1
  maxDepth := 1
  minBreadth := 1
  maxBreadth := 1
  maxNodes := 10000
  createEntities := false
  fixed := Binding.fixed
  restrictedTypes := ∅
  restrictExisting := false
  rulesPerDepth := []
  goal := none
  rng := none
  checkAction _ _ _ := true
  checkNew _ _ _ := true

/-- The rules that serve at a depth. -/
def rulesAt (options : ChainOptions) (kb : KnowledgeBase) (depth : Nat) : List Rule :=
  match options.rulesPerDepth.getD depth [] with
  | [] => kb.chainingRules
  | names => kb.chainingRules.filter fun rule => names.contains rule.name

def isRestricted (options : ChainOptions) (kb : KnowledgeBase) (type : String) : Bool :=
  options.restrictedTypes.any fun restricted => kb.types.descends type restricted

/-- The action changes a fact about an entity of the start that must be left alone. -/
def touchesRestricted (options : ChainOptions) (start : State) (action : Action) : Bool :=
  ((action.added.toList ++ action.removed.toList).flatMap Fact.arguments).any fun entity =>
    options.isRestricted start.kb entity.type && start.hasEntity entity

/-- The action may be part of a chain, taken in a state after another one. -/
def allows (options : ChainOptions) (start s : State) (previous : Option Action) (action : Action) : Bool :=
  !action.idle && !(options.restrictExisting && options.touchesRestricted start action) &&
    options.checkAction s previous action

end ChainOptions

end Adventure
