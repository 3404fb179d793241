import Adventure.Chain.Search
import Adventure.Logic.FreshNames

namespace Adventure.Backward

/-- The entities of a state and of some subgoals. -/
def pool (start : State) (subgoals : FactSet) : SortedSet Entity :=
  SortedSet.of (start.entities ++ subgoals.toList.flatMap Fact.arguments)

/-- How often the subgoals mention an entity of a type that the start does not have. -/
def freshMentions (start : State) (subgoals : FactSet) (type : String) : Nat :=
  ((subgoals.toList.flatMap Fact.arguments).filter fun entity =>
    entity.type == type && !start.hasEntity entity).length

/-- What each open placeholder may stand for: a known entity, or one made up for it. -/
def choices (options : ChainOptions) (start : State) (subgoals : FactSet) (known : List Entity) :
    (names : FreshNames) → List Placeholder → List (Placeholder × List Entity)
  | _, [] => []
  | names, placeholder :: rest =>
    let fitting := known.filter fun entity => start.kb.types.descends entity.type placeholder.type
    if options.createEntities && !options.isRestricted start.kb placeholder.type &&
        options.checkNew start placeholder.type (freshMentions start subgoals placeholder.type) then
      let (entity, names) := names.mint placeholder.type (known.map Entity.name)
      (placeholder, fitting ++ [entity]) :: choices options start subgoals known names rest
    else (placeholder, fitting) :: choices options start subgoals known names rest

/-- The extensions of a binding by choices that take no entity twice. -/
def bindChoices : List (Placeholder × List Entity) → Binding → List Binding
  | [], binding => [binding]
  | (placeholder, entities) :: rest, binding =>
    (entities.filter (!binding.uses ·)).flatMap fun entity =>
      bindChoices rest (binding.insert placeholder entity)

/-- The bindings of all placeholders of a rule that extend a given one. -/
def completions (options : ChainOptions) (start : State) (subgoals : FactSet) (rule : Rule) (binding : Binding) :
    List Binding :=
  match rule.placeholders.filter (!binding.contains ·) with
  | [] => [binding]
  | unbound =>
    bindChoices (choices options start subgoals (pool start subgoals).toList FreshNames.empty unbound) binding

/-- The facts that have to hold before an action for the subgoals to hold after it. There are none if the action
adds nothing, takes a subgoal away, or needs what cannot be stated or be true together. -/
def regress (kb : KnowledgeBase) (subgoals : FactSet) (action : Action) : Option FactSet :=
  let added := action.added
  if added.isEmpty || action.removed.any (subgoals.contains ·) then none
  else
    let needed := (subgoals.filter (!added.contains ·)).union action.before
    match State.ofFacts kb needed.toList with
    | .error _ => none
    | .ok probe => if probe.violated.isSome then none else some needed

/-- The actions of a rule that add one of the subgoals. -/
def achievers (options : ChainOptions) (start : State) (subgoals : FactSet) (rule : Rule) :
    Except Error (List Action) :=
  (rule.addedPatterns.flatMap fun pattern =>
    subgoals.toList.flatMap fun fact =>
      match pattern.unify start.kb.types fact options.fixed with
      | none => []
      | some binding => completions options start subgoals rule binding).mapM rule.instantiate

/-- The node before an action, unless the action does not lead to the subgoals, they come back to earlier ones by
it, or a chain may not take it. -/
def step (options : ChainOptions) (start : State) (node : Node FactSet) (action : Action) :
    Option (Node FactSet) :=
  match regress start.kb node.value action with
  | none => none
  | some needed =>
    if node.lineage.contains needed || !options.allows start start none action then none
    else
      let links := Dependencies.ofActions (action :: node.steps.map Step.action)
      some (node.child action needed links)

def expand (options : ChainOptions) (start : State) (node : Node FactSet) (rng : Option Rng) :
    Except Error (List (Node FactSet) × Option Rng) := do
  let actions ← (options.rulesAt start.kb node.depth).mapM (achievers options start node.value)
  return reorder rng ((distinct actions.flatten).filterMap (step options start node))

/-- The states after each action, if all can be taken. -/
def replay (s : State) : List Action → Option (List State)
  | [] => some []
  | action :: rest =>
    match s.apply action with
    | .ok (some next) => (replay next rest).map (next :: ·)
    | _ => none

/-- Every subgoal is true at the start or about something that is not there yet. -/
def settled (start : State) (subgoals : FactSet) : Bool :=
  subgoals.all fun fact => start.contains fact || fact.arguments.any (!start.hasEntity ·)

/-- The chain from a start with the subgoals of a node added, if that is a start to play from and the chain leads
to the goal. -/
def chainFrom (options : ChainOptions) (start : State) (goal : List Fact) (node : Node FactSet) :
    Option Chain := do
  guard (settled start node.value)
  let initial ← (start.addFacts node.value.toList).toOption
  guard initial.violated.isNone
  guard (options.minBreadth ≤ node.breadth ∧ node.breadth ≤ options.maxBreadth)
  let actions := node.steps.map Step.action
  let states ← replay initial actions
  guard (goal.all (states.getLast?.getD initial).contains)
  return ⟨initial, actions, states, Dependencies.empty.breadths actions⟩

def strategy (options : ChainOptions) (start : State) (goal : List Fact) : Strategy FactSet where
  finished node := if options.minDepth ≤ node.depth then chainFrom options start goal node else none
  stuck _ := none
  expand := expand options start
  shallowFirst := true
  maxDepth := options.maxDepth
  maxNodes := options.maxNodes
  fault := .backwardExhausted

/-- A chain of actions to the goal, from the given state with what it lacks added. -/
def search (start : State) (options : ChainOptions) : Except Error Chain := do
  match options.goal with
  | none => .error (.noChain .goalMissing)
  | some goal =>
    goal.forM start.kb.checkFact
    Search.fromRoot (strategy options start goal) (SortedSet.of goal) options.rng

end Adventure.Backward
