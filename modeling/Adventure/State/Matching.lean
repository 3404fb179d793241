import Adventure.State.Basic

namespace Adventure

/-- The first of the smallest sets of a list. -/
def smallest : List FactSet → Option FactSet
  | [] => none
  | set :: rest =>
    match smallest rest with
    | some other => if other.size < set.size then some other else some set
    | none => some set

/-- Drop each element that equals the one before it. -/
def dropRepeats {α : Type} [DecidableEq α] : List α → List α
  | x :: y :: rest => if x = y then dropRepeats (y :: rest) else x :: dropRepeats (y :: rest)
  | short => short

/-- The first results, as many as wanted, of a search that is run on elements in turn. No element is searched
once there are enough, and `search` is told how many are still wanted. -/
def gather {α β : Type} (search : Nat → α → List β) : (wanted : Nat) → List α → List β
  | 0, _ => []
  | _, [] => []
  | wanted + 1, x :: rest =>
    let found := search (wanted + 1) x
    found ++ gather search (wanted + 1 - found.length) rest

namespace State

/-- The facts that may fit a pattern: those about the entity bound by the pattern that has the fewest, or,
if it binds none, all those of its predicate. -/
def candidates (s : State) (pattern : Pattern) (binding : Binding) : List Fact :=
  match pattern.parameters.filterMap (binding[·]?) with
  | [] => s.factsNamed pattern.predicate
  | bound =>
    match smallest (bound.filterMap (s.byEntity[·]?)) with
    | some facts => facts.toList.filter (·.predicate == pattern.predicate)
    | none => []

/-- The extensions of a binding that make a pattern a fact of the state. -/
def matches? (s : State) (binding : Binding) (pattern : Pattern) : List Binding :=
  (s.candidates pattern binding).filterMap (pattern.unify s.kb.types · binding)

/-- The first pattern with the fewest matches, given by its matches and the patterns besides it. -/
def tightest (s : State) (binding : Binding) : List Pattern → Option (List Binding × List Pattern)
  | [] => none
  | pattern :: rest =>
    match s.matches? binding pattern with
    | [] => some ([], rest)
    | found =>
      match s.tightest binding rest with
      | some (fewer, others) =>
        if fewer.length < found.length then some (fewer, pattern :: others) else some (found, rest)
      | none => some (found, rest)

/-- The extensions of a binding that make all patterns facts, where `count` is their number. The pattern
with the fewest matches is taken first. -/
def join (s : State) : (count : Nat) → List Pattern → Binding → List Binding
  | 0, _, binding => [binding]
  | count + 1, patterns, binding =>
    match s.tightest binding patterns with
    | some (found, rest) => found.flatMap (s.join count rest)
    | none => [binding]

/-- The first of the extensions that `join` gives, as many as wanted. -/
def joinUpTo (s : State) : (count : Nat) → List Pattern → (wanted : Nat) → Binding → List Binding
  | 0, _, wanted, binding => [binding].take wanted
  | count + 1, patterns, wanted, binding =>
    match s.tightest binding patterns with
    | some (found, rest) => gather (s.joinUpTo count rest) wanted found
    | none => [binding].take wanted

/-- The extensions of a binding under which all patterns hold. No two placeholders share an entity unless
the binding has them do so. -/
def matchAll (s : State) (patterns : List Pattern) (binding : Binding) : List Binding :=
  let patterns := dropRepeats patterns
  s.join patterns.length patterns binding

/-- The first of the bindings that `matchAll` gives, as many as wanted, found without looking for more. -/
def matchUpTo (s : State) (wanted : Nat) (patterns : List Pattern) (binding : Binding) : List Binding :=
  let patterns := dropRepeats patterns
  s.joinUpTo patterns.length patterns wanted binding

/-- Bind placeholders in turn to entities of their types that are not taken yet. -/
def bindFree (s : State) : List Placeholder → Binding → List Binding
  | [], binding => [binding]
  | placeholder :: rest, binding =>
    ((s.entitiesOf placeholder.type).filter (!binding.uses ·)).flatMap fun entity =>
      s.bindFree rest (binding.insert placeholder entity)

/-- The bindings of all placeholders of a rule under which it can be applied. `fixed` says what some of them
stand for; a placeholder that only the result mentions stands for any entity of its type. -/
def assignments (s : State) (fixed : Binding) (rule : Rule) : List Binding :=
  let placeholders := rule.placeholders
  let start := fixed.filter fun placeholder _ => placeholders.contains placeholder
  (s.matchAll rule.before start).flatMap fun binding =>
    s.bindFree (placeholders.filter (!binding.contains ·)) binding

/-- The actions of a rule. -/
def instances (s : State) (fixed : Binding) (rule : Rule) : List Action :=
  (s.assignments fixed rule).filterMap fun binding => (rule.instantiate binding).toOption

/-- The actions of some rules that can be taken, in the order of the rules and each once. -/
def actions (s : State) (rules : List Rule) (fixed : Binding) : List Action :=
  distinct ((rules.flatMap (s.instances fixed)).filter s.applicable)

def violates (s : State) (constraint : Constraint) : Bool :=
  !(s.matchUpTo 1 constraint.patterns ∅).isEmpty

/-- The name of the first constraint that the state violates. -/
def violated (s : State) : Option String := (s.kb.constraints.find? s.violates).map Constraint.name

/-- In the state after an action, the action that undoes it: one of the inverse rule whose effects are the
opposite ones. -/
def inverseOf (s : State) (action : Action) : Option Action :=
  (s.kb.inverseRule action.name).bind fun rule =>
    (s.instances Binding.fixed rule).find? fun undo =>
      s.applicable undo && undo.added == action.removed && undo.removed == action.added

end State

end Adventure
