import Adventure.Chain.Finding
import Adventure.Proofs.Chain.Exploration
import Adventure.Proofs.Chain.Subgoals
import Adventure.Proofs.Chain.Weakest
import Adventure.Proofs.Play.Moves
import Adventure.Proofs.Random.Shuffle
import Mathlib.Data.Option.Basic

namespace Adventure

theorem exists_of_mem_mapM {ε α β : Type} {f : α → Except ε β} {xs : List α} {ys : List β}
    (run : xs.mapM f = .ok ys) {y : β} (member : y ∈ ys) : ∃ x ∈ xs, f x = .ok y := by
  induction xs generalizing ys with
  | nil =>
    cases run
    cases member
  | cons x xs ih =>
    rw [List.mapM_cons] at run
    obtain ⟨first, here, run⟩ := bind_eq_ok_iff.mp run
    obtain ⟨others, rest, run⟩ := bind_eq_ok_iff.mp run
    cases run
    rcases List.mem_cons.mp member with rfl | later
    · exact ⟨x, List.mem_cons_self, here⟩
    · obtain ⟨other, listed, there⟩ := ih rest later
      exact ⟨other, List.mem_cons_of_mem x listed, there⟩

theorem Action.mem_entities {action : Action} {e : Entity} :
    e ∈ action.entities ↔ ∃ fact, (fact ∈ action.before ∨ fact ∈ action.after) ∧ e ∈ fact.arguments := by
  simp only [entities, SortedSet.mem_of, List.mem_flatMap, List.mem_append, Std.ExtTreeSet.mem_toList]

/-- Every entity of an action of a rule stands for a placeholder. -/
theorem Rule.exists_of_mem_entities {rule : Rule} {binding : Binding} {action : Action} {e : Entity}
    (instantiated : rule.instantiate binding = .ok action) (mentioned : e ∈ action.entities) :
    ∃ p : Placeholder, binding[p]? = some e := by
  obtain ⟨fact, side, argument⟩ := Action.mem_entities.mp mentioned
  rcases side with before | after
  · obtain ⟨pattern, -, ground⟩ := (mem_before instantiated).mp before
    obtain ⟨p, -, here⟩ := pattern.exists_of_mem_arguments ground argument
    exact ⟨p, here⟩
  · obtain ⟨pattern, -, ground⟩ := (mem_after instantiated).mp after
    obtain ⟨p, -, here⟩ := pattern.exists_of_mem_arguments ground argument
    exact ⟨p, here⟩

theorem State.hasEntity_eq_false {s : State} {e : Entity} : s.hasEntity e = false ↔ e ∉ s.entities := by
  rw [hasEntity, entities, Std.ExtTreeMap.mem_keys, ← Std.ExtTreeMap.contains_iff_mem, Bool.not_eq_true]

namespace Backward

/-- An entity that was made up to serve some subgoals. -/
structure Minted (options : ChainOptions) (start : State) (subgoals : FactSet) (e : Entity) : Prop where
  created : options.createEntities = true
  unrestricted : ∀ type ∈ options.restrictedTypes, e.type ≠ type ∧ start.kb.types.descends e.type type = false
  permitted : options.checkNew start e.type (freshMentions start subgoals e.type) = true
  invented : ∃ names : FreshNames, e = (names.mint e.type ((pool start subgoals).toList.map Entity.name)).1

variable {options : ChainOptions} {start : State} {goal : List Fact} {subgoals needed : FactSet} {rule : Rule}
  {action : Action} {actions listed : List Action} {binding : Binding} {e : Entity}

theorem mem_pool : e ∈ pool start subgoals ↔ e ∈ start.entities ∨ ∃ fact ∈ subgoals, e ∈ fact.arguments := by
  simp only [pool, SortedSet.mem_of, List.mem_append, List.mem_flatMap, Std.ExtTreeSet.mem_toList]

theorem ne_of_not_isRestricted {type : String} (free : options.isRestricted start.kb type = false) :
    ∀ restricted ∈ options.restrictedTypes,
      type ≠ restricted ∧ start.kb.types.descends type restricted = false := by
  intro restricted member
  have apart : start.kb.types.descends type restricted = false := by
    rw [← Bool.not_eq_true]
    intro descends
    rw [ChainOptions.isRestricted, ← Bool.not_eq_true, SortedSet.any_iff] at free
    exact free ⟨restricted, member, descends⟩
  refine ⟨?_, apart⟩
  rintro rfl
  simp [TypeHierarchy.descends] at apart

/-- A placeholder may stand for an entity that is known or one that is made up. -/
theorem mem_choices {names : FreshNames} {placeholders : List Placeholder} {p : Placeholder} {es : List Entity}
    (choice : (p, es) ∈ choices options start subgoals (pool start subgoals).toList names placeholders)
    (member : e ∈ es) : e ∈ pool start subgoals ∨ Minted options start subgoals e := by
  induction placeholders generalizing names with
  | nil => cases choice
  | cons first rest ih =>
    rw [choices] at choice
    dsimp only at choice
    have fits (known : e ∈ (pool start subgoals).toList.filter fun entity =>
        start.kb.types.descends entity.type first.type) : e ∈ pool start subgoals :=
      Std.ExtTreeSet.mem_toList.mp (List.mem_filter.mp known).1
    split at choice
    next may =>
      rw [Bool.and_eq_true, Bool.and_eq_true, Bool.not_eq_true'] at may
      rcases List.mem_cons.mp choice with here | later
      · cases here
        rcases List.mem_append.mp member with known | new
        · exact .inl (fits known)
        · cases List.mem_singleton.mp new
          exact .inr ⟨may.1.1, ne_of_not_isRestricted may.1.2, may.2, names, rfl⟩
      · exact ih later
    next =>
      rcases List.mem_cons.mp choice with here | later
      · cases here
        exact .inl (fits member)
      · exact ih later

theorem mem_bindChoices {found : List (Placeholder × List Entity)} {final : Binding} {p : Placeholder}
    (bound : final ∈ bindChoices found binding) (here : final[p]? = some e) :
    binding[p]? = some e ∨ ∃ es, (p, es) ∈ found ∧ e ∈ es := by
  induction found generalizing binding with
  | nil =>
    cases List.mem_singleton.mp bound
    exact .inl here
  | cons choice rest ih =>
    obtain ⟨first, entities⟩ := choice
    obtain ⟨entity, chosen, bound⟩ := List.mem_flatMap.mp bound
    rcases ih bound with before | ⟨es, later, member⟩
    · rw [Std.ExtTreeMap.getElem?_insert] at before
      split at before
      next same =>
        cases before
        cases Std.LawfulEqOrd.eq_of_compare same
        exact .inr ⟨entities, List.mem_cons_self, (List.mem_filter.mp chosen).1⟩
      next => exact .inl before
    · exact .inr ⟨es, List.mem_cons_of_mem _ later, member⟩

theorem mem_completions {final : Binding} {p : Placeholder}
    (bound : final ∈ completions options start subgoals rule binding) (here : final[p]? = some e) :
    binding[p]? = some e ∨ e ∈ pool start subgoals ∨ Minted options start subgoals e := by
  rw [completions] at bound
  split at bound
  next =>
    cases List.mem_singleton.mp bound
    exact .inl here
  next =>
    refine (mem_bindChoices bound here).imp_right ?_
    rintro ⟨es, choice, member⟩
    exact mem_choices choice member

/-- The entities of an action that was chosen to add a subgoal are fixed, at the start, in the subgoals, or made
up. -/
theorem mem_entities_of_achievers (achieved : achievers options start subgoals rule = .ok listed)
    (member : action ∈ listed) (mentioned : e ∈ action.entities) :
    (∃ p : Placeholder, options.fixed[p]? = some e) ∨ e ∈ pool start subgoals ∨ Minted options start subgoals e := by
  obtain ⟨final, bound, instantiated⟩ := exists_of_mem_mapM achieved member
  obtain ⟨p, here⟩ := Rule.exists_of_mem_entities instantiated mentioned
  obtain ⟨pattern, -, bound⟩ := List.mem_flatMap.mp bound
  obtain ⟨fact, subgoal, bound⟩ := List.mem_flatMap.mp bound
  split at bound
  next => cases bound
  next partly unified =>
    rcases mem_completions bound here with before | new
    · obtain ⟨extension, ground⟩ := Pattern.unify_eq_some_iff.mp unified
      rcases (extension.bound p).mp (SortedMap.mem_iff.mpr ⟨e, before⟩) with fixed | parameter
      · exact .inl ⟨p, extension.back fixed before⟩
      · have argument := Pattern.mem_arguments ground parameter before
        exact .inr (.inl (mem_pool.mpr (.inr ⟨fact, Std.ExtTreeSet.mem_toList.mp subgoal, argument⟩)))
    · exact .inr new

/-- Actions that a backward search puts before one another until they come to a goal, with the subgoals that have to
hold before them. -/
inductive Regresses (options : ChainOptions) (start : State) (goal : List Fact) : List Action → FactSet → Prop
  | goal : Regresses options start goal [] (SortedSet.of goal)
  | next {actions listed : List Action} {action : Action} {rule : Rule} {subgoals needed : FactSet} :
      Regresses options start goal actions subgoals → actions.length < options.maxDepth →
      rule ∈ options.rulesAt start.kb actions.length → achievers options start subgoals rule = .ok listed →
      action ∈ listed → regress start.kb subgoals action = some needed →
      options.allows start start none action = true → Regresses options start goal (action :: actions) needed

theorem Regresses.length_le (regresses : Regresses options start goal actions subgoals) :
    actions.length ≤ options.maxDepth := by
  cases regresses with
  | goal => exact Nat.zero_le _
  | next _ short => exact short

/-- The entity is at the start, in the goal or fixed. -/
def Given (options : ChainOptions) (start : State) (goal : List Fact) (e : Entity) : Prop :=
  e ∈ start.entities ∨ (∃ fact ∈ goal, e ∈ fact.arguments) ∨ ∃ p : Placeholder, options.fixed[p]? = some e

/-- The entity was made up for one of the actions, to serve the subgoals of those after it. -/
def Invented (options : ChainOptions) (start : State) (goal : List Fact) (actions : List Action) (e : Entity) : Prop :=
  ∃ earlier action later subgoals, actions = earlier ++ action :: later ∧
    Regresses options start goal later subgoals ∧ e ∈ action.entities ∧ Minted options start subgoals e

theorem Invented.cons (invented : Invented options start goal actions e) (action : Action) :
    Invented options start goal (action :: actions) e := by
  obtain ⟨earlier, step, later, subgoals, rfl, minted⟩ := invented
  exact ⟨action :: earlier, step, later, subgoals, rfl, minted⟩

/-- The entities of the actions and of their subgoals are given or made up. -/
theorem Regresses.given_or_invented (regresses : Regresses options start goal actions subgoals) :
    (∀ fact ∈ subgoals, ∀ e ∈ fact.arguments, Given options start goal e ∨ Invented options start goal actions e) ∧
    ∀ action ∈ actions, ∀ e ∈ action.entities, Given options start goal e ∨ Invented options start goal actions e := by
  induction regresses with
  | goal =>
    refine ⟨fun fact member e argument => ?_, fun action member => by cases member⟩
    exact .inl (.inr (.inl ⟨fact, (SortedSet.mem_of ..).mp member, argument⟩))
  | @next actions listed action rule subgoals needed regresses _ _ achieved member regressed _ ih =>
    obtain ⟨subgoalTraced, actionTraced⟩ := ih
    have later {e : Entity} (old : Given options start goal e ∨ Invented options start goal actions e) :
        Given options start goal e ∨ Invented options start goal (action :: actions) e :=
      old.imp_right (·.cons action)
    have here (e : Entity) (mentioned : e ∈ action.entities) :
        Given options start goal e ∨ Invented options start goal (action :: actions) e := by
      rcases mem_entities_of_achievers achieved member mentioned with fixed | known | minted
      · exact .inl (.inr (.inr fixed))
      · rcases mem_pool.mp known with present | ⟨fact, subgoal, argument⟩
        · exact .inl (.inl present)
        · exact later (subgoalTraced fact subgoal e argument)
      · exact .inr ⟨[], action, actions, subgoals, rfl, regresses, mentioned, minted⟩
    constructor
    · intro fact member e argument
      rcases (mem_regress regressed).mp member with ⟨old, -⟩ | before
      · exact later (subgoalTraced fact old e argument)
      · exact here e (Action.mem_entities.mpr ⟨fact, .inl before, argument⟩)
    · intro other member e mentioned
      rcases List.mem_cons.mp member with rfl | old
      · exact here e mentioned
      · exact later (actionTraced other old e mentioned)

/-- A child of a node is made by a step with an action that adds one of its subgoals. -/
def Child (options : ChainOptions) (start : State) (node child : Node FactSet) : Prop :=
  ∃ found, (options.rulesAt start.kb node.depth).mapM (achievers options start node.value) = .ok found ∧
    ∃ action ∈ found.flatten, step options start node action = some child

theorem step_eq_some_iff {node child : Node FactSet} : step options start node action = some child ↔
    ∃ needed, regress start.kb node.value action = some needed ∧ needed ∉ node.lineage ∧
      options.allows start start none action = true ∧
      child = node.child action needed (.ofActions (action :: node.steps.map Step.action)) := by
  rw [step]
  cases regress start.kb node.value action with
  | none => simp
  | some needed =>
    simp only [Option.ite_none_left_eq_some, Bool.or_eq_true, List.contains_iff_mem, not_or, Bool.not_eq_true',
      Bool.not_eq_false, Option.some.injEq, exists_eq_left', and_assoc, eq_comm (a := child)]

theorem expands : Search.Expands (strategy options start goal) (Child options start) where
  children {node rng children rest} expanded child := by
    obtain ⟨found, achieved, drawn⟩ := bind_eq_ok_iff.mp expanded
    have same : children = (reorder rng _).1 := congrArg Prod.fst (Except.ok.inj drawn).symm
    rw [same, (reorder_perm _ _).mem_iff, List.mem_filterMap]
    simp only [mem_distinct]
    constructor
    · intro made
      exact ⟨found, achieved, made⟩
    · rintro ⟨others, again, made⟩
      rw [achieved] at again
      cases again
      exact made
  deeper {node child} := by
    rintro ⟨found, -, action, -, made⟩
    obtain ⟨needed, -, -, -, rfl⟩ := step_eq_some_iff.mp made
    rfl

/-- The steps to a node that a search meets are regressed from the goal. -/
theorem regresses_of_leads {node : Node FactSet}
    (leads : Search.Leads (strategy options start goal) (Child options start) ⟨SortedSet.of goal, [], .empty⟩ node) :
    Regresses options start goal (node.steps.map Step.action) node.value ∧
      node.links = .ofActions (node.steps.map Step.action) := by
  induction leads with
  | refl => exact ⟨.goal, rfl⟩
  | @tail node child _ grows ih =>
    obtain ⟨shallow, found, achieved, action, listed, made⟩ := grows
    obtain ⟨needed, regressed, -, allowed, rfl⟩ := step_eq_some_iff.mp made
    obtain ⟨achievable, among, listed⟩ := List.mem_flatten.mp listed
    obtain ⟨rule, serves, achieved⟩ := exists_of_mem_mapM achieved among
    have depth : (node.steps.map Step.action).length = node.depth := List.length_map _
    refine ⟨.next ih.1 ?_ ?_ achieved listed regressed allowed, rfl⟩
    · rw [depth]
      exact shallow
    · rw [depth]
      exact serves

theorem chainFrom_eq_some {node : Node FactSet} {chain : Chain}
    (made : chainFrom options start goal node = some chain) : settled start node.value = true ∧
    ∃ initial states, start.addFacts node.value.toList = .ok initial ∧ initial.violated = none ∧
      (options.minBreadth ≤ node.breadth ∧ node.breadth ≤ options.maxBreadth) ∧
      replay initial (node.steps.map Step.action) = some states ∧
      (∀ fact ∈ goal, fact ∈ (states.getLast?.getD initial).facts) ∧
      chain =
        ⟨initial, node.steps.map Step.action, states, Dependencies.empty.breadths (node.steps.map Step.action)⟩ := by
  simp only [chainFrom, Option.bind_eq_bind, Option.bind_eq_some_iff, Option.guard_eq_some', exists_const] at made
  obtain ⟨settles, initial, added, lawful, breadth, states, replayed, reaches, same⟩ := made
  refine ⟨settles, initial, states, ?_, Option.isNone_iff_eq_none.mp lawful, breadth, replayed, ?_, ?_⟩
  · cases outcome : start.addFacts node.value.toList with
    | error => simp [outcome, Except.toOption] at added
    | ok => simpa [outcome, Except.toOption] using added
  · simpa [State.contains] using reaches
  · exact (Option.some.inj same).symm

/-- Replaying actions from where moves led makes further moves. -/
theorem exists_taken {s : State} {moves : Moves} {states : List State} (taken : moves.Taken s)
    (replayed : replay (moves.state s) actions = some states) : ∃ more : Moves, more.Taken s ∧
      more.actions = moves.actions ++ actions ∧ more.states = moves.states ++ states := by
  induction actions generalizing moves states with
  | nil =>
    cases replayed
    exact ⟨moves, taken, (List.append_nil _).symm, (List.append_nil _).symm⟩
  | cons action actions ih =>
    rw [replay] at replayed
    split at replayed
    next t applied =>
      obtain ⟨rest, replayedRest, rfl⟩ := Option.map_eq_some_iff.mp replayed
      obtain ⟨more, further, allActions, allStates⟩ := ih (.next taken applied) replayedRest
      rw [Moves.actions_cons, List.append_assoc] at allActions
      rw [Moves.states_cons, List.append_assoc] at allStates
      exact ⟨more, further, allActions, allStates⟩
    next => cases replayed

end Backward

/-- The entities of the start, the actions and the states of a chain. -/
def Chain.Mentions (chain : Chain) (e : Entity) : Prop :=
  (∃ s ∈ chain.start :: chain.states, ∃ fact ∈ s.facts, e ∈ fact.arguments) ∨
    ∃ action ∈ chain.actions, e ∈ action.entities

namespace Backward

variable {options : ChainOptions} {start : State} {goal : List Fact} {subgoals : FactSet} {chain : Chain}

/-- A chain to a goal from a state with facts added. It starts with all facts of the state and with further ones only
about entities that the state does not have. Its actions can be taken in turn and lead to the goal. An entity that is
not given is one made up for an action. -/
structure Sound (options : ChainOptions) (start : State) (goal : List Fact) (chain : Chain) : Prop where
  keeps : ∀ fact ∈ start.facts, fact ∈ chain.start.facts
  new : ∀ fact ∈ chain.start.facts, fact ∉ start.facts → ∃ e ∈ fact.arguments, e ∉ start.entities
  lawful : chain.start.violated = none
  taken : ∃ moves : Moves, moves.Taken chain.start ∧ chain.actions = moves.actions ∧ chain.states = moves.states
  reaches : ∀ fact ∈ goal, fact ∈ chain.final.facts
  depth : options.minDepth ≤ chain.actions.length ∧ chain.actions.length ≤ options.maxDepth
  breadths : chain.breadths = Dependencies.runningBreadths chain.actions
  breadth : options.minBreadth ≤ (Dependencies.ofActions chain.actions).subgoals ∧
    (Dependencies.ofActions chain.actions).subgoals ≤ options.maxBreadth
  invented : ∀ e, chain.Mentions e → ¬ Given options start goal e → Invented options start goal chain.actions e

/-- A chain made from a node for actions that regress the goal to its subgoals is sound. -/
theorem sound_of_chainFrom (built : start.Built) {node : Node FactSet}
    (regresses : Regresses options start goal (node.steps.map Step.action) node.value)
    (links : node.links = .ofActions (node.steps.map Step.action)) (long : options.minDepth ≤ node.depth)
    (made : chainFrom options start goal node = some chain) : Sound options start goal chain := by
  obtain ⟨settles, initial, states, added, lawful, breadth, replayed, reaches, rfl⟩ := chainFrom_eq_some made
  obtain ⟨-, rfl⟩ := State.addFacts_eq_ok_iff.mp added
  obtain ⟨moves, taken, sameActions, sameStates⟩ := exists_taken .start replayed
  rw [show Moves.actions [] = [] from rfl, List.nil_append] at sameActions
  rw [show Moves.states [] = [] from rfl, List.nil_append] at sameStates
  obtain ⟨subgoalTraced, actionTraced⟩ := regresses.given_or_invented
  have atStart {fact : Fact} : fact ∈ (start.insertAll node.value.toList).facts ↔
      fact ∈ node.value ∨ fact ∈ start.facts := by
    rw [State.mem_insertAll, Std.ExtTreeSet.mem_toList]
  have startTraced (e : Entity) (fact : Fact) (holds : fact ∈ (start.insertAll node.value.toList).facts)
      (argument : e ∈ fact.arguments) : Given options start goal e ∨
        Invented options start goal (node.steps.map Step.action) e := by
    rcases atStart.mp holds with subgoal | old
    · exact subgoalTraced fact subgoal e argument
    · exact .inl (.inl (built.indexed.mem_entities.mpr ⟨fact, old, argument⟩))
  refine ⟨fun fact old => atStart.mpr (.inr old), ?_, lawful, ⟨moves, taken, sameActions.symm, sameStates.symm⟩,
    reaches, ⟨?_, regresses.length_le⟩, Dependencies.breadths_empty _, ?_, ?_⟩
  · intro fact holds absent
    have subgoal := (atStart.mp holds).resolve_right absent
    rw [settled, SortedSet.all_eq, List.all_eq_true] at settles
    have either := settles fact (Std.ExtTreeSet.mem_toList.mpr subgoal)
    rw [Bool.or_eq_true, List.any_eq_true, State.contains, Std.ExtTreeSet.contains_iff_mem] at either
    obtain ⟨e, argument, absent⟩ := either.resolve_left absent
    exact ⟨e, argument, State.hasEntity_eq_false.mp ((Bool.not_eq_true' _).mp absent)⟩
  · rw [List.length_map]
    exact long
  · rwa [Node.breadth, links] at breadth
  · intro e mentioned unknown
    refine Or.resolve_left ?_ unknown
    rcases mentioned with ⟨s, passed, fact, holds, argument⟩ | ⟨action, member, mentioned⟩
    · rcases taken.mem_facts (sameStates ▸ passed) holds with early | ⟨action, member, left⟩
      · exact startTraced e fact early argument
      · exact actionTraced action (sameActions ▸ member) e (Action.mem_entities.mpr ⟨fact, .inr left, argument⟩)
    · exact actionTraced action member e mentioned

/-- A chain that a backward search finds leads to the goal and is sound. -/
theorem find_sound (built : start.Built) (backward : options.backward = true)
    (found : Chain.find start options = .ok chain) :
    ∃ goal, options.goal = some goal ∧ Sound options start goal chain := by
  rw [Chain.find, if_pos backward, search] at found
  cases aim : options.goal with
  | none =>
    rw [aim] at found
    cases found
  | some goal =>
    rw [aim] at found
    obtain ⟨-, -, found⟩ := bind_eq_ok_iff.mp found
    have correct := Search.fromRoot_correct (expands : Search.Expands (strategy options start goal) _)
      (SortedSet.of goal) options.rng
    rw [found] at correct
    obtain ⟨node, leads, made⟩ := correct
    obtain ⟨regresses, links⟩ := regresses_of_leads leads
    rcases made with ⟨finished, -⟩ | ⟨-, -, stuck⟩
    · obtain ⟨long, made⟩ := Option.ite_none_right_eq_some.mp finished
      exact ⟨goal, rfl, sound_of_chainFrom built regresses links long made⟩
    · cases stuck

/-- A kitchen with a closed chest. -/
def closedChestFacts : List Fact :=
  [⟨"at", [⟨"P", "P"⟩, ⟨"kitchen", "r"⟩]⟩, ⟨"at", [⟨"chest", "c"⟩, ⟨"kitchen", "r"⟩]⟩, ⟨"closed", [⟨"chest", "c"⟩]⟩]

def closedChestState : State := (State.empty Core.knowledge).insertAll closedChestFacts

/-- The chest is to be locked, with a key that may be made up. -/
def lockChest : ChainOptions :=
  { ChainOptions.usual with
    backward := true
    createEntities := true
    restrictedTypes := SortedSet.of ["r"]
    rulesPerDepth := [["lock/c"]]
    goal := some [⟨"locked", [⟨"chest", "c"⟩]⟩] }

theorem find_sound_lockChest : ∃ chain, Chain.find closedChestState lockChest = .ok chain ∧
    chain.actions.map Action.command = ["lock chest with k_0"] ∧
    ∃ goal, lockChest.goal = some goal ∧ Sound lockChest closedChestState goal chain := by
  have way : (Search.descend (strategy lockChest closedChestState [⟨"locked", [⟨"chest", "c"⟩]⟩]) 1
      ⟨SortedSet.of [⟨"locked", [⟨"chest", "c"⟩]⟩], [], .empty⟩ none).map (·.actions.map Action.command) =
      some ["lock chest with k_0"] := by decide +kernel
  obtain ⟨chain, way, commands⟩ := Option.map_eq_some_iff.mp way
  have built : closedChestState.Built := .addFacts (.empty Core.knowledge)
    (rfl : (State.empty Core.knowledge).addFacts closedChestFacts = .ok closedChestState)
  have found : Chain.find closedChestState lockChest = .ok chain :=
    bind_eq_ok_iff.mpr ⟨(), rfl, Search.fromRoot_of_descend way (by decide)⟩
  exact ⟨chain, found, commands, find_sound built rfl found⟩

end Backward

end Adventure
