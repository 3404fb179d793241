import Adventure.Proofs.Chain.Regression
import Adventure.Proofs.Core.Tidy

namespace Adventure

namespace Template

/-- The names in the slots that are filled when a template is rendered. -/
def filledSlots (template : String) : List String :=
  (pieces template).filterMap fun
    | .text _ => none
    | .slot name => some (String.ofList name)

/-- The rendered text tells only what the slots are filled with. -/
theorem render_congr {fill other : String → String} {template : String}
    (same : ∀ name ∈ filledSlots template, fill name = other name) : render fill template = render other template := by
  rw [render, render]
  congr 1
  apply List.map_congr_left
  intro piece member
  cases piece with
  | text chars => rfl
  | slot name => exact same _ (List.mem_filterMap.mpr ⟨.slot name, member, rfl⟩)

end Template

namespace Rule

variable {rule : Rule} {binding : Binding} {action : Action}

/-- Entries of other names make no difference to what a name stands for. -/
theorem named_filter {kept : Placeholder → Bool} {name : String}
    (keeps : ∀ p ∈ binding, p.name = name → kept p = true) :
    named (binding.filter fun p _ => kept p) name = named binding name := by
  rw [named, named, Std.ExtTreeMap.foldl_eq_foldl_toList, Std.ExtTreeMap.foldl_eq_foldl_toList,
    Std.ExtTreeMap.toList_filter, List.foldl_filter]
  apply List.foldl_ext
  intro found entry member
  have value : binding[entry.1]? = some entry.2 := Std.ExtTreeMap.mem_toList_iff_getElem?_eq_some.mp member
  by_cases same : entry.1.name = name
  · rw [if_pos (keeps entry.1 (SortedMap.mem_iff.mpr ⟨entry.2, value⟩) same)]
  · simp [same]

/-- The command of a rule speaks only of placeholders of the rule. -/
def Speaks (rule : Rule) (binding : Binding) : Prop :=
  ∀ template ∈ rule.template, ∀ name ∈ Template.filledSlots template, ∀ p ∈ binding, p.name = name →
    p ∈ rule.placeholders

/-- What other placeholders stand for makes no difference to the action of a rule. -/
theorem instantiate_given (speaks : rule.Speaks binding) (instantiated : rule.instantiate binding = .ok action) :
    rule.instantiate (rule.given binding) = .ok action := by
  have grounds {patterns : List Pattern} (among : ∀ pattern ∈ patterns, pattern ∈ rule.before ++ rule.after) :
      patterns.map (·.ground (rule.given binding)) = patterns.map (·.ground binding) := by
    apply List.map_congr_left
    intro pattern member
    apply Pattern.ground_congr
    intro p listed
    apply Option.ext
    intro e
    rw [given_eq_some_iff]
    exact and_iff_left (mem_placeholders.mpr ⟨pattern, among pattern member, listed⟩)
  have template : rule.template.map (fillTemplate (rule.given binding)) = rule.template.map (fillTemplate binding) := by
    apply Option.map_congr
    intro template given
    apply Template.render_congr
    intro name filled
    rw [Rule.given, named_filter fun p bound same =>
      List.contains_iff_mem.mpr (speaks template given name filled p bound same)]
  obtain ⟨before, after, needs, results, rfl⟩ := instantiate_eq_ok_iff.mp instantiated
  refine instantiate_eq_ok_iff.mpr ⟨before, after, ?_, ?_, by rw [template]⟩
  · rw [groundAll_eq_ok_iff] at needs ⊢
    rw [grounds fun pattern => List.mem_append_left _, needs]
  · rw [groundAll_eq_ok_iff] at results ⊢
    rw [grounds fun pattern => List.mem_append_right _, results]

end Rule

namespace State

/-- A state admits every choice for the placeholders of a rule under which the conditions of the rule are facts, if
the choice goes with what is fixed and all that only the result speaks of is fixed. -/
theorem Admits.of_fixed_extends {s : State} {rule : Rule} {binding : Binding} {action : Action}
    (extension : Binding.fixed.Extends s.kb.types binding rule.placeholders)
    (instantiated : rule.instantiate binding = .ok action) (applicable : s.applicable action = true)
    (only : ∀ p ∈ rule.resultOnly, p ∈ Binding.fixed) : s.Admits Binding.fixed rule (rule.given binding) := by
  have bound {p : Placeholder} (listed : p ∈ rule.placeholders) : p ∈ binding :=
    (extension.bound p).mpr (.inr listed)
  refine ⟨?_, ?_, ?_, ?_, ?_, ?_⟩
  · intro p
    rw [Rule.mem_given]
    exact ⟨And.right, fun listed => ⟨bound listed, listed⟩⟩
  · intro p listed e fixed
    exact Rule.given_eq_some_iff.mpr ⟨extension.keeps p e fixed, listed⟩
  · intro pattern among
    have listed (p : Placeholder) (parameter : p ∈ pattern.parameters) : p ∈ rule.placeholders :=
      Rule.mem_placeholders.mpr ⟨pattern, List.mem_append_left _ among, parameter⟩
    obtain ⟨fact, ground⟩ := Pattern.exists_ground fun p parameter => bound (listed p parameter)
    have needed : fact ∈ action.before := (Rule.mem_before instantiated).mpr ⟨pattern, among, ground⟩
    refine ⟨fact, applicable_iff.mp applicable fact needed, ?_⟩
    rw [← ground]
    apply Pattern.ground_congr
    intro p parameter
    obtain ⟨e, here⟩ := SortedMap.mem_iff.mp (bound (listed p parameter))
    rw [here]
    exact Rule.given_eq_some_iff.mpr ⟨here, listed p parameter⟩
  · intro pattern _ p _ e here
    obtain ⟨value, listed⟩ := Rule.given_eq_some_iff.mp here
    exact extension.typed p listed e value
  · intro p result free
    exact absurd (only p result) free
  · intro p _ free q e atP atQ
    exact extension.apart p free q e (Rule.given_eq_some_iff.mp atP).1 (Rule.given_eq_some_iff.mp atQ).1

end State

namespace Backward

variable {options : ChainOptions} {start : State} {goal : List Fact} {subgoals : FactSet} {rule : Rule}
  {action : Action} {actions listed : List Action} {binding final : Binding}

theorem choices_placeholders (known : List Entity) (names : FreshNames) (ps : List Placeholder) :
    (choices options start subgoals known names ps).map Prod.fst = ps := by
  induction ps generalizing names with
  | nil => rfl
  | cons p ps ih =>
    rw [choices]
    dsimp only
    split <;> rw [List.map_cons, ih]

/-- What a placeholder may stand for has a fitting type. -/
theorem descends_of_choices {known : List Entity} {names : FreshNames} {ps : List Placeholder} {p : Placeholder}
    {es : List Entity} {e : Entity} (choice : (p, es) ∈ choices options start subgoals known names ps)
    (member : e ∈ es) : start.kb.types.descends e.type p.type = true := by
  induction ps generalizing names with
  | nil => cases choice
  | cons first rest ih =>
    rw [choices] at choice
    dsimp only at choice
    split at choice
    next =>
      rcases List.mem_cons.mp choice with here | later
      · cases here
        rcases List.mem_append.mp member with fitting | new
        · exact (List.mem_filter.mp fitting).2
        · cases List.mem_singleton.mp new
          exact TypeHierarchy.descends_refl _ _
      · exact ih later
    next =>
      rcases List.mem_cons.mp choice with here | later
      · cases here
        exact (List.mem_filter.mp member).2
      · exact ih later

theorem extends_of_bindChoices {types : TypeHierarchy} {found : List (Placeholder × List Entity)}
    (typed : ∀ choice ∈ found, ∀ e ∈ choice.2, types.descends e.type choice.1.type = true)
    (different : (found.map Prod.fst).Nodup) (unbound : ∀ p ∈ found.map Prod.fst, p ∉ binding)
    (bound : final ∈ bindChoices found binding) : binding.Extends types final (found.map Prod.fst) := by
  induction found generalizing binding with
  | nil =>
    rw [List.mem_singleton.mp bound]
    exact .refl types binding
  | cons choice rest ih =>
    obtain ⟨p, es⟩ := choice
    obtain ⟨e, chosen, bound⟩ := List.mem_flatMap.mp bound
    obtain ⟨member, unused⟩ := List.mem_filter.mp chosen
    obtain ⟨absent, apart⟩ := List.nodup_cons.mp different
    have first : binding.Extends types (binding.insert p e) [p] :=
      .insert (typed _ List.mem_cons_self e member) (unbound p List.mem_cons_self) (by simpa using unused)
    refine first.trans (ih (fun choice later => typed choice (List.mem_cons_of_mem _ later)) apart ?_ bound)
    intro q later here
    rcases (first.bound q).mp here with early | same
    · exact unbound q (List.mem_cons_of_mem _ later) early
    · exact absent (List.mem_singleton.mp same ▸ later)

/-- The completions of a binding extend it by the open placeholders of the rule. -/
theorem extends_of_completions (bound : final ∈ completions options start subgoals rule binding) :
    binding.Extends start.kb.types final (rule.placeholders.filter (!binding.contains ·)) := by
  rw [completions] at bound
  split at bound
  next none =>
    rw [List.mem_singleton.mp bound, none]
    exact .refl _ binding
  next =>
    have extension := extends_of_bindChoices (fun choice among e => descends_of_choices among)
      (by rw [choices_placeholders]; exact (nodup_distinct _).filter _)
      (by rw [choices_placeholders]; exact fun p free => (Binding.mem_filter_unbound.mp free).2) bound
    rwa [choices_placeholders] at extension

/-- A rule that is chosen to add a subgoal has all its placeholders bound, along with what is fixed. -/
theorem exists_of_achievers (usual : options.fixed = Binding.fixed)
    (achieved : achievers options start subgoals rule = .ok listed) (member : action ∈ listed) :
    ∃ final, Binding.fixed.Extends start.kb.types final rule.placeholders ∧ rule.instantiate final = .ok action := by
  obtain ⟨final, bound, instantiated⟩ := exists_of_mem_mapM achieved member
  obtain ⟨pattern, added, bound⟩ := List.mem_flatMap.mp bound
  obtain ⟨fact, -, bound⟩ := List.mem_flatMap.mp bound
  have result : pattern ∈ rule.after := (List.mem_filter.mp added).1
  split at bound
  next => cases bound
  next partly unified =>
    rw [usual] at unified
    obtain ⟨first, -⟩ := Pattern.unify_eq_some_iff.mp unified
    have second := extends_of_completions bound
    have whole := first.trans second
    have covered (p : Placeholder) : p ∈ Binding.fixed ∨
        p ∈ pattern.parameters ++ rule.placeholders.filter (!partly.contains ·) ↔
        p ∈ Binding.fixed ∨ p ∈ rule.placeholders := by
      rw [List.mem_append, Binding.mem_filter_unbound, first.bound]
      have parameter : p ∈ pattern.parameters → p ∈ rule.placeholders := fun here =>
        Rule.mem_placeholders.mpr ⟨pattern, List.mem_append_right _ result, here⟩
      grind
    refine ⟨final, ⟨whole.keeps, fun p => (whole.bound p).trans (covered p), ?_, whole.apart⟩, instantiated⟩
    intro p here e value
    by_cases fixed : p ∈ Binding.fixed
    · rw [(Binding.fixed_eq_some (whole.back fixed value)).2]
      exact TypeHierarchy.descends_refl _ _
    · exact whole.typed p (((covered p).mpr (.inr here)).resolve_left fixed) e value

/-- Every action that a search goes back by is one of a rule to plan with. -/
theorem Regresses.exists_rule (usual : options.fixed = Binding.fixed)
    (regresses : Regresses options start goal actions subgoals) (member : action ∈ actions) :
    ∃ rule ∈ start.kb.chainingRules, ∃ final,
      Binding.fixed.Extends start.kb.types final rule.placeholders ∧ rule.instantiate final = .ok action := by
  induction regresses with
  | goal => cases member
  | next _ _ serves achieved listed _ _ ih =>
    rcases List.mem_cons.mp member with rfl | later
    · refine ⟨_, ?_, exists_of_achievers usual achieved listed⟩
      rw [ChainOptions.rulesAt] at serves
      split at serves
      · exact serves
      · exact (List.mem_filter.mp serves).1
    · exact ih later

/-- A chain that is found by going back from the goal comes of a node that the search met. -/
theorem exists_of_find {chain : Chain} (backward : options.backward = true)
    (found : Chain.find start options = .ok chain) : ∃ goal node,
      Regresses options start goal (node.steps.map Step.action) node.value ∧
        chainFrom options start goal node = some chain := by
  rw [Chain.find, if_pos backward, search] at found
  cases aim : options.goal with
  | none =>
    rw [aim] at found
    cases found
  | some goal =>
    rw [aim] at found
    obtain ⟨-, -, found⟩ := bind_eq_ok_iff.mp found
    have correct := Search.fromRoot_correct (expands : Search.Expands (strategy options start goal) _)
      (SortedSet.of goal) options.rng
    rw [found] at correct
    obtain ⟨node, leads, ⟨finished, -⟩ | ⟨-, -, stuck⟩⟩ := correct
    · exact ⟨goal, node, (regresses_of_leads leads).1, (Option.ite_none_right_eq_some.mp finished).2⟩
    · cases stuck

end Backward

/-- Actions that are taken in turn from a state, with the states that they lead to. Each is one of the actions that
the rules offer in the state in which it is taken. -/
inductive State.Plays (rules : List Rule) : State → List Action → List State → Prop
  | stay (s : State) : Plays rules s [] []
  | move {s t : State} {action : Action} {actions : List Action} {states : List State} :
      action ∈ s.actions rules Binding.fixed → s.apply action = .ok (some t) → Plays rules t actions states →
      Plays rules s (action :: actions) (t :: states)

/-- Actions play if they can be replayed and the rules offer each of them wherever it can be taken. -/
theorem State.Plays.of_replay {rules : List Rule} {s : State} {actions : List Action} {states : List State}
    (built : s.Built) (offered : ∀ action ∈ actions, ∀ t : State, t.Built → t.kb = s.kb →
      t.applicable action = true → action ∈ t.actions rules Binding.fixed)
    (replayed : Backward.replay s actions = some states) : Plays rules s actions states := by
  induction actions generalizing s states with
  | nil =>
    cases replayed
    exact .stay s
  | cons action actions ih =>
    rw [Backward.replay] at replayed
    split at replayed
    next t applied =>
      obtain ⟨rest, again, rfl⟩ := Option.map_eq_some_iff.mp replayed
      have applicable := (State.apply_eq_some_iff.mp applied).1
      refine .move (offered action List.mem_cons_self s built rfl applicable) applied ?_
      refine ih (.apply built applied) (fun later member u => ?_) again
      rw [State.apply_kb applied]
      exact offered later (List.mem_cons_of_mem _ member) u
    next => cases replayed

theorem KnowledgeBase.mem_of_withRules {kb restricted : KnowledgeBase} {names : List String} {rule : Rule}
    (chosen : kb.withRules names = .ok restricted) (member : rule ∈ restricted.rules) : rule ∈ kb.rules := by
  obtain ⟨rules, named, same⟩ := bind_eq_ok_iff.mp chosen
  cases same
  obtain ⟨name, -, found⟩ := exists_of_mem_mapM named member
  rw [KnowledgeBase.rule] at found
  split at found
  next rule known =>
    cases found
    rw [KnowledgeBase.rule?, List.findRev?_eq_find?_reverse] at known
    exact List.mem_reverse.mp (List.mem_of_find?_eq_some known)
  next => cases found

namespace Core

/-- The world of rooms and things with all its rules or with some of them. -/
def Governs (kb : KnowledgeBase) : Prop := kb = knowledge ∨ ∃ names, knowledge.withRules names = .ok kb

theorem Governs.mem_rules {kb : KnowledgeBase} (governs : Governs kb) {rule : Rule} (member : rule ∈ kb.rules) :
    rule ∈ rules := by
  have all : knowledge.rules = rules := rfl
  rcases governs with rfl | ⟨names, chosen⟩
  · exact all ▸ member
  · exact all ▸ KnowledgeBase.mem_of_withRules chosen member

theorem commands_without_fixed : ∀ rule ∈ rules, ∀ template ∈ rule.template,
    ∀ name ∈ Template.filledSlots template, ∀ p ∈ Binding.fixed.keys, p.name ≠ name := by
  decide

/-- Commands name neither the player nor the inventory. -/
theorem speaks {types : TypeHierarchy} {rule : Rule} (member : rule ∈ rules) {binding : Binding}
    (extension : Binding.fixed.Extends types binding rule.placeholders) : rule.Speaks binding := by
  intro template given name filled p bound same
  refine ((extension.bound p).mp bound).resolve_left fun fixed => ?_
  exact commands_without_fixed rule member template given name filled p (Std.ExtTreeMap.mem_keys.mpr fixed) same

/-- An action of a rule whose placeholders go with what is fixed is offered wherever it can be taken. -/
theorem offered {s : State} (built : s.Built) {rules : List Rule} {rule : Rule} (among : rule ∈ rules)
    (core : rule ∈ Core.rules) {binding : Binding} {action : Action}
    (extension : Binding.fixed.Extends s.kb.types binding rule.placeholders)
    (instantiated : rule.instantiate binding = .ok action) (applicable : s.applicable action = true) :
    action ∈ s.actions rules Binding.fixed := by
  have only (p : Placeholder) (result : p ∈ rule.resultOnly) : p ∈ Binding.fixed := by
    rw [resultOnly_inventory rule core p result]
    decide
  exact (State.mem_actions_iff built.indexed).mpr ⟨rule, among, rule.given binding,
    .of_fixed_extends extension instantiated applicable only,
    Rule.instantiate_given (speaks core extension) instantiated⟩

end Core

namespace Backward

/-- In a chain that is found by going back from a goal each action is one of those that looking ahead offers in the
state it is taken in. -/
theorem find_plays {start : State} (built : start.Built) (core : Core.Governs start.kb) {options : ChainOptions}
    (backward : options.backward = true) (usual : options.fixed = Binding.fixed) {chain : Chain}
    (found : Chain.find start options = .ok chain) :
    chain.start.Plays start.kb.chainingRules chain.actions chain.states := by
  obtain ⟨goal, node, regresses, made⟩ := exists_of_find backward found
  obtain ⟨-, initial, states, added, -, -, replayed, -, rfl⟩ := chainFrom_eq_some made
  have kb : initial.kb = start.kb := by
    obtain ⟨-, rfl⟩ := State.addFacts_eq_ok_iff.mp added
    exact State.insertAll_kb _ _
  refine .of_replay (.addFacts built added) (fun action member t builtT sameKb applicable => ?_) replayed
  obtain ⟨rule, chaining, binding, extension, instantiated⟩ := regresses.exists_rule usual member
  rw [← kb, ← sameKb] at extension
  exact Core.offered builtT chaining (core.mem_rules (List.mem_filter.mp chaining).1) extension instantiated applicable

/-- Only taking and eating. -/
def mealKnowledge : KnowledgeBase :=
  { Core.knowledge with
    rules := [Core.take, Core.eat]
    inverses := Core.knowledge.inverses.filter fun rule inverse =>
      ["take", "eat"].contains rule && ["take", "eat"].contains inverse }

def gardenFacts : List Fact := [⟨"at", [⟨"P", "P"⟩, ⟨"garden", "r"⟩]⟩]

def garden : State := (State.empty mealKnowledge).insertAll gardenFacts

/-- A plum is to be eaten that is not there yet, and not just from the hand. -/
def eatPlum : ChainOptions :=
  { ChainOptions.usual with
    backward := true
    minDepth := 2
    maxDepth := 2
    createEntities := true
    restrictedTypes := SortedSet.of ["r"]
    goal := some [⟨"eaten", [⟨"plum", "f"⟩]⟩] }

theorem find_plays_plum : garden.Built ∧ Core.Governs garden.kb ∧ ∃ chain, Chain.find garden eatPlum = .ok chain ∧
    chain.actions.map Action.command = ["take plum", "eat plum"] ∧
    chain.start.Plays garden.kb.chainingRules chain.actions chain.states := by
  have way : (Search.descend (strategy eatPlum garden [⟨"eaten", [⟨"plum", "f"⟩]⟩]) 2
      ⟨SortedSet.of [⟨"eaten", [⟨"plum", "f"⟩]⟩], [], .empty⟩ none).map (·.actions.map Action.command) =
      some ["take plum", "eat plum"] := by decide +kernel
  obtain ⟨chain, way, commands⟩ := Option.map_eq_some_iff.mp way
  have built : garden.Built := .addFacts (.empty mealKnowledge)
    (rfl : (State.empty mealKnowledge).addFacts gardenFacts = .ok garden)
  have governs : Core.Governs garden.kb := .inr ⟨["take", "eat"], rfl⟩
  have found : Chain.find garden eatPlum = .ok chain :=
    bind_eq_ok_iff.mpr ⟨(), rfl, Search.fromRoot_of_descend way (by decide)⟩
  exact ⟨built, governs, chain, found, commands, find_plays built governs rfl rfl found⟩

end Backward

end Adventure
