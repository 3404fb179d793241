import Adventure.Knowledge.Core
import Adventure.Proofs.Matching.Join
import Adventure.Proofs.State.Built

namespace Adventure

namespace Rule

variable {rule : Rule} {binding : Binding} {action : Action}

theorem mem_placeholders {p : Placeholder} :
    p ∈ rule.placeholders ↔ ∃ pattern ∈ rule.before ++ rule.after, p ∈ pattern.parameters := by
  rw [placeholders, mem_distinct, List.mem_flatMap]

theorem mem_resultOnly {p : Placeholder} :
    p ∈ rule.resultOnly ↔ p ∈ rule.placeholders ∧ p ∉ rule.before.flatMap Pattern.parameters := by
  simp [resultOnly]

theorem groundAll_eq_ok_iff {patterns : List Pattern} {facts : List Fact} :
    rule.groundAll binding patterns = .ok facts ↔ patterns.map (·.ground binding) = facts.map some := by
  induction patterns generalizing facts with
  | nil => cases facts <;> simp [groundAll, pure, Except.pure]
  | cons pattern patterns ih =>
    rw [groundAll, List.mapM_cons, ← groundAll]
    cases here : pattern.ground binding with
    | none => cases facts <;> simp [bind, Except.bind, here]
    | some fact =>
      cases rest : rule.groundAll binding patterns with
      | error =>
        have stuck (others : List Fact) : patterns.map (·.ground binding) ≠ others.map some := by
          intro same
          simp [ih.mpr same] at rest
        cases facts <;> simp [bind, Except.bind, here, stuck]
      | ok others =>
        rw [ih] at rest
        cases facts <;> simp [bind, Except.bind, pure, Except.pure, here, rest, List.map_inj_right]

theorem instantiate_eq_ok_iff : rule.instantiate binding = .ok action ↔
    ∃ before after, rule.groundAll binding rule.before = .ok before ∧
      rule.groundAll binding rule.after = .ok after ∧
      action = .of rule.name before after (rule.template.map (fillTemplate binding)) := by
  rw [instantiate]
  cases rule.groundAll binding rule.before with
  | error => simp [bind, Except.bind]
  | ok before =>
    cases rule.groundAll binding rule.after with
    | error => simp [bind, Except.bind]
    | ok after => simp [bind, Except.bind, pure, Except.pure, eq_comm]

theorem mem_before (instantiated : rule.instantiate binding = .ok action) {fact : Fact} :
    fact ∈ action.before ↔ ∃ pattern ∈ rule.before, pattern.ground binding = some fact := by
  obtain ⟨before, after, needs, _, rfl⟩ := instantiate_eq_ok_iff.mp instantiated
  rw [Action.of, SortedSet.mem_of, ← List.mem_map, groundAll_eq_ok_iff.mp needs]
  simp

theorem mem_after (instantiated : rule.instantiate binding = .ok action) {fact : Fact} :
    fact ∈ action.after ↔ ∃ pattern ∈ rule.after, pattern.ground binding = some fact := by
  obtain ⟨before, after, _, results, rfl⟩ := instantiate_eq_ok_iff.mp instantiated
  rw [Action.of, SortedSet.mem_of, ← List.mem_map, groundAll_eq_ok_iff.mp results]
  simp

theorem name_of_instantiate (instantiated : rule.instantiate binding = .ok action) : action.name = rule.name := by
  obtain ⟨before, after, -, -, rfl⟩ := instantiate_eq_ok_iff.mp instantiated
  rfl

theorem exists_instantiate (bound : ∀ p ∈ rule.placeholders, p ∈ binding) :
    ∃ action, rule.instantiate binding = .ok action := by
  have grounds (patterns : List Pattern) (among : ∀ pattern ∈ patterns, pattern ∈ rule.before ++ rule.after) :
      ∃ facts, rule.groundAll binding patterns = .ok facts := by
    simp only [groundAll_eq_ok_iff]
    refine exists_map_some fun pattern member => Pattern.exists_ground fun p listed => ?_
    exact bound p (mem_placeholders.mpr ⟨pattern, among pattern member, listed⟩)
  obtain ⟨before, needs⟩ := grounds rule.before fun pattern => List.mem_append_left _
  obtain ⟨after, results⟩ := grounds rule.after fun pattern => List.mem_append_right _
  exact ⟨_, instantiate_eq_ok_iff.mpr ⟨before, after, needs, results, rfl⟩⟩

/-- What is fixed beforehand of the placeholders of a rule. -/
def given (rule : Rule) (fixed : Binding) : Binding := fixed.filter fun p _ => rule.placeholders.contains p

theorem given_eq_some_iff {fixed : Binding} {p : Placeholder} {e : Entity} :
    (rule.given fixed)[p]? = some e ↔ fixed[p]? = some e ∧ p ∈ rule.placeholders := by
  rw [given, Std.ExtTreeMap.getElem?_filter', Option.filter_eq_some_iff, List.contains_iff_mem]

theorem mem_given {fixed : Binding} {p : Placeholder} :
    p ∈ rule.given fixed ↔ p ∈ fixed ∧ p ∈ rule.placeholders := by
  rw [SortedMap.mem_iff, SortedMap.mem_iff, ← exists_and_right]
  exact exists_congr fun e => given_eq_some_iff

theorem mem_placeholders_of_before {p : Placeholder} (needed : p ∈ rule.before.flatMap Pattern.parameters) :
    p ∈ rule.placeholders := by
  obtain ⟨pattern, here, listed⟩ := List.mem_flatMap.mp needed
  exact mem_placeholders.mpr ⟨pattern, List.mem_append_left _ here, listed⟩

end Rule

namespace State

variable {s : State} {fixed start final : Binding} {rule : Rule}

/-- A choice of entities for the placeholders of a rule, and of them alone, under which the rule can be taken:
its conditions are facts about entities of fitting types, what is fixed beforehand stays so, a placeholder of
which only the result speaks stands for a known entity of a fitting type, and no placeholder that is not fixed
shares its entity. -/
structure Admits (s : State) (fixed : Binding) (rule : Rule) (binding : Binding) : Prop where
  domain : ∀ p, p ∈ binding ↔ p ∈ rule.placeholders
  agrees : ∀ p ∈ rule.placeholders, ∀ e, fixed[p]? = some e → binding[p]? = some e
  holds : ∀ pattern ∈ rule.before, ∃ fact ∈ s.facts, pattern.ground binding = some fact
  typed : ∀ pattern ∈ rule.before, ∀ p ∈ pattern.parameters, ∀ e, binding[p]? = some e →
    s.kb.types.descends e.type p.type = true
  known : ∀ p ∈ rule.resultOnly, p ∉ fixed → ∀ e, binding[p]? = some e →
    (∃ fact ∈ s.facts, e ∈ fact.arguments) ∧ s.kb.types.descends e.type p.type = true
  apart : ∀ p ∈ rule.placeholders, p ∉ fixed → ∀ (q : Placeholder) e, binding[p]? = some e →
    binding[q]? = some e → q = p

theorem mem_entitiesOf (indexed : s.Indexed) {type : String} {e : Entity} :
    e ∈ s.entitiesOf type ↔ (∃ fact ∈ s.facts, e ∈ fact.arguments) ∧ s.kb.types.descends e.type type = true := by
  rw [entitiesOf, List.mem_filter, indexed.mem_entities]

/-- Placeholders that are bound freely stand for known entities. -/
theorem mem_bindFree_iff (indexed : s.Indexed) {ps : List Placeholder} (different : ps.Nodup)
    (unbound : ∀ p ∈ ps, p ∉ start) : final ∈ s.bindFree ps start ↔
      start.Extends s.kb.types final ps ∧
        ∀ p ∈ ps, ∀ e, final[p]? = some e → ∃ fact ∈ s.facts, e ∈ fact.arguments := by
  induction ps generalizing start with
  | nil =>
    rw [bindFree, List.mem_singleton]
    refine ⟨fun same => ?_, fun extension => ?_⟩
    · rw [same]
      exact ⟨.refl _ start, by simp⟩
    · exact extension.1.unique (.refl _ start) (by simp)
  | cons p ps ih =>
    have new := unbound p (List.mem_cons_self ..)
    obtain ⟨absent, apart⟩ := List.nodup_cons.mp different
    have later (e : Entity) : ∀ q ∈ ps, q ∉ start.insert p e := by
      intro q listed bound
      rw [Std.ExtTreeMap.mem_insert, Std.LawfulEqOrd.compare_eq_iff_eq] at bound
      rcases bound with rfl | early
      · exact absent listed
      · exact unbound q (List.mem_cons_of_mem p listed) early
    simp only [bindFree, List.mem_flatMap, List.mem_filter, mem_entitiesOf indexed, ih apart (later _)]
    constructor
    · rintro ⟨e, ⟨⟨known, descends⟩, unused⟩, extension, others⟩
      have first := Binding.Extends.insert descends new (by simpa using unused)
      refine ⟨first.trans extension, ?_⟩
      intro q listed f atQ
      rcases List.mem_cons.mp listed with rfl | rest
      · rw [extension.keeps q e (by simp)] at atQ
        cases atQ
        exact known
      · exact others q rest f atQ
    · rintro ⟨extension, known⟩
      obtain ⟨middle, first, second⟩ := Binding.Extends.split (show start.Extends _ final ([p] ++ ps) from extension)
      have bound : p ∈ middle := (first.bound p).mpr (.inr (List.mem_singleton_self p))
      obtain ⟨e, atP⟩ := SortedMap.mem_iff.mp bound
      cases first.eq_insert new atP
      have here := second.keeps p e atP
      refine ⟨e, ⟨⟨known p (List.mem_cons_self ..) e here, ?_⟩, ?_⟩, second, ?_⟩
      · exact first.typed p (List.mem_singleton_self p) e atP
      · simpa using first.unused new atP
      · intro q listed
        exact known q (List.mem_cons_of_mem p listed)

theorem Admits.of_extends {middle : Binding} (solves : s.Solves rule.before (rule.given fixed) middle)
    (extension : middle.Extends s.kb.types final (rule.placeholders.filter (!middle.contains ·)))
    (known : ∀ p ∈ rule.placeholders.filter (!middle.contains ·), ∀ e, final[p]? = some e →
      ∃ fact ∈ s.facts, e ∈ fact.arguments) : s.Admits fixed rule final := by
  have whole := solves.extension.trans extension
  have bound (p : Placeholder) : p ∈ middle ↔ p ∈ rule.given fixed ∨ p ∈ rule.before.flatMap Pattern.parameters :=
    solves.extension.bound p
  refine ⟨?_, ?_, ?_, ?_, ?_, ?_⟩
  · intro p
    rw [extension.bound, Binding.mem_filter_unbound]
    constructor
    · rintro (early | late)
      · rcases (bound p).mp early with fixed | needed
        · exact (Rule.mem_given.mp fixed).2
        · exact Rule.mem_placeholders_of_before needed
      · exact late.1
    · intro listed
      by_cases early : p ∈ middle
      · exact .inl early
      · exact .inr ⟨listed, early⟩
  · intro p listed e here
    exact whole.keeps p e (Rule.given_eq_some_iff.mpr ⟨here, listed⟩)
  · intro pattern here
    obtain ⟨fact, member, ground⟩ := solves.holds pattern here
    refine ⟨fact, member, ?_⟩
    rwa [Pattern.ground_eq_of_extends extension]
    intro p listed
    exact (bound p).mpr (.inr (List.mem_flatMap.mpr ⟨pattern, here, listed⟩))
  · intro pattern here p listed
    exact whole.typed p (List.mem_append_left _ (List.mem_flatMap.mpr ⟨pattern, here, listed⟩))
  · intro p only free e here
    obtain ⟨listed, unneeded⟩ := Rule.mem_resultOnly.mp only
    have unbound : p ∉ middle := by
      intro early
      rcases (bound p).mp early with fixed | needed
      · exact free (Rule.mem_given.mp fixed).1
      · exact unneeded needed
    have left : p ∈ rule.placeholders.filter (!middle.contains ·) :=
      Binding.mem_filter_unbound.mpr ⟨listed, unbound⟩
    exact ⟨known p left e here, extension.typed p left e here⟩
  · intro p _ free
    exact whole.apart p fun fixed => free (Rule.mem_given.mp fixed).1

theorem Admits.extends (admits : s.Admits fixed rule final) :
    (rule.given fixed).Extends s.kb.types final
      (rule.before.flatMap Pattern.parameters ++ rule.resultOnly.filter (!fixed.contains ·)) := by
  refine ⟨?_, ?_, ?_, ?_⟩
  · intro p e here
    obtain ⟨value, listed⟩ := Rule.given_eq_some_iff.mp here
    exact admits.agrees p listed e value
  · intro p
    rw [admits.domain, Rule.mem_given, List.mem_append, Binding.mem_filter_unbound, Rule.mem_resultOnly]
    constructor
    · intro listed
      by_cases known : p ∈ fixed <;> by_cases needed : p ∈ rule.before.flatMap Pattern.parameters <;>
        simp [listed, known, needed]
    · rintro (given | needed | only)
      · exact given.2
      · exact Rule.mem_placeholders_of_before needed
      · exact only.1.1
  · intro p listed e here
    rcases List.mem_append.mp listed with needed | only
    · obtain ⟨pattern, among, parameter⟩ := List.mem_flatMap.mp needed
      exact admits.typed pattern among p parameter e here
    · obtain ⟨result, free⟩ := Binding.mem_filter_unbound.mp only
      exact (admits.known p result free e here).2
  · intro p unbound q e atP
    have listed : p ∈ rule.placeholders := (admits.domain p).mp (SortedMap.mem_iff.mpr ⟨e, atP⟩)
    exact admits.apart p listed (fun fixed => unbound (Rule.mem_given.mpr ⟨fixed, listed⟩)) q e atP

theorem mem_assignments_iff (indexed : s.Indexed) : final ∈ s.assignments fixed rule ↔ s.Admits fixed rule final := by
  have free (middle : Binding) : final ∈ s.bindFree (rule.placeholders.filter (!middle.contains ·)) middle ↔ _ :=
    mem_bindFree_iff indexed ((nodup_distinct _).filter _) fun _ listed => (Binding.mem_filter_unbound.mp listed).2
  rw [assignments, List.mem_flatMap]
  change (∃ middle ∈ s.matchAll rule.before (rule.given fixed), _) ↔ _
  simp only [mem_matchAll_iff indexed, free]
  constructor
  · rintro ⟨middle, solves, extension, known⟩
    exact .of_extends solves extension known
  · intro admits
    obtain ⟨middle, first, second⟩ := admits.extends.split
    have left (p : Placeholder) : p ∈ rule.resultOnly.filter (!fixed.contains ·) ↔
        p ∈ rule.placeholders.filter (!middle.contains ·) := by
      rw [Binding.mem_filter_unbound, Binding.mem_filter_unbound, Rule.mem_resultOnly, first.bound, Rule.mem_given]
      grind
    refine ⟨middle, ⟨first, ?_⟩, second.congr left, ?_⟩
    · intro pattern here
      obtain ⟨fact, member, ground⟩ := admits.holds pattern here
      refine ⟨fact, member, ?_⟩
      rwa [← Pattern.ground_eq_of_extends second]
      intro p listed
      exact (first.bound p).mpr (.inr (List.mem_flatMap.mpr ⟨pattern, here, listed⟩))
    · intro p listed e here
      obtain ⟨only, free⟩ := Binding.mem_filter_unbound.mp ((left p).mpr listed)
      exact (admits.known p only free e here).1

theorem mem_instances_iff (indexed : s.Indexed) {action : Action} : action ∈ s.instances fixed rule ↔
    ∃ binding, s.Admits fixed rule binding ∧ rule.instantiate binding = .ok action := by
  have given (binding : Binding) :
      (rule.instantiate binding).toOption = some action ↔ rule.instantiate binding = .ok action := by
    cases rule.instantiate binding <;> simp [Except.toOption]
  simp only [instances, List.mem_filterMap, mem_assignments_iff indexed, given]

/-- An action whose conditions are facts can be taken. -/
theorem Admits.applicable {binding : Binding} {action : Action} (admits : s.Admits fixed rule binding)
    (instantiated : rule.instantiate binding = .ok action) : s.applicable action = true := by
  rw [applicable_iff]
  intro fact needed
  obtain ⟨pattern, here, ground⟩ := (Rule.mem_before instantiated).mp needed
  obtain ⟨found, member, same⟩ := admits.holds pattern here
  rw [ground] at same
  cases same
  exact member

theorem mem_actions_iff (indexed : s.Indexed) {rules : List Rule} {action : Action} :
    action ∈ s.actions rules fixed ↔
      ∃ rule ∈ rules, ∃ binding, s.Admits fixed rule binding ∧ rule.instantiate binding = .ok action := by
  simp only [actions, mem_distinct, List.mem_filter, List.mem_flatMap, mem_instances_iff indexed]
  constructor
  · exact fun listed => listed.1
  · rintro ⟨rule, among, binding, admits, instantiated⟩
    exact ⟨⟨rule, among, binding, admits, instantiated⟩, admits.applicable instantiated⟩

/-- The actions of some rules are exactly the instances of the rules under the bindings that the state admits.
Each can be taken and is listed once. -/
theorem actions_exact (built : s.Built) (rules : List Rule) (fixed : Binding) :
    (∀ action, action ∈ s.actions rules fixed ↔
      ∃ rule ∈ rules, ∃ binding, s.Admits fixed rule binding ∧ rule.instantiate binding = .ok action) ∧
    (∀ action ∈ s.actions rules fixed, s.applicable action = true) ∧
    (s.actions rules fixed).Nodup := by
  refine ⟨fun action => mem_actions_iff built.indexed, ?_, nodup_distinct _⟩
  intro action listed
  obtain ⟨rule, _, binding, admits, instantiated⟩ := (mem_actions_iff built.indexed).mp listed
  exact admits.applicable instantiated

/-- A kitchen with an open chest and a carrot on the floor. -/
def kitchenFacts : List Fact :=
  [⟨"at", [⟨"P", "P"⟩, ⟨"kitchen", "r"⟩]⟩, ⟨"at", [⟨"chest", "c"⟩, ⟨"kitchen", "r"⟩]⟩, ⟨"open", [⟨"chest", "c"⟩]⟩,
    ⟨"at", [⟨"carrot", "f"⟩, ⟨"kitchen", "r"⟩]⟩]

def kitchen : State := (State.empty Core.knowledge).insertAll kitchenFacts

theorem kitchen_built : kitchen.Built :=
  .addFacts (.empty Core.knowledge) (rfl : (State.empty Core.knowledge).addFacts kitchenFacts = .ok kitchen)

theorem actions_exact_kitchen : kitchen.Built ∧
    ((∀ action, action ∈ kitchen.actions Core.rules Binding.fixed ↔
      ∃ rule ∈ Core.rules, ∃ binding, kitchen.Admits Binding.fixed rule binding ∧
        rule.instantiate binding = .ok action) ∧
    (∀ action ∈ kitchen.actions Core.rules Binding.fixed, kitchen.applicable action = true) ∧
    (kitchen.actions Core.rules Binding.fixed).Nodup) ∧
    (kitchen.actions Core.rules Binding.fixed).map Action.command =
      ["close chest", "take carrot", "look", "inventory", "examine carrot", "examine chest"] :=
  ⟨kitchen_built, actions_exact kitchen_built Core.rules Binding.fixed, by decide +kernel⟩

end State

end Adventure
