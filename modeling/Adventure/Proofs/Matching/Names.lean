import Adventure.Proofs.Knowledge.Accepted

namespace Adventure

/-- A rule that mentions each name with one type only. -/
def Rule.Uniform (rule : Rule) : Prop :=
  ∀ p ∈ rule.placeholders, ∀ q ∈ rule.placeholders, p.name = q.name → p.type = q.type

/-- A binding under which a name stands for one entity throughout a rule. -/
def Rule.Alike (rule : Rule) (binding : Binding) : Prop :=
  ∀ p ∈ rule.placeholders, ∀ q ∈ rule.placeholders, p.name = q.name → binding[p]? = binding[q]?

/-- The entity that has the name and the type of a placeholder. -/
def Placeholder.twin (p : Placeholder) : Entity := ⟨p.name, p.type⟩

/-- A pattern read as a fact about the twins of its placeholders. -/
def Pattern.verbatim (pattern : Pattern) : Fact := ⟨pattern.predicate, pattern.parameters.map Placeholder.twin⟩

/-- Each placeholder of a rule stands for its twin. -/
def Rule.twins (rule : Rule) : Binding := SortedMap.of (rule.placeholders.map fun p => (p, p.twin))

/-- What the patterns of a rule say of the twins of its placeholders. -/
def Rule.verbatim (rule : Rule) : List Fact := (rule.before ++ rule.after).map Pattern.verbatim

theorem Placeholder.twin_injective {p q : Placeholder} (same : p.twin = q.twin) : p = q := by
  obtain ⟨_, _⟩ := p
  obtain ⟨_, _⟩ := q
  obtain ⟨rfl, rfl⟩ := Entity.mk.inj same
  rfl

theorem Binding.fixed_eq_twin {p : Placeholder} {e : Entity} (here : Binding.fixed[p]? = some e) : e = p.twin := by
  obtain ⟨_, _⟩ := e
  obtain ⟨rfl, rfl⟩ := Binding.fixed_eq_some here
  rfl

theorem Binding.Injective.getElem?_eq_iff {binding : Binding} (injective : binding.Injective) {p q : Placeholder}
    (bound : p ∈ binding) : binding[p]? = binding[q]? ↔ p = q := by
  refine ⟨fun same => ?_, fun same => same ▸ rfl⟩
  obtain ⟨e, here⟩ := SortedMap.mem_iff.mp bound
  exact injective p q e here (same ▸ here)

theorem Placeholder.eq_iff_of_name {p q : Placeholder} (namesakes : p.name = q.name) : p = q ↔ p.type = q.type := by
  obtain ⟨_, _⟩ := p
  obtain ⟨_, _⟩ := q
  cases namesakes
  simp

namespace Rule

variable {rule : Rule} {pattern : Pattern} {p : Placeholder} {e : Entity} {kb : KnowledgeBase}

theorem mem_twins : p ∈ rule.twins ↔ p ∈ rule.placeholders := by
  rw [twins, SortedMap.mem_of, List.map_map]
  simp

theorem twins_eq_some_iff : rule.twins[p]? = some e ↔ p ∈ rule.placeholders ∧ e = p.twin := by
  have only {f : Entity} (here : rule.twins[p]? = some f) : f = p.twin := by
    obtain ⟨q, -, entry⟩ := List.mem_map.mp (SortedMap.mem_of_eq_some here)
    cases entry
    rfl
  refine ⟨fun here => ⟨mem_twins.mp (SortedMap.mem_iff.mpr ⟨e, here⟩), only here⟩, ?_⟩
  rintro ⟨listed, rfl⟩
  obtain ⟨f, here⟩ := SortedMap.mem_iff.mp (mem_twins.mpr listed)
  rw [here, only here]

theorem ground_twins (among : pattern ∈ rule.before ++ rule.after) :
    pattern.ground rule.twins = some pattern.verbatim := by
  refine Pattern.ground_eq_some_iff.mpr ⟨rfl, ?_⟩
  rw [Pattern.verbatim, List.map_map]
  refine List.map_congr_left fun p parameter => ?_
  exact twins_eq_some_iff.mpr ⟨mem_placeholders.mpr ⟨pattern, among, parameter⟩, rfl⟩

theorem checkFact_verbatim (fits : pattern.Fits kb) (declared : ∀ p ∈ pattern.parameters, kb.types.contains p.type) :
    kb.checkFact pattern.verbatim = .ok () := by
  obtain ⟨signature, member, named, length, descends⟩ := fits
  refine KnowledgeBase.checkFact_eq_ok_iff.mpr ⟨?_, signature, member, named, ?_, ?_⟩
  · intro e argument
    obtain ⟨p, parameter, rfl⟩ := List.mem_map.mp argument
    exact declared p parameter
  · rw [length, Pattern.verbatim, List.length_map]
  · intro pair paired
    rw [Pattern.verbatim, List.zip_map_right] at paired
    obtain ⟨⟨type, p⟩, fitting, rfl⟩ := List.mem_map.mp paired
    exact descends (type, p) fitting

/-- Where all that the patterns of a rule say of the twins of its placeholders holds, the placeholders can stand for
their twins. -/
theorem admits_twins {s : State} (holds : ∀ fact ∈ rule.verbatim, fact ∈ s.facts) :
    s.Admits Binding.fixed rule rule.twins where
  domain _ := mem_twins
  agrees p listed e here := twins_eq_some_iff.mpr ⟨listed, Binding.fixed_eq_twin here⟩
  holds pattern needed := by
    have among : pattern ∈ rule.before ++ rule.after := List.mem_append_left _ needed
    exact ⟨pattern.verbatim, holds _ (List.mem_map_of_mem among), ground_twins among⟩
  typed _ _ p _ e here := by
    rw [(twins_eq_some_iff.mp here).2]
    exact s.kb.types.descends_refl p.type
  known p only _ e here := by
    obtain ⟨listed, rfl⟩ := twins_eq_some_iff.mp here
    obtain ⟨pattern, among, parameter⟩ := mem_placeholders.mp listed
    exact ⟨⟨pattern.verbatim, holds _ (List.mem_map_of_mem among), List.mem_map_of_mem parameter⟩,
      s.kb.types.descends_refl p.type⟩
  apart p _ _ q e atP atQ := by
    rw [(twins_eq_some_iff.mp atP).2] at atQ
    exact (Placeholder.twin_injective (twins_eq_some_iff.mp atQ).2).symm

/-- A rule over declared types whose patterns can all be stated applies somewhere. -/
theorem exists_admits_twins (fits : ∀ pattern ∈ rule.before ++ rule.after, pattern.Fits kb)
    (declared : ∀ p ∈ rule.placeholders, kb.types.contains p.type) :
    ∃ s : State, s.Built ∧ s.kb = kb ∧ s.Admits Binding.fixed rule rule.twins := by
  have checked : ∀ fact ∈ rule.verbatim, kb.checkFact fact = .ok () := by
    intro fact stated
    obtain ⟨pattern, among, rfl⟩ := List.mem_map.mp stated
    exact checkFact_verbatim (fits pattern among) fun p parameter =>
      declared p (mem_placeholders.mpr ⟨pattern, among, parameter⟩)
  refine ⟨(State.empty kb).insertAll rule.verbatim, ?_, State.insertAll_kb _ _, ?_⟩
  · exact .addFacts (.empty kb) (State.addFacts_eq_ok_iff.mpr ⟨checked, rfl⟩)
  · exact admits_twins fun fact stated => State.mem_insertAll.mpr (.inl stated)

end Rule

namespace State.Admits

variable {s : State} {rule : Rule} {binding : Binding} {p q : Placeholder}

theorem namesakes_iff (admits : s.Admits Binding.fixed rule binding) (listed : p ∈ rule.placeholders)
    (namesakes : p.name = q.name) : binding[p]? = binding[q]? ↔ p.type = q.type := by
  rw [admits.injective.getElem?_eq_iff ((admits.domain p).mpr listed), Placeholder.eq_iff_of_name namesakes]

theorem alike_iff (admits : s.Admits Binding.fixed rule binding) : rule.Alike binding ↔ rule.Uniform :=
  forall₂_congr fun _ listed => forall₂_congr fun _ _ => forall_congr' fun namesakes =>
    admits.namesakes_iff listed namesakes

end State.Admits

namespace KnowledgeBase

variable {record : KnowledgeRecord} {kb : KnowledgeBase} {rule : Rule}

/-- Wherever a rule of an accepted knowledge base applies, all its placeholders stand for entities, and two of one name
stand for the same one exactly if they have the same type. So a name stands for one entity throughout a rule if the
rule mentions it with one type only. A rule whose patterns can all be stated and which mentions a name with two types
applies somewhere with two entities for that name. -/
theorem namesakes_alike_iff (accepted : ofRecord record = .ok kb) (member : rule ∈ kb.rules) :
    (∀ s : State, s.Built → s.kb = kb → ∀ binding ∈ s.assignments Binding.fixed rule,
      (∀ p ∈ rule.placeholders, p ∈ binding) ∧
      ∀ p ∈ rule.placeholders, ∀ q ∈ rule.placeholders, p.name = q.name →
        (binding[p]? = binding[q]? ↔ p.type = q.type)) ∧
    ((∀ pattern ∈ rule.before ++ rule.after, pattern.Fits kb) →
      ((∀ s : State, s.Built → s.kb = kb → ∀ binding ∈ s.assignments Binding.fixed rule, rule.Alike binding) ↔
        rule.Uniform)) := by
  have admitted {s : State} (built : s.Built) {binding : Binding} :
      binding ∈ s.assignments Binding.fixed rule ↔ s.Admits Binding.fixed rule binding :=
    State.mem_assignments_iff built.indexed
  refine ⟨fun s built _ binding assigned => ?_, fun fits => ⟨fun alike => ?_, ?_⟩⟩
  · have admits := (admitted built).mp assigned
    exact ⟨fun p => (admits.domain p).mpr, fun p listed q _ => admits.namesakes_iff listed⟩
  · obtain ⟨s, built, based, admits⟩ :=
      Rule.exists_admits_twins fits fun p listed => contains_of_ofRecord accepted member listed
    exact admits.alike_iff.mp (alike s built based rule.twins ((admitted built).mpr admits))
  · intro uniform s built _ binding assigned
    exact ((admitted built).mp assigned).alike_iff.mpr uniform

theorem namesakes_alike_iff_take : ofRecord Core.declarations = .ok Core.knowledge ∧
    Core.take ∈ Core.knowledge.rules ∧
    (∀ pattern ∈ Core.take.before ++ Core.take.after, pattern.Fits Core.knowledge) ∧
    State.kitchen.Built ∧ State.kitchen.kb = Core.knowledge ∧
    (∃ binding ∈ State.kitchen.assignments Binding.fixed Core.take, binding[Core.object]? = some ⟨"carrot", "f"⟩) ∧
    ∀ s : State, s.Built → s.kb = Core.knowledge → ∀ binding ∈ s.assignments Binding.fixed Core.take,
      Core.take.Alike binding := by
  have member : Core.take ∈ Core.knowledge.rules := by decide
  have fits : ∀ pattern ∈ Core.take.before ++ Core.take.after, pattern.Fits Core.knowledge := by
    unfold Pattern.Fits
    decide
  have uniform : Core.take.Uniform := by
    unfold Rule.Uniform
    decide
  refine ⟨ofRecord_core, member, fits, State.kitchen_built, rfl, by decide +kernel, ?_⟩
  exact ((namesakes_alike_iff ofRecord_core member).2 fits).mpr uniform

end KnowledgeBase

namespace Orchard

def pick : Rule where
  name := "pick"
  before := [⟨"seen", [⟨"x", "thing"⟩]⟩, ⟨"ripe", [⟨"x", "fruit"⟩]⟩]
  after := [⟨"seen", [⟨"x", "thing"⟩]⟩]
  template := none
  observational := false

/-- One rule about what is seen, which may be any thing, and ripe, which only fruit can be. -/
def declarations : KnowledgeRecord where
  id := "orchard"
  types := [⟨"thing", []⟩, ⟨"fruit", ["thing"]⟩]
  predicates := [⟨"seen", ["thing"]⟩, ⟨"ripe", ["fruit"]⟩]
  rules := [⟨pick, none⟩]
  constraints := []
  inverses := []
  hints := []

def types : TypeHierarchy := .declared (declarations.types.map fun type => (type.name, type.parents))

def knowledge : KnowledgeBase := .build declarations types

def facts : List Fact :=
  [⟨"seen", [⟨"apple", "fruit"⟩]⟩, ⟨"seen", [⟨"pear", "fruit"⟩]⟩, ⟨"ripe", [⟨"apple", "fruit"⟩]⟩]

def state : State := (State.empty knowledge).insertAll facts

/-- An accepted rule that is about the pear and the apple by one name, since it mentions the name with two types. -/
theorem pick_unlike : KnowledgeBase.ofRecord declarations = .ok knowledge ∧ pick ∈ knowledge.rules ∧
    state.Built ∧ state.kb = knowledge ∧ ∃ binding ∈ state.assignments Binding.fixed pick,
      binding[(⟨"x", "thing"⟩ : Placeholder)]? = some ⟨"pear", "fruit"⟩ ∧
      binding[(⟨"x", "fruit"⟩ : Placeholder)]? = some ⟨"apple", "fruit"⟩ ∧ ¬ pick.Alike binding := by
  have flawless : declarations.problems = [] := by decide +kernel
  have accepted : KnowledgeBase.ofRecord declarations = .ok knowledge :=
    KnowledgeBase.ofRecord_eq_ok_iff.mpr ⟨flawless, types, rfl, rfl⟩
  have stated : (State.empty knowledge).addFacts facts = .ok state := rfl
  have assigned : ∃ binding ∈ state.assignments Binding.fixed pick,
      binding[(⟨"x", "thing"⟩ : Placeholder)]? = some ⟨"pear", "fruit"⟩ ∧
      binding[(⟨"x", "fruit"⟩ : Placeholder)]? = some ⟨"apple", "fruit"⟩ := by
    decide +kernel
  obtain ⟨binding, listed, pear, apple⟩ := assigned
  refine ⟨accepted, List.mem_singleton_self pick, .addFacts (.empty knowledge) stated, rfl, binding, listed, pear,
    apple, fun alike => ?_⟩
  have same := alike ⟨"x", "thing"⟩ (by decide) ⟨"x", "fruit"⟩ (by decide) rfl
  rw [pear, apple] at same
  revert same
  decide

end Orchard

end Adventure
