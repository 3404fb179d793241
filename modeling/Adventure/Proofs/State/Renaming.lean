import Adventure.Proofs.Core.Typing

namespace Adventure

/-- The fact about other entities in place of its own. -/
def Fact.renamed (change : Entity → Entity) (fact : Fact) : Fact :=
  { fact with arguments := fact.arguments.map change }

def FactSet.renamed (change : Entity → Entity) (facts : FactSet) : FactSet :=
  SortedSet.of (facts.toList.map (Fact.renamed change))

theorem FactSet.mem_renamed {change : Entity → Entity} {facts : FactSet} {fact : Fact} :
    fact ∈ renamed change facts ↔ ∃ old ∈ facts, old.renamed change = fact := by
  simp only [renamed, SortedSet.mem_of, List.mem_map, Std.ExtTreeSet.mem_toList]

/-- What an action does, without the words of its command. -/
structure Shape where
  name : String
  before : FactSet
  after : FactSet
deriving DecidableEq

def Action.shape (action : Action) : Shape := ⟨action.name, action.before, action.after⟩

def Shape.renamed (change : Entity → Entity) (shape : Shape) : Shape :=
  ⟨shape.name, FactSet.renamed change shape.before, FactSet.renamed change shape.after⟩

/-- What the placeholders stand for after a change of the entities. -/
def Binding.renamed (change : Entity → Entity) (binding : Binding) : Binding :=
  binding.map fun _ entity => change entity

theorem Binding.getElem?_renamed {change : Entity → Entity} {binding : Binding} {p : Placeholder} :
    (binding.renamed change)[p]? = (binding[p]?).map change :=
  Std.ExtTreeMap.getElem?_map

theorem Binding.renamed_eq_some_iff {change : Entity → Entity} {binding : Binding} {p : Placeholder} {e : Entity} :
    (binding.renamed change)[p]? = some e ↔ ∃ old, binding[p]? = some old ∧ change old = e := by
  rw [getElem?_renamed, Option.map_eq_some_iff]

theorem Pattern.ground_renamed (change : Entity → Entity) (binding : Binding) (pattern : Pattern) :
    pattern.ground (binding.renamed change) = (pattern.ground binding).map (Fact.renamed change) := by
  have values : pattern.parameters.mapM (fun p => (binding.renamed change)[p]?) =
      (pattern.parameters.mapM fun p => binding[p]?).map (List.map change) := by
    induction pattern.parameters with
    | nil => rfl
    | cons p ps ih =>
      rw [List.mapM_cons, List.mapM_cons, ih, Binding.getElem?_renamed]
      cases binding[p]? <;> cases ps.mapM fun p => binding[p]? <;> rfl
  rw [ground, values, ground, Option.map_map, Option.map_map]
  rfl

namespace Rule

variable {change : Entity → Entity} {rule : Rule} {binding : Binding} {action other : Action}

theorem renamed_ground_iff {patterns : List Pattern} {fact : Fact} :
    (∃ pattern ∈ patterns, pattern.ground (binding.renamed change) = some fact) ↔
      ∃ old, (∃ pattern ∈ patterns, pattern.ground binding = some old) ∧ old.renamed change = fact := by
  simp only [Pattern.ground_renamed, Option.map_eq_some_iff]
  grind

/-- Under renamed entities a rule has the renamed effects. -/
theorem shape_renamed (instantiated : rule.instantiate binding = .ok action)
    (renamed : rule.instantiate (binding.renamed change) = .ok other) :
    other.shape = action.shape.renamed change := by
  have before : other.before = FactSet.renamed change action.before := by
    apply Std.ExtTreeSet.ext_mem
    intro fact
    rw [mem_before renamed, renamed_ground_iff, FactSet.mem_renamed]
    simp only [mem_before instantiated]
  have after : other.after = FactSet.renamed change action.after := by
    apply Std.ExtTreeSet.ext_mem
    intro fact
    rw [mem_after renamed, renamed_ground_iff, FactSet.mem_renamed]
    simp only [mem_after instantiated]
  rw [Action.shape, Action.shape, Shape.renamed, before, after, name_of_instantiate renamed,
    name_of_instantiate instantiated]

end Rule

namespace State

/-- The entity stands in a fact, or is the player or the inventory. -/
def Knows (s : State) (e : Entity) : Prop :=
  (∃ fact ∈ s.facts, e ∈ fact.arguments) ∨ ∃ p : Placeholder, Binding.fixed[p]? = some e

/-- Other names for the entities of a state. Each keeps its type, the player and the inventory also their names, and
two entities do not become one. -/
structure Renames (s : State) (change : Entity → Entity) : Prop where
  typed : ∀ e, s.Knows e → (change e).type = e.type
  player : change ⟨"P", "P"⟩ = ⟨"P", "P"⟩
  inventory : change ⟨"I", "I"⟩ = ⟨"I", "I"⟩
  injective : ∀ e f, s.Knows e → s.Knows f → change e = change f → e = f

variable {s t : State} {change : Entity → Entity} {rule : Rule} {binding : Binding} {fact : Fact} {e : Entity}

theorem knows_of_mem (holds : fact ∈ s.facts) (argument : e ∈ fact.arguments) : s.Knows e :=
  .inl ⟨fact, holds, argument⟩

namespace Renames

theorem fixed (renames : s.Renames change) {p : Placeholder} (here : Binding.fixed[p]? = some e) : change e = e := by
  have entry : (p, e) ∈ Binding.fixed.toList := Std.ExtTreeMap.mem_toList_iff_getElem?_eq_some.mpr here
  have entries : ∀ entry ∈ Binding.fixed.toList, entry.2 = ⟨"P", "P"⟩ ∨ entry.2 = ⟨"I", "I"⟩ := by decide
  rcases entries (p, e) entry with player | inventory
  · rw [show e = ⟨"P", "P"⟩ from player, renames.player]
  · rw [show e = ⟨"I", "I"⟩ from inventory, renames.inventory]

theorem eq_of_arguments (renames : s.Renames change) {es fs : List Entity} (known : ∀ e ∈ es, s.Knows e)
    (others : ∀ f ∈ fs, s.Knows f) (same : es.map change = fs.map change) : es = fs := by
  induction es generalizing fs with
  | nil => exact (List.map_eq_nil_iff.mp same.symm).symm
  | cons e es ih =>
    obtain ⟨f, fs, rfl, here, rest⟩ := List.map_eq_cons_iff.mp same.symm
    have first := renames.injective e f (known e List.mem_cons_self) (others f List.mem_cons_self) here.symm
    rw [first, ih (fun e listed => known e (List.mem_cons_of_mem _ listed))
      (fun f listed => others f (List.mem_cons_of_mem _ listed)) rest.symm]

/-- A fact over known entities holds exactly if the renamed one holds under the other names. -/
theorem mem_iff (renames : s.Renames change) (facts : t.facts = FactSet.renamed change s.facts)
    (known : ∀ e ∈ fact.arguments, s.Knows e) : fact.renamed change ∈ t.facts ↔ fact ∈ s.facts := by
  rw [facts, FactSet.mem_renamed]
  constructor
  · rintro ⟨old, holds, same⟩
    obtain ⟨predicate, renamed⟩ := Fact.mk.inj same
    have arguments : old.arguments = fact.arguments :=
      renames.eq_of_arguments (fun e argument => knows_of_mem holds argument) known renamed
    obtain ⟨_, _⟩ := old
    obtain ⟨_, _⟩ := fact
    cases predicate
    cases arguments
    exact holds
  · intro holds
    exact ⟨fact, holds, rfl⟩

theorem mentioned_iff (renames : s.Renames change) (facts : t.facts = FactSet.renamed change s.facts)
    (known : s.Knows e) : (∃ fact ∈ t.facts, change e ∈ fact.arguments) ↔ ∃ fact ∈ s.facts, e ∈ fact.arguments := by
  simp only [facts, FactSet.mem_renamed]
  constructor
  · rintro ⟨_, ⟨old, holds, rfl⟩, argument⟩
    obtain ⟨f, among, same⟩ := List.mem_map.mp argument
    rw [renames.injective e f known (knows_of_mem holds among) same.symm]
    exact ⟨old, holds, among⟩
  · rintro ⟨old, holds, argument⟩
    exact ⟨old.renamed change, ⟨old, holds, rfl⟩, List.mem_map_of_mem argument⟩

/-- A choice of known entities serves a rule exactly if the renamed one does under the other names. -/
theorem admits_iff (renames : s.Renames change) (kb : t.kb = s.kb) (facts : t.facts = FactSet.renamed change s.facts)
    (known : ∀ (p : Placeholder) e, binding[p]? = some e → s.Knows e) :
    t.Admits Binding.fixed rule (binding.renamed change) ↔ s.Admits Binding.fixed rule binding := by
  have domain (p : Placeholder) : p ∈ binding.renamed change ↔ p ∈ binding := Std.ExtTreeMap.mem_map
  have grounded {pattern : Pattern} {fact : Fact} (ground : pattern.ground binding = some fact) :
      ∀ e ∈ fact.arguments, s.Knows e := by
    intro e argument
    obtain ⟨p, -, here⟩ := Pattern.exists_of_mem_arguments ground argument
    exact known p e here
  have value {p : Placeholder} {e : Entity} (here : binding[p]? = some e) :
      (binding.renamed change)[p]? = some (change e) := Binding.renamed_eq_some_iff.mpr ⟨e, here, rfl⟩
  constructor
  · intro admits
    refine ⟨fun p => (domain p).symm.trans (admits.domain p), ?_, ?_, ?_, ?_, ?_⟩
    · intro p listed e fixed
      obtain ⟨old, here, same⟩ := Binding.renamed_eq_some_iff.mp (admits.agrees p listed e fixed)
      rwa [renames.injective e old (.inr ⟨p, fixed⟩) (known p old here) ((renames.fixed fixed).trans same.symm)]
    · intro pattern among
      obtain ⟨fact, holds, ground⟩ := admits.holds pattern among
      rw [Pattern.ground_renamed, Option.map_eq_some_iff] at ground
      obtain ⟨old, ground, rfl⟩ := ground
      exact ⟨old, (renames.mem_iff facts (grounded ground)).mp holds, ground⟩
    · intro pattern among p parameter e here
      have descends := admits.typed pattern among p parameter (change e) (value here)
      rwa [kb, renames.typed e (known p e here)] at descends
    · intro p only free e here
      obtain ⟨mentioned, descends⟩ := admits.known p only free (change e) (value here)
      rw [kb, renames.typed e (known p e here)] at descends
      exact ⟨(renames.mentioned_iff facts (known p e here)).mp mentioned, descends⟩
    · intro p listed free q e atP atQ
      exact admits.apart p listed free q (change e) (value atP) (value atQ)
  · intro admits
    refine ⟨fun p => (domain p).trans (admits.domain p), ?_, ?_, ?_, ?_, ?_⟩
    · intro p listed e fixed
      rw [value (admits.agrees p listed e fixed), renames.fixed fixed]
    · intro pattern among
      obtain ⟨fact, holds, ground⟩ := admits.holds pattern among
      refine ⟨fact.renamed change, (renames.mem_iff facts (grounded ground)).mpr holds, ?_⟩
      rw [Pattern.ground_renamed, ground, Option.map_some]
    · intro pattern among p parameter e here
      obtain ⟨old, atP, rfl⟩ := Binding.renamed_eq_some_iff.mp here
      rw [kb, renames.typed old (known p old atP)]
      exact admits.typed pattern among p parameter old atP
    · intro p only free e here
      obtain ⟨old, atP, rfl⟩ := Binding.renamed_eq_some_iff.mp here
      obtain ⟨mentioned, descends⟩ := admits.known p only free old atP
      rw [kb, renames.typed old (known p old atP)]
      exact ⟨(renames.mentioned_iff facts (known p old atP)).mpr mentioned, descends⟩
    · intro p listed free q e here there
      obtain ⟨old, atP, rfl⟩ := Binding.renamed_eq_some_iff.mp here
      obtain ⟨also, atQ, same⟩ := Binding.renamed_eq_some_iff.mp there
      rw [renames.injective also old (known q also atQ) (known p old atP) same] at atQ
      exact admits.apart p listed free q old atP atQ

/-- Every choice of entities for a rule under the other names is a renamed one. -/
theorem exists_binding (renames : s.Renames change) (facts : t.facts = FactSet.renamed change s.facts)
    (admits : t.Admits Binding.fixed rule binding) :
    ∃ old, (∀ (p : Placeholder) e, old[p]? = some e → s.Knows e) ∧ binding = Binding.renamed change old := by
  have exists_old (p : Placeholder) (e : Entity) (here : binding[p]? = some e) :
      ∃ old, s.Knows old ∧ change old = e := by
    rcases admits.known_or_fixed here with ⟨fact, holds, argument⟩ | ⟨-, fixed⟩
    · rw [facts, FactSet.mem_renamed] at holds
      obtain ⟨before, holds, rfl⟩ := holds
      obtain ⟨old, among, same⟩ := List.mem_map.mp argument
      exact ⟨old, knows_of_mem holds among, same⟩
    · exact ⟨e, .inr ⟨p, fixed⟩, renames.fixed fixed⟩
  -- where an entity comes from is not computed: any known entity with that new name will do
  classical
  let origin (e : Entity) : Entity := if known : ∃ old, s.Knows old ∧ change old = e then known.choose else e
  have origin_spec (p : Placeholder) (e : Entity) (here : binding[p]? = some e) :
      s.Knows (origin e) ∧ change (origin e) = e := by
    have known := exists_old p e here
    simp only [origin, dif_pos known]
    exact known.choose_spec
  refine ⟨binding.renamed origin, ?_, ?_⟩
  · intro p e here
    obtain ⟨new, atP, rfl⟩ := Binding.renamed_eq_some_iff.mp here
    exact (origin_spec p new atP).1
  · apply Std.ExtTreeMap.ext_getElem?
    intro p
    rw [Binding.getElem?_renamed, Binding.getElem?_renamed, Option.map_map]
    cases here : binding[p]? with
    | none => rfl
    | some e => rw [Option.map_some, Function.comp_apply, (origin_spec p e here).2]

/-- The facts under the other names can be stated. -/
theorem exists_ofFacts (renames : s.Renames change) (built : s.Built) :
    ∃ t, State.ofFacts s.kb (s.facts.toList.map (Fact.renamed change)) = .ok t ∧ t.Built ∧ t.kb = s.kb ∧
      t.facts = FactSet.renamed change s.facts := by
  have stated : ∀ fact ∈ s.facts.toList.map (Fact.renamed change), s.kb.checkFact fact = .ok () := by
    intro fact member
    obtain ⟨old, holds, rfl⟩ := List.mem_map.mp member
    rw [Std.ExtTreeSet.mem_toList] at holds
    have type (e : Entity) (argument : e ∈ old.arguments) : (change e).type = e.type :=
      renames.typed e (knows_of_mem holds argument)
    obtain ⟨declared, signature, listed, predicate, length, fits⟩ :=
      KnowledgeBase.checkFact_eq_ok_iff.mp (built.checked holds)
    refine KnowledgeBase.checkFact_eq_ok_iff.mpr ⟨?_, signature, listed, predicate, ?_, ?_⟩
    · intro e argument
      obtain ⟨f, among, rfl⟩ := List.mem_map.mp argument
      rw [type f among]
      exact declared f among
    · rw [length, Fact.renamed, List.length_map]
    · intro pair paired
      rw [Fact.renamed, List.zip_map_right, List.mem_map] at paired
      obtain ⟨before, paired, rfl⟩ := paired
      rw [Prod.map_snd, Prod.map_fst, type before.2 (List.of_mem_zip paired).2]
      exact fits before paired
  have added : (State.empty s.kb).addFacts (s.facts.toList.map (Fact.renamed change)) = .ok _ :=
    addFacts_eq_ok_iff.mpr ⟨stated, rfl⟩
  refine ⟨_, added, .addFacts (.empty s.kb) added, insertAll_kb _ _, ?_⟩
  apply Std.ExtTreeSet.ext_mem
  intro fact
  rw [mem_insertAll, FactSet.renamed, SortedSet.mem_of]
  simp [State.empty]

end Renames

/-- A state whose entities have other names can be built, and the actions in it are those of the state under the other
names. -/
theorem actions_renamed (built : s.Built) (renames : s.Renames change) (rules : List Rule) :
    ∃ t, State.ofFacts s.kb (s.facts.toList.map (Fact.renamed change)) = .ok t ∧
      ∀ shape, shape ∈ (t.actions rules Binding.fixed).map Action.shape ↔
        shape ∈ (s.actions rules Binding.fixed).map fun action => action.shape.renamed change := by
  obtain ⟨t, made, builtT, kb, facts⟩ := renames.exists_ofFacts built
  refine ⟨t, made, fun shape => ?_⟩
  simp only [List.mem_map, mem_actions_iff builtT.indexed, mem_actions_iff built.indexed]
  constructor
  · rintro ⟨action, ⟨rule, among, binding, admits, instantiated⟩, rfl⟩
    obtain ⟨old, known, rfl⟩ := renames.exists_binding facts admits
    have admitted := (renames.admits_iff kb facts known).mp admits
    obtain ⟨before, instantiatedOld⟩ := Rule.exists_instantiate fun p listed => (admitted.domain p).mpr listed
    exact ⟨before, ⟨rule, among, old, admitted, instantiatedOld⟩,
      (Rule.shape_renamed instantiatedOld instantiated).symm⟩
  · rintro ⟨action, ⟨rule, among, binding, admits, instantiated⟩, rfl⟩
    have known (p : Placeholder) (e : Entity) (here : binding[p]? = some e) : s.Knows e :=
      (admits.known_or_fixed here).imp_right fun fixed => ⟨p, fixed.2⟩
    have admitted := (renames.admits_iff kb facts known).mpr admits
    obtain ⟨after, instantiatedNew⟩ := Rule.exists_instantiate fun p listed => (admitted.domain p).mpr listed
    exact ⟨after, ⟨rule, among, _, admitted, instantiatedNew⟩, Rule.shape_renamed instantiated instantiatedNew⟩

/-- The chest and the carrot change names. -/
def swapped (e : Entity) : Entity :=
  if e.name = "chest" then { e with name := "carrot" }
  else if e.name = "carrot" then { e with name := "chest" }
  else e

theorem swapped_swapped (e : Entity) : swapped (swapped e) = e := by
  obtain ⟨name, type⟩ := e
  by_cases chest : name = "chest"
  · simp [swapped, chest]
  by_cases carrot : name = "carrot"
  · simp [swapped, carrot]
  · simp [swapped, chest, carrot]

theorem renames_swapped (s : State) : s.Renames swapped where
  typed e _ := by
    unfold swapped
    split
    · rfl
    · split <;> rfl
  player := by decide
  inventory := by decide
  injective e f _ _ same := by rw [← swapped_swapped e, same, swapped_swapped]

theorem actions_renamed_swapped : kitchen.Built ∧ kitchen.Renames swapped ∧
    ∃ t, State.ofFacts Core.knowledge (kitchen.facts.toList.map (Fact.renamed swapped)) = .ok t ∧
      (∀ shape, shape ∈ (t.actions Core.rules Binding.fixed).map Action.shape ↔
        shape ∈ (kitchen.actions Core.rules Binding.fixed).map fun action => action.shape.renamed swapped) ∧
      (t.actions Core.rules Binding.fixed).map Action.command =
        ["close carrot", "take chest", "look", "inventory", "examine carrot", "examine chest"] := by
  have commands : (State.ofFacts Core.knowledge (kitchen.facts.toList.map (Fact.renamed swapped))).toOption.map
      (fun t => (t.actions Core.rules Binding.fixed).map Action.command) =
      some ["close carrot", "take chest", "look", "inventory", "examine carrot", "examine chest"] := by
    decide +kernel
  obtain ⟨t, made, same⟩ := actions_renamed kitchen_built (renames_swapped kitchen) Core.rules
  refine ⟨kitchen_built, renames_swapped kitchen, t, made, same, ?_⟩
  rw [show State.ofFacts Core.knowledge _ = .ok t from made] at commands
  exact Option.some.inj commands

end State

end Adventure
