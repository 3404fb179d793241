import Adventure.Proofs.Core.Constraints
import Adventure.Proofs.Core.Typing
import Mathlib.Data.List.Nodup
import Mathlib.Tactic.MkIffOfInductiveProp

namespace Adventure

/-- The pattern with other placeholders in place of its own. -/
def Pattern.rename (change : Placeholder → Placeholder) (pattern : Pattern) : Pattern :=
  { pattern with parameters := pattern.parameters.map change }

theorem Pattern.ground_rename {pattern : Pattern} {change : Placeholder → Placeholder} {binding final : Binding}
    (values : ∀ p ∈ pattern.parameters, final[p]? = binding[change p]?) :
    (pattern.rename change).ground binding = pattern.ground final := by
  have same : (pattern.rename change).parameters.map (binding[·]?) = pattern.parameters.map (final[·]?) := by
    rw [rename, List.map_map]
    exact List.map_congr_left fun p listed => (values p listed).symm
  apply Option.ext
  intro fact
  rw [ground_eq_some_iff, ground_eq_some_iff, same]
  rfl

namespace Rule

variable {rule undo : Rule} {binding : Binding} {action : Action} {fact : Fact}

/-- The patterns of the facts that a rule makes false. -/
def removedPatterns (rule : Rule) : List Pattern := rule.before.filter (!rule.after.contains ·)

/-- Where no two placeholders stand for one entity, the facts of some patterns that are none of others are those of
the patterns that are none of the others. -/
theorem exists_ground_filter (injective : binding.Injective) {patterns others : List Pattern} :
    (∃ pattern ∈ patterns.filter (!others.contains ·), pattern.ground binding = some fact) ↔
      (∃ pattern ∈ patterns, pattern.ground binding = some fact) ∧
        ¬ ∃ pattern ∈ others, pattern.ground binding = some fact := by
  simp only [List.mem_filter, Bool.not_eq_true', List.contains_eq_mem, decide_eq_false_iff_not]
  constructor
  · rintro ⟨pattern, ⟨among, apart⟩, ground⟩
    refine ⟨⟨pattern, among, ground⟩, ?_⟩
    rintro ⟨other, listed, same⟩
    exact apart (injective.eq_of_ground ground same ▸ listed)
  · rintro ⟨⟨pattern, among, ground⟩, absent⟩
    exact ⟨pattern, ⟨among, fun listed => absent ⟨pattern, listed, ground⟩⟩, ground⟩

theorem mem_added (injective : binding.Injective) (instantiated : rule.instantiate binding = .ok action) :
    fact ∈ action.added ↔ ∃ pattern ∈ rule.addedPatterns, pattern.ground binding = some fact := by
  rw [Action.mem_added, mem_after instantiated, mem_before instantiated, addedPatterns, exists_ground_filter injective]

theorem mem_removed (injective : binding.Injective) (instantiated : rule.instantiate binding = .ok action) :
    fact ∈ action.removed ↔ ∃ pattern ∈ rule.removedPatterns, pattern.ground binding = some fact := by
  rw [Action.mem_removed, mem_after instantiated, mem_before instantiated, removedPatterns,
    exists_ground_filter injective]

/-- A rule that takes back what another one does, when its placeholders are changed for those of the other. It needs
what the other rule leaves behind, or the same seen from the opposite direction. -/
@[mk_iff]
structure Mirrors (rule undo : Rule) (change : Placeholder → Placeholder) : Prop where
  placeholders : ∀ p ∈ undo.placeholders, change p ∈ rule.placeholders ∧ (change p).type = p.type
  apart : (undo.placeholders.map change).Nodup
  fixed : ∀ p ∈ undo.placeholders, Binding.fixed.contains p = true → change p = p
  known : ∀ p ∈ undo.resultOnly, Binding.fixed.contains p = true
  needs : ∀ pattern ∈ undo.before, pattern.rename change ∈ rule.after ∨
    ∃ direction ∈ Direction.all, ∃ a ∈ rule.placeholders, ∃ b ∈ rule.placeholders,
      ⟨direction.predicate, [a, b]⟩ ∈ rule.before ∧ pattern.rename change = ⟨direction.opposite.predicate, [b, a]⟩
  added : undo.addedPatterns.map (·.rename change) = rule.removedPatterns
  removed : undo.removedPatterns.map (·.rename change) = rule.addedPatterns

instance {change : Placeholder → Placeholder} : Decidable (rule.Mirrors undo change) :=
  decidable_of_iff' _ (mirrors_iff rule undo change)

end Rule

namespace State

variable {s t : State} {rule undo : Rule} {rules : List Rule} {binding : Binding} {action : Action}
  {change : Placeholder → Placeholder}

/-- Every direction fact comes with its opposite. -/
def Oriented (s : State) : Prop :=
  ∀ (direction : Direction) (a b : Entity), ⟨direction.predicate, [a, b]⟩ ∈ s.facts →
    ⟨direction.opposite.predicate, [b, a]⟩ ∈ s.facts

theorem mem_apply_effects (run : s.apply action = .ok (some t)) {fact : Fact} :
    fact ∈ t.facts ↔ fact ∈ action.added ∨ fact ∈ s.facts ∧ fact ∉ action.removed := by
  obtain ⟨-, -, rfl⟩ := apply_eq_some_iff.mp run
  rw [mem_insertAll, mem_eraseAll, Std.ExtTreeSet.mem_toList, Std.ExtTreeSet.mem_toList]

/-- An action with the opposite effects leads back, if what the first one made true was not true before. -/
theorem apply_undo (built : s.Built) (run : s.apply action = .ok (some t))
    (new : ∀ fact ∈ action.added, fact ∉ s.facts) {undo : Action} (applicable : t.applicable undo = true)
    (added : undo.added = action.removed) (removed : undo.removed = action.added) :
    t.apply undo = .ok (some s) := by
  have needed (fact : Fact) (gone : fact ∈ action.removed) : fact ∈ s.facts :=
    applicable_iff.mp (apply_eq_some_iff.mp run).1 fact (Action.mem_removed.mp gone).1
  have back : ∃ u, t.apply undo = .ok (some u) := by
    refine ⟨_, apply_eq_some_iff.mpr ⟨applicable, fun fact member => ?_, rfl⟩⟩
    rw [apply_kb run]
    exact built.checked (needed fact (added ▸ member))
  obtain ⟨u, back⟩ := back
  have same : u = s := by
    refine ((built.indexed.apply run).apply back).ext built.indexed ((apply_kb back).trans (apply_kb run)) ?_
    apply Std.ExtTreeSet.ext_mem
    intro fact
    rw [mem_apply_effects back, mem_apply_effects run, added, removed]
    have before := needed fact
    have after := new fact
    grind
  rw [back, same]

/-- The placeholders of a mirroring rule can stand for what those of the other rule stood for. -/
theorem Admits.exists_mirrored (admits : s.Admits Binding.fixed rule binding) (mirrors : rule.Mirrors undo change) :
    ∃ final : Binding, (∅ : Binding).Extends s.kb.types final undo.placeholders ∧
      ∀ p ∈ undo.placeholders, final[p]? = binding[change p]? := by
  have bound : ∀ p ∈ undo.placeholders, ∃ e, binding[change p]? = some e := fun p listed =>
    SortedMap.mem_iff.mp ((admits.domain _).mpr (mirrors.placeholders p listed).1)
  obtain ⟨es, values⟩ := exists_map_some bound
  have value {p : Placeholder} {e : Entity} (paired : (p, e) ∈ undo.placeholders.zip es) :
      binding[change p]? = some e := by
    obtain ⟨number, inside, same⟩ := List.getElem_of_mem paired
    rw [List.getElem_zip, Prod.mk.injEq] at same
    have here := congrArg (·[number]?) values
    rw [List.length_zip] at inside
    simpa [List.getElem?_eq_getElem, same.1, same.2, show number < undo.placeholders.length by omega,
      show number < es.length by omega] using here
  have apart : es.Nodup := by
    have images : ((undo.placeholders.map change).map (binding[·]?)).Nodup := by
      refine List.Nodup.map_on (fun p listed q _ same => ?_) mirrors.apart
      obtain ⟨x, known, rfl⟩ := List.mem_map.mp listed
      obtain ⟨e, here⟩ := bound x known
      exact admits.injective _ q e here (same ▸ here)
    simp only [List.map_map, Function.comp_def] at images
    rw [values] at images
    exact images.of_map
  have typed : ∀ pair ∈ undo.placeholders.zip es, s.kb.types.descends pair.2.type pair.1.type = true := by
    rintro ⟨p, e⟩ paired
    rw [← (mirrors.placeholders p (List.of_mem_zip paired).1).2]
    exact admits.descends (value paired)
  have length : undo.placeholders.length = es.length := by
    simpa only [List.length_map] using congrArg List.length values
  obtain ⟨final, extension, agrees⟩ : ∃ final, (∅ : Binding).Extends s.kb.types final undo.placeholders ∧
      undo.placeholders.map (final[·]?) = es.map some :=
    Binding.exists_extends (nodup_distinct _) apart (fun p _ => Std.ExtTreeMap.not_mem_empty)
      (by simp [Binding.uses_iff]) length typed
  exact ⟨final, extension, List.map_inj_left.mp (agrees.trans values.symm)⟩

theorem ground_mirrored {final : Binding} (values : ∀ p ∈ undo.placeholders, final[p]? = binding[change p]?)
    {pattern : Pattern} (among : pattern ∈ undo.before ++ undo.after) :
    (pattern.rename change).ground binding = pattern.ground final :=
  Pattern.ground_rename fun p listed => values p (Rule.mem_placeholders.mpr ⟨pattern, among, listed⟩)

/-- After an action, a rule that mirrors its rule can be taken. -/
theorem Admits.mirrored {final : Binding} (admits : s.Admits Binding.fixed rule binding)
    (mirrors : rule.Mirrors undo change) (instantiated : rule.instantiate binding = .ok action)
    (run : s.apply action = .ok (some t)) (oriented : s.Oriented)
    (keeps : ∀ direction : Direction, rule.NeverRemoves direction.predicate)
    (extension : (∅ : Binding).Extends s.kb.types final undo.placeholders)
    (values : ∀ p ∈ undo.placeholders, final[p]? = binding[change p]?) : t.Admits Binding.fixed undo final := by
  refine ⟨?_, ?_, ?_, ?_, ?_, ?_⟩
  · intro p
    rw [extension.bound]
    exact or_iff_right Std.ExtTreeMap.not_mem_empty
  · intro p listed e fixed
    have same := mirrors.fixed p listed (Std.ExtTreeMap.contains_iff_mem.mpr (SortedMap.mem_iff.mpr ⟨e, fixed⟩))
    rw [values p listed, same]
    exact admits.agrees p (same ▸ (mirrors.placeholders p listed).1) e fixed
  · intro pattern needed
    rw [← ground_mirrored values (List.mem_append_left _ needed)]
    rcases mirrors.needs pattern needed with left | ⟨direction, -, a, knownA, b, knownB, seen, opposite⟩
    · obtain ⟨fact, ground⟩ := Pattern.exists_ground fun p listed => (admits.domain p).mpr
        (Rule.mem_placeholders.mpr ⟨_, List.mem_append_right _ left, listed⟩)
      exact ⟨fact, (mem_apply run).mpr (.inl ((Rule.mem_after instantiated).mpr ⟨_, left, ground⟩)), ground⟩
    · -- A way that the rule looked along is there to be looked back along.
      obtain ⟨fact, holds, ground⟩ := admits.holds _ seen
      obtain ⟨x, atA⟩ := SortedMap.mem_iff.mp ((admits.domain a).mpr knownA)
      obtain ⟨y, atB⟩ := SortedMap.mem_iff.mp ((admits.domain b).mpr knownB)
      have forward : fact = ⟨direction.predicate, [x, y]⟩ := Option.some.inj (ground.symm.trans
        (Pattern.ground_eq_some_iff.mpr ⟨rfl, by simp [atA, atB]⟩))
      have backward := oriented direction x y (forward ▸ holds)
      refine ⟨_, mem_apply_of_neverRemoves (keeps direction.opposite) instantiated run rfl backward, ?_⟩
      rw [opposite]
      exact Pattern.ground_eq_some_iff.mpr ⟨rfl, by simp [atA, atB]⟩
  · intro pattern needed p listed e here
    rw [apply_kb run]
    exact extension.typed p (Rule.mem_placeholders_of_before (List.mem_flatMap.mpr ⟨pattern, needed, listed⟩)) e here
  · intro p only free
    exact absurd (Std.ExtTreeMap.contains_iff_mem.mp (mirrors.known p only)) free
  · intro p _ _
    exact extension.apart p Std.ExtTreeMap.not_mem_empty

/-- After an action, a rule that mirrors its rule has an action with the opposite effects. -/
theorem Admits.exists_undo (admits : s.Admits Binding.fixed rule binding) (mirrors : rule.Mirrors undo change)
    (instantiated : rule.instantiate binding = .ok action) (run : s.apply action = .ok (some t))
    (oriented : s.Oriented) (keeps : ∀ direction : Direction, rule.NeverRemoves direction.predicate) :
    ∃ final back, t.Admits Binding.fixed undo final ∧ undo.instantiate final = .ok back ∧
      back.added = action.removed ∧ back.removed = action.added := by
  obtain ⟨final, extension, values⟩ := admits.exists_mirrored mirrors
  have admitted := admits.mirrored mirrors instantiated run oriented keeps extension values
  obtain ⟨back, made⟩ := Rule.exists_instantiate fun p listed => (admitted.domain p).mpr listed
  have mirrored {patterns : List Pattern} (among : ∀ pattern ∈ patterns, pattern ∈ undo.before ++ undo.after)
      (fact : Fact) : (∃ pattern ∈ patterns, pattern.ground final = some fact) ↔
        ∃ pattern ∈ patterns.map (·.rename change), pattern.ground binding = some fact := by
    simp only [List.mem_map, exists_exists_and_eq_and]
    refine exists_congr fun pattern => and_congr_right fun member => ?_
    rw [ground_mirrored values (among pattern member)]
  refine ⟨final, back, admitted, made, Std.ExtTreeSet.ext_mem fun fact => ?_, Std.ExtTreeSet.ext_mem fun fact => ?_⟩
  · rw [Rule.mem_added admitted.injective made, Rule.mem_removed admits.injective instantiated, ← mirrors.added]
    exact mirrored (fun pattern member => List.mem_append_right _ (List.mem_filter.mp member).1) fact
  · rw [Rule.mem_removed admitted.injective made, Rule.mem_added admits.injective instantiated, ← mirrors.removed]
    exact mirrored (fun pattern member => List.mem_append_left _ (List.mem_filter.mp member).1) fact

end State

namespace Core

variable {s : State} {action : Action}

/-- Two rooms change places. -/
def swapRooms (p : Placeholder) : Placeholder :=
  if p = room then otherRoom else if p = otherRoom then room else p

theorem rules_mirrored : ∀ rule ∈ rules, ∀ undo ∈ (knowledge.inverseRule rule.name).toList,
    ∃ change ∈ [id, swapRooms], rule.Mirrors undo change := by
  decide

/-- What an action does in the core world can be undone: the action of the inverse rule that is found after it can be
taken and leads back to the very state. -/
theorem inverseOf_restores (built : s.Built) (core : s.kb = knowledge) (oriented : s.Oriented)
    (listed : action ∈ s.actions s.kb.rules Binding.fixed)
    (declared : (s.kb.inverseRule action.name).isSome = true) (new : ∀ fact ∈ action.added, fact ∉ s.facts) :
    ∃ t, s.apply action = .ok (some t) ∧ ∃ undo, t.inverseOf action = some undo ∧ t.applicable undo = true ∧
      t.apply undo = .ok (some s) := by
  obtain ⟨rule, member, binding, admits, instantiated⟩ := (State.mem_actions_iff built.indexed).mp listed
  rw [core] at member declared
  have typed : rule.Typed s.kb := core ▸ rules_typed rule member
  have transitive : s.kb.types.Transitive := core ▸ types_transitive
  obtain ⟨t, run⟩ := admits.exists_apply built transitive typed instantiated
  refine ⟨t, run, ?_⟩
  obtain ⟨inverse, found⟩ := Option.isSome_iff_exists.mp declared
  have mirrored : inverse ∈ (knowledge.inverseRule rule.name).toList := by
    rw [← Rule.name_of_instantiate instantiated, found]
    exact List.mem_singleton_self _
  obtain ⟨change, -, mirrors⟩ := rules_mirrored rule member inverse mirrored
  obtain ⟨final, back, admitted, made, added, removed⟩ :=
    admits.exists_undo mirrors instantiated run oriented fun direction =>
      (rules_keep_map rule member _ (predicate_mem_mapPredicates direction)).2
  have indexed : t.Indexed := built.indexed.apply run
  have among : back ∈ t.instances Binding.fixed inverse :=
    (State.mem_instances_iff indexed).mpr ⟨final, admitted, made⟩
  obtain ⟨undo, chosen⟩ : ∃ undo, (t.instances Binding.fixed inverse).find? (fun undo =>
      t.applicable undo && undo.added == action.removed && undo.removed == action.added) = some undo := by
    refine Option.isSome_iff_exists.mp (List.find?_isSome.mpr ⟨back, among, ?_⟩)
    simp [admitted.applicable made, added, removed]
  have works := List.find?_some chosen
  simp only [Bool.and_eq_true, beq_iff_eq] at works
  obtain ⟨⟨applicable, undone⟩, restored⟩ := works
  refine ⟨undo, ?_, applicable, State.apply_undo built run new applicable undone restored⟩
  rw [State.inverseOf, State.apply_kb run, core, found]
  exact chosen

/-- The player stands in a kitchen with a pantry to the north of it. -/
def passageFacts : List Fact :=
  [⟨"at", [⟨"P", "P"⟩, ⟨"kitchen", "r"⟩]⟩, ⟨"north_of", [⟨"pantry", "r"⟩, ⟨"kitchen", "r"⟩]⟩,
    ⟨"south_of", [⟨"kitchen", "r"⟩, ⟨"pantry", "r"⟩]⟩, ⟨"free", [⟨"kitchen", "r"⟩, ⟨"pantry", "r"⟩]⟩,
    ⟨"free", [⟨"pantry", "r"⟩, ⟨"kitchen", "r"⟩]⟩]

def passage : State := (State.empty knowledge).insertAll passageFacts

theorem inverseOf_restores_passage : passage.Built ∧ passage.kb = knowledge ∧ passage.Oriented ∧
    ∃ action ∈ passage.actions passage.kb.rules Binding.fixed, action.command = "go north" ∧
      (passage.kb.inverseRule action.name).isSome = true ∧ (∀ fact ∈ action.added, fact ∉ passage.facts) ∧
      ∃ t, passage.apply action = .ok (some t) ∧ ∃ undo, t.inverseOf action = some undo ∧
        t.applicable undo = true ∧ t.apply undo = .ok (some passage) := by
  have built : passage.Built :=
    .addFacts (.empty knowledge) (rfl : (State.empty knowledge).addFacts passageFacts = .ok passage)
  have oriented : passage.Oriented := by
    have all : ∀ fact ∈ passage.facts.toList, ∀ direction ∈ Direction.all, fact.predicate = direction.predicate →
        ⟨direction.opposite.predicate, fact.arguments.reverse⟩ ∈ passage.facts.toList := by decide
    intro direction a b holds
    rw [← Std.ExtTreeSet.mem_toList] at holds ⊢
    exact all _ holds direction (by cases direction <;> decide) rfl
  have north : ∃ action ∈ passage.actions passage.kb.rules Binding.fixed, action.command = "go north" ∧
      (passage.kb.inverseRule action.name).isSome = true ∧
      ∀ fact ∈ action.added.toList, fact ∉ passage.facts.toList := by decide +kernel
  obtain ⟨action, listed, command, declared, fresh⟩ := north
  have new : ∀ fact ∈ action.added, fact ∉ passage.facts := by
    simpa only [Std.ExtTreeSet.mem_toList] using fresh
  exact ⟨built, rfl, oriented, action, listed, command, declared, new,
    inverseOf_restores built rfl oriented listed declared new⟩

end Core

end Adventure
