import Adventure.Proofs.Core.Aspects
import Adventure.World.Direction

namespace Adventure

theorem State.violates_of_values {s : State} (indexed : s.Indexed) {constraint : Constraint} {ps : List Placeholder}
    {es : List Entity} (different : ps.Nodup) (apart : es.Nodup) (length : ps.length = es.length)
    (typed : ∀ pair ∈ ps.zip es, s.kb.types.descends pair.2.type pair.1.type = true)
    (parameters : ∀ p, p ∈ ps ↔ p ∈ constraint.patterns.flatMap Pattern.parameters)
    (holds : ∀ binding : Binding, ps.map (binding[·]?) = es.map some →
      ∀ pattern ∈ constraint.patterns, ∃ fact ∈ s.facts, pattern.ground binding = some fact) :
    s.violates constraint = true := by
  have unbound : ∀ p ∈ ps, p ∉ (∅ : Binding) := fun _ _ => Std.ExtTreeMap.not_mem_empty
  have unused : ∀ e ∈ es, ¬ (∅ : Binding).uses e = true := by simp [Binding.uses_iff]
  obtain ⟨binding, extension, values⟩ := Binding.exists_extends different apart unbound unused length typed
  exact (violates_iff indexed).mpr ⟨binding, extension.congr parameters, holds binding values⟩

namespace Core

/-- An entity of a known type that descends from another. -/
structure IsA (e : Entity) (type : String) : Prop where
  known : types.contains e.type = true
  descends : types.descends e.type type = true

/-- No type descends from both types. -/
def Disjoint (a b : String) : Prop :=
  ∀ type ∈ types.names, ¬ (types.descends type a = true ∧ types.descends type b = true)

instance {a b : String} : Decidable (Disjoint a b) :=
  inferInstanceAs (Decidable (∀ type ∈ types.names, ¬ (types.descends type a = true ∧ types.descends type b = true)))

theorem IsA.mem_names {e : Entity} {type : String} (isA : IsA e type) : e.type ∈ types.names :=
  Std.ExtTreeMap.mem_keys.mpr (Std.ExtTreeMap.contains_iff_mem.mp isA.known)

theorem IsA.not_disjoint {e : Entity} {a b : String} (first : IsA e a) (second : IsA e b) : ¬ Disjoint a b :=
  fun disjoint => disjoint e.type first.mem_names ⟨first.descends, second.descends⟩

theorem IsA.ne {e f : Entity} {a b : String} (first : IsA e a) (second : IsA f b) (disjoint : Disjoint a b) :
    e ≠ f := by
  rintro rfl
  exact first.not_disjoint second disjoint

/-- A fact that can be stated has arguments of the types that a signature of its predicate gives. -/
theorem exists_signature {fact : Fact} (checked : knowledge.checkFact fact = .ok ()) :
    ∃ signature ∈ signatures, signature.predicate = fact.predicate ∧
      signature.types.length = fact.arguments.length ∧
      ∀ pair ∈ signature.types.zip fact.arguments, IsA pair.2 pair.1 := by
  obtain ⟨known, signature, member, named, length, descends⟩ := KnowledgeBase.checkFact_eq_ok_iff.mp checked
  refine ⟨signature, member, named, length, fun pair listed => ⟨?_, descends pair listed⟩⟩
  exact known pair.2 (List.of_mem_zip listed).2

/-- A way to say where something is. -/
structure Placement where
  predicate : String
  item : Placeholder
  place : Placeholder
deriving DecidableEq

def placements : List Placement :=
  [⟨"at", player, room⟩, ⟨"at", thing, room⟩, ⟨"in", object, inventory⟩, ⟨"in", object, container⟩,
    ⟨"on", object, supporter⟩]

/-- The predicates that say whether something can be opened. -/
def conditions : List String := ["open", "closed", "locked"]

/-- A constraint is made of two patterns. -/
def Forbidden (p q : Pattern) : Prop :=
  ∃ constraint ∈ constraints, constraint.patterns = [p, q] ∨ constraint.patterns = [q, p]

instance {p q : Pattern} : Decidable (Forbidden p q) :=
  inferInstanceAs (Decidable (∃ constraint ∈ constraints, _))

/-- Where something is can be said in two ways only of things of different kinds, of what is in the inventory, or
against a constraint. -/
theorem placements_forbidden : ∀ first ∈ placements, ∀ second ∈ placements,
    Disjoint first.item.type second.item.type ∨ (first.place = inventory ∧ second = first) ∨
    ∃ item ∈ [first.item, second.item], ∃ place ∈ [second.place, otherRoom, otherContainer, otherSupporter],
      place.type = second.place.type ∧ [item, first.place, place].Nodup ∧
      Disjoint item.type first.place.type ∧ Disjoint item.type place.type ∧
      (first.predicate = second.predicate ∨ Disjoint first.place.type place.type) ∧
      Forbidden ⟨first.predicate, [item, first.place]⟩ ⟨second.predicate, [item, place]⟩ := by
  decide

theorem conditions_forbidden : ∀ first ∈ conditions, ∀ second ∈ conditions, first ≠ second →
    ∀ item ∈ [container, door], Forbidden ⟨first, [item]⟩ ⟨second, [item]⟩ := by
  decide

theorem place_signatures : ∀ signature ∈ signatures, Aspect.ofPredicate signature.predicate = some .place →
    signature = ⟨"eaten", ["f"]⟩ ∨
      ∃ placement ∈ placements, signature = ⟨placement.predicate, [placement.item.type, placement.place.type]⟩ := by
  decide

theorem condition_signatures : ∀ signature ∈ signatures, Aspect.ofPredicate signature.predicate = some .condition →
    ∃ condition ∈ conditions, ∃ item ∈ [container, door], signature = ⟨condition, [item.type]⟩ := by
  decide

theorem rules_replace : ∀ rule ∈ rules, rule.Replaces := by
  have before : ∀ rule ∈ rules, ∀ p ∈ rule.after, p.aspect.isSome → ∃ q ∈ rule.before, q.aspect = p.aspect := by
    decide
  have once : ∀ rule ∈ rules, ∀ p ∈ rule.after, ∀ q ∈ rule.after, p.aspect.isSome → p.aspect = q.aspect → p = q := by
    decide
  exact fun rule member => ⟨before rule member, once rule member⟩

theorem rules_neverAdd : ∀ rule ∈ rules, rule.NeverAdds "match" := by
  unfold Rule.NeverAdds
  decide

/-- The predicates that make up the map. -/
def mapPredicates : List String := "link" :: Direction.all.map Direction.predicate

theorem predicate_mem_mapPredicates (direction : Direction) : direction.predicate ∈ mapPredicates := by
  cases direction <;> decide

/-- Passages are opened and closed, but the map stays as it is. -/
theorem rules_keep_map : ∀ rule ∈ rules, ∀ predicate ∈ mapPredicates,
    rule.NeverAdds predicate ∧ rule.NeverRemoves predicate := by
  unfold Rule.NeverAdds Rule.NeverRemoves
  decide

theorem constraints_separate : ∀ constraint ∈ constraints, constraint.Separates ∨ constraint.About "match" := by
  unfold Constraint.Separates Constraint.About
  decide

/-- A state of the core world that breaks none of its constraints. -/
structure Lawful (s : State) : Prop where
  built : s.Built
  core : s.kb = knowledge
  unviolated : s.violated = none

variable {s : State}

/-- Two facts of a lawful state do not fit a forbidden pair of patterns. -/
theorem Lawful.not_forbidden (lawful : Lawful s) {p q : Pattern} {f g : Fact} (ps : List Placeholder)
    (es : List Entity) (different : ps.Nodup) (apart : es.Nodup) (length : ps.length = es.length)
    (typed : ∀ pair ∈ ps.zip es, IsA pair.2 pair.1.type) (parameters : ∀ x, x ∈ ps ↔ x ∈ p.parameters ++ q.parameters)
    (holdsF : f ∈ s.facts) (holdsG : g ∈ s.facts)
    (grounds : ∀ binding : Binding, ps.map (binding[·]?) = es.map some →
      p.ground binding = some f ∧ q.ground binding = some g) : ¬ Forbidden p q := by
  have holds (binding : Binding) (values : ps.map (binding[·]?) = es.map some) :
      ∀ pattern, pattern = p ∨ pattern = q → ∃ fact ∈ s.facts, pattern.ground binding = some fact := by
    rintro _ (rfl | rfl)
    · exact ⟨f, holdsF, (grounds binding values).1⟩
    · exact ⟨g, holdsG, (grounds binding values).2⟩
  have descends : ∀ pair ∈ ps.zip es, s.kb.types.descends pair.2.type pair.1.type = true := by
    rw [lawful.core]
    exact fun pair listed => (typed pair listed).descends
  rintro ⟨constraint, member, order⟩
  have among : ∀ pattern, pattern ∈ constraint.patterns ↔ pattern = p ∨ pattern = q := by
    intro pattern
    rcases order with same | same <;> rw [same] <;> simp [or_comm]
  refine State.violated_eq_none_iff.mp lawful.unviolated constraint (lawful.core ▸ member) ?_
  refine State.violates_of_values lawful.built.indexed different apart length descends ?_ ?_
  · intro x
    simp only [parameters, List.mem_append, List.mem_flatMap, among, or_and_right, exists_or, exists_eq_left]
  · exact fun binding values pattern listed => holds binding values pattern ((among pattern).mp listed)

theorem Lawful.eq_of_conditions (lawful : Lawful s) {a b : String} {x : Entity} (conditionA : a ∈ conditions)
    (conditionB : b ∈ conditions) {item : Placeholder} (kind : item ∈ [container, door]) (isItem : IsA x item.type)
    (first : ⟨a, [x]⟩ ∈ s.facts) (second : ⟨b, [x]⟩ ∈ s.facts) : a = b := by
  refine Classical.byContradiction fun different => ?_
  refine lawful.not_forbidden [item] [x] (by simp) (by simp) rfl ?typed (by simp) first second ?grounds
    (conditions_forbidden a conditionA b conditionB different item kind)
  case typed => simpa using isItem
  case grounds =>
    intro binding values
    exact ⟨Pattern.ground_eq_some_iff.mpr ⟨rfl, values⟩, Pattern.ground_eq_some_iff.mpr ⟨rfl, values⟩⟩

/-- In a lawful state whose only inventory is the player's, nothing is said to be in two places. -/
theorem Lawful.eq_of_placements (lawful : Lawful s)
    (inventories : ∀ e, IsA e "I" → (∃ fact ∈ s.facts, e ∈ fact.arguments) → e = ⟨"I", "I"⟩)
    {first second : Placement} (listedF : first ∈ placements) (listedG : second ∈ placements) {x u v : Entity}
    (itemF : IsA x first.item.type) (placeF : IsA u first.place.type) (itemG : IsA x second.item.type)
    (placeG : IsA v second.place.type) (holdsF : ⟨first.predicate, [x, u]⟩ ∈ s.facts)
    (holdsG : ⟨second.predicate, [x, v]⟩ ∈ s.facts) :
    (⟨first.predicate, [x, u]⟩ : Fact) = ⟨second.predicate, [x, v]⟩ := by
  rcases placements_forbidden first listedF second listedG with
    disjoint | ⟨inventory, rfl⟩ | ⟨item, either, place, -, kind, different, apartF, apartG, twice, forbidden⟩
  · exact absurd disjoint (itemF.not_disjoint itemG)
  · rw [inventory] at placeF placeG
    rw [inventories u placeF ⟨_, holdsF, by simp⟩, inventories v placeG ⟨_, holdsG, by simp⟩]
  · have isItem : IsA x item.type := by
      rcases List.mem_cons.mp either with rfl | other
      · exact itemF
      · exact List.mem_singleton.mp other ▸ itemG
    rw [← kind] at placeG
    have same : u = v := by
      refine Classical.byContradiction fun distinct => ?_
      refine lawful.not_forbidden [item, first.place, place] [x, u, v] different ?apart rfl ?typed ?parameters holdsF
        holdsG ?grounds forbidden
      case apart => simp [isItem.ne placeF apartF, isItem.ne placeG apartG, distinct]
      case typed => simp [isItem, placeF, placeG]
      case parameters => grind
      case grounds =>
        intro binding values
        simp only [List.map_cons, List.map_nil, List.cons.injEq] at values
        obtain ⟨atX, atU, atV, -⟩ := values
        constructor <;> simp [Pattern.ground_eq_some_iff, atX, atU, atV]
    rcases twice with named | disjoint
    · rw [named, same]
    · exact absurd same (placeF.ne placeG disjoint)

theorem Lawful.exists_placement (lawful : Lawful s) {fact : Fact} {x : Entity} (holds : fact ∈ s.facts)
    (settled : fact.aspect = some (.place, x)) : fact = ⟨"eaten", [x]⟩ ∨ ∃ placement ∈ placements, ∃ u,
      fact = ⟨placement.predicate, [x, u]⟩ ∧ IsA x placement.item.type ∧ IsA u placement.place.type := by
  obtain ⟨predicate, arguments⟩ := fact
  obtain ⟨place, rest, rfl⟩ := Fact.aspect_eq_some_iff.mp settled
  obtain ⟨signature, member, rfl, length, typed⟩ := exists_signature (lawful.core ▸ lawful.built.checked holds)
  rcases place_signatures signature member place with rfl | ⟨placement, listed, rfl⟩
  · left
    cases rest with
    | nil => rfl
    | cons => cases length
  · right
    obtain ⟨u, rfl⟩ := List.length_eq_one_iff.mp (Nat.succ.inj length).symm
    exact ⟨placement, listed, u, rfl, typed (_, x) (by simp), typed (_, u) (by simp)⟩

theorem Lawful.exists_condition (lawful : Lawful s) {fact : Fact} {x : Entity} (holds : fact ∈ s.facts)
    (settled : fact.aspect = some (.condition, x)) : ∃ condition ∈ conditions, ∃ item ∈ [container, door],
      fact = ⟨condition, [x]⟩ ∧ IsA x item.type := by
  obtain ⟨predicate, arguments⟩ := fact
  obtain ⟨known, rest, rfl⟩ := Fact.aspect_eq_some_iff.mp settled
  obtain ⟨signature, member, rfl, length, typed⟩ := exists_signature (lawful.core ▸ lawful.built.checked holds)
  obtain ⟨condition, listed, item, kind, rfl⟩ := condition_signatures signature member known
  cases rest with
  | nil => exact ⟨condition, listed, item, kind, rfl, typed (_, x) (by simp)⟩
  | cons => cases length

/-- A lawful state settles each aspect once, if what was eaten is nowhere and nothing else is in two places. -/
theorem Lawful.consistent_of_placements (lawful : Lawful s)
    (gone : ∀ e, ⟨"eaten", [e]⟩ ∈ s.facts → ∀ fact ∈ s.facts, ["at", "in", "on"].contains fact.predicate = true →
      fact.arguments.head? ≠ some e)
    (once : ∀ first ∈ placements, ∀ second ∈ placements, ∀ x u v, IsA x first.item.type → IsA u first.place.type →
      IsA x second.item.type → IsA v second.place.type → ⟨first.predicate, [x, u]⟩ ∈ s.facts →
      ⟨second.predicate, [x, v]⟩ ∈ s.facts → (⟨first.predicate, [x, u]⟩ : Fact) = ⟨second.predicate, [x, v]⟩) :
    s.Consistent := by
  have nowhere {placement : Placement} {x u : Entity} (listed : placement ∈ placements)
      (placed : ⟨placement.predicate, [x, u]⟩ ∈ s.facts) (eaten : ⟨"eaten", [x]⟩ ∈ s.facts) : False := by
    have named : ∀ placement ∈ placements, ["at", "in", "on"].contains placement.predicate = true := by decide
    exact gone x eaten _ placed (named placement listed) rfl
  rintro f holdsF g holdsG ⟨_ | _, x⟩ settledF settledG
  case place =>
    rcases lawful.exists_placement holdsF settledF with rfl | ⟨first, listedF, u, rfl, itemF, placeF⟩ <;>
      rcases lawful.exists_placement holdsG settledG with rfl | ⟨second, listedG, v, rfl, itemG, placeG⟩
    · rfl
    · exact (nowhere listedG holdsG holdsF).elim
    · exact (nowhere listedF holdsF holdsG).elim
    · exact once first listedF second listedG x u v itemF placeF itemG placeG holdsF holdsG
  case condition =>
    obtain ⟨a, conditionA, item, kind, rfl, isItem⟩ := lawful.exists_condition holdsF settledF
    obtain ⟨b, conditionB, _, _, rfl, _⟩ := lawful.exists_condition holdsG settledG
    rw [lawful.eq_of_conditions conditionA conditionB kind isItem holdsF holdsG]

/-- A lawful state settles each aspect once, if there is one inventory and what was eaten is nowhere. -/
theorem Lawful.consistent (lawful : Lawful s)
    (inventories : ∀ e, IsA e "I" → (∃ fact ∈ s.facts, e ∈ fact.arguments) → e = ⟨"I", "I"⟩)
    (gone : ∀ e, ⟨"eaten", [e]⟩ ∈ s.facts → ∀ fact ∈ s.facts, ["at", "in", "on"].contains fact.predicate = true →
      fact.arguments.head? ≠ some e) : s.Consistent := by
  refine lawful.consistent_of_placements gone fun first listedF second listedG x u v itemF placeF itemG placeG => ?_
  exact lawful.eq_of_placements inventories listedF listedG itemF placeF itemG placeG

/-- No run of the core rules breaks a constraint: of a state that breaks none, with one inventory, and in which what
was eaten is nowhere. -/
theorem violated_eq_none_of_reaches {t : State} (built : s.Built) (core : s.kb = knowledge)
    (unviolated : s.violated = none) (inventories : ∀ e ∈ s.entities, e.type = "I" → e = ⟨"I", "I"⟩)
    (gone : ∀ e, ⟨"eaten", [e]⟩ ∈ s.facts → ∀ fact ∈ s.facts, ["at", "in", "on"].contains fact.predicate = true →
      fact.arguments.head? ≠ some e)
    (reach : s.Reaches s.kb.rules t) : t.violated = none := by
  have lawful : Lawful s := ⟨built, core, unviolated⟩
  have consistent : s.Consistent := by
    refine lawful.consistent (fun e isA mentioned => ?_) gone
    have only : ∀ type ∈ types.names, types.descends type "I" = true → type = "I" := by decide +kernel
    exact inventories e (built.indexed.mem_entities.mpr mentioned) (only e.type isA.mem_names isA.descends)
  rw [core] at reach
  refine State.violated_eq_none_iff.mpr fun constraint member violated => ?_
  rw [reach.kb, core] at member
  rcases constraints_separate constraint member with separates | about
  · have kept : t.Consistent := reach.consistent built.indexed rules_replace consistent
    exact kept.not_violates (reach.indexed built.indexed) separates violated
  · have before := reach.violates_of_about built.indexed rules_neverAdd about violated
    exact State.violated_eq_none_iff.mp unviolated constraint (core ▸ member) before

def supperFacts : List Fact :=
  [⟨"at", [⟨"P", "P"⟩, ⟨"kitchen", "r"⟩]⟩, ⟨"in", [⟨"carrot", "f"⟩, ⟨"I", "I"⟩]⟩, ⟨"eaten", [⟨"apple", "f"⟩]⟩]

/-- A carrot is held, and an apple has been eaten. -/
def supper : State := (State.empty knowledge).insertAll supperFacts

def eatCarrot : Action :=
  ⟨"eat", SortedSet.of [⟨"in", [⟨"carrot", "f"⟩, ⟨"I", "I"⟩]⟩], SortedSet.of [⟨"eaten", [⟨"carrot", "f"⟩]⟩],
    some "eat \x7bcarrot\x7d"⟩

def afterSupper : State := (supper.eraseAll eatCarrot.removed.toList).insertAll eatCarrot.added.toList

theorem afterSupper_reached : supper.Reaches knowledge.rules afterSupper := by
  have applied : supper.apply eatCarrot = .ok (some afterSupper) :=
    State.apply_of_faultless (by decide +kernel) (by decide +kernel)
  exact .next .start (by decide +kernel) applied

theorem violated_eq_none_of_reaches_afterSupper : supper.Built ∧ supper.kb = knowledge ∧ supper.violated = none ∧
    (∀ e ∈ supper.entities, e.type = "I" → e = ⟨"I", "I"⟩) ∧
    (∀ e, ⟨"eaten", [e]⟩ ∈ supper.facts → ∀ fact ∈ supper.facts,
      ["at", "in", "on"].contains fact.predicate = true → fact.arguments.head? ≠ some e) ∧
    supper.Reaches supper.kb.rules afterSupper ∧ afterSupper.violated = none := by
  have built : supper.Built :=
    .addFacts (.empty knowledge) (rfl : (State.empty knowledge).addFacts supperFacts = .ok supper)
  have unviolated : supper.violated = none := by decide +kernel
  have inventories : ∀ e ∈ supper.entities, e.type = "I" → e = ⟨"I", "I"⟩ := by decide +kernel
  have gone : ∀ e, ⟨"eaten", [e]⟩ ∈ supper.facts → ∀ fact ∈ supper.facts,
      ["at", "in", "on"].contains fact.predicate = true → fact.arguments.head? ≠ some e := by
    have separate : ∀ eaten ∈ supper.facts.toList, eaten.predicate = "eaten" → ∀ fact ∈ supper.facts.toList,
        ["at", "in", "on"].contains fact.predicate = true → fact.arguments.head? ≠ eaten.arguments.head? := by
      decide +kernel
    intro e eaten fact member
    rw [← Std.ExtTreeSet.mem_toList] at eaten member
    exact separate _ eaten rfl fact member
  exact ⟨built, rfl, unviolated, inventories, gone, afterSupper_reached,
    violated_eq_none_of_reaches built rfl unviolated inventories gone afterSupper_reached⟩

end Core

end Adventure
