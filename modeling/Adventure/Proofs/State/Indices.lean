import Adventure.Proofs.Sorted
import Adventure.State.Basic
import Mathlib.Data.List.Nodup

namespace Adventure.State

/-- What an index shows under a key that has some facts: nothing at all if there are none. -/
def shown (facts : FactSet) : Option FactSet := if facts.isEmpty then none else some facts

theorem shown_eq_some_iff {facts found : FactSet} :
    shown facts = some found ↔ found = facts ∧ ∃ fact, fact ∈ facts := by
  unfold shown
  split
  next empty =>
    rw [Std.ExtTreeSet.isEmpty_iff] at empty
    simp [empty]
  next inhabited =>
    have occupied : ∃ fact, fact ∈ facts := by
      simpa [Std.ExtTreeSet.eq_empty_iff_forall_not_mem] using inhabited
    simpa [occupied] using eq_comm

theorem shown_getD (facts : FactSet) : (shown facts).getD ∅ = facts := by
  unfold shown
  split
  next empty => simpa using (Std.ExtTreeSet.isEmpty_iff.mp empty).symm
  next => rfl

/-- An index shows under each key the facts that `content` has for it. -/
def Shows {κ : Type} [Ord κ] [Std.TransOrd κ] (index : SortedMap κ FactSet) (content : κ → FactSet) : Prop :=
  ∀ key, index[key]? = shown (content key)

theorem Shows.getD {κ : Type} [Ord κ] [Std.TransOrd κ] {index : SortedMap κ FactSet} {content : κ → FactSet}
    (shows : Shows index content) (key : κ) : index.getD key ∅ = content key := by
  rw [Std.ExtTreeMap.getD_eq_getD_getElem?, shows key, shown_getD]

section Index

variable {κ : Type} [Ord κ] [Std.TransOrd κ] [DecidableEq κ]
  {index : SortedMap κ FactSet} {content : κ → FactSet}

/-- A change made under some keys in turn, where a key that comes twice changes nothing the second time. -/
theorem Shows.foldl (shows : Shows index content) {change : SortedMap κ FactSet → κ → SortedMap κ FactSet}
    (update : FactSet → FactSet)
    (step : ∀ {index : SortedMap κ FactSet} {content : κ → FactSet}, Shows index content → ∀ key,
      Shows (change index key) fun k => if k = key then update (content k) else content k)
    (settled : ∀ facts, update (update facts) = update facts) (keys : List κ) :
    Shows (keys.foldl change index) fun k => if k ∈ keys then update (content k) else content k := by
  induction keys generalizing index content with
  | nil => simpa using shows
  | cons key keys ih =>
    intro k
    rw [List.foldl_cons, ih (step shows key) k]
    by_cases here : k = key
    · subst here
      by_cases later : k ∈ keys <;> simp [later, settled]
    · simp [here]

variable [Std.LawfulEqOrd κ]

theorem Shows.enter (shows : Shows index content) (fact : Fact) (key : κ) :
    Shows (State.enter fact index key) fun k => if k = key then (content k).insert fact else content k := by
  intro k
  rw [State.enter, Std.ExtTreeMap.getElem?_insert, shows.getD]
  by_cases same : k = key
  · subst same
    simp [shown]
  · have different : compare key k ≠ .eq := fun equal => same (Std.LawfulEqOrd.eq_of_compare equal).symm
    simp only [different, same, if_false]
    exact shows k

theorem Shows.strike (shows : Shows index content) (fact : Fact) (key : κ) :
    Shows (State.strike fact index key) fun k => if k = key then (content k).erase fact else content k := by
  intro k
  simp only [State.strike, shows.getD]
  by_cases same : k = key
  · subst same
    by_cases empty : ((content k).erase fact).isEmpty <;> simp [shown, empty]
  · have different : compare key k ≠ .eq := fun equal => same (Std.LawfulEqOrd.eq_of_compare equal).symm
    by_cases empty : ((content key).erase fact).isEmpty
    · simp only [empty, if_true, Std.ExtTreeMap.getElem?_erase, different, same, if_false]
      exact shows k
    · simp only [empty, Bool.false_eq_true, Std.ExtTreeMap.getElem?_insert, different, same, if_false]
      exact shows k

end Index

theorem insert_insert (facts : FactSet) (fact : Fact) : (facts.insert fact).insert fact = facts.insert fact := by
  apply Std.ExtTreeSet.ext_mem
  simp

theorem erase_erase (facts : FactSet) (fact : Fact) : (facts.erase fact).erase fact = facts.erase fact := by
  apply Std.ExtTreeSet.ext_mem
  simp

theorem filter_insert (facts : FactSet) (fact : Fact) (test : Fact → Bool) :
    (facts.insert fact).filter test = if test fact then (facts.filter test).insert fact else facts.filter test := by
  apply Std.ExtTreeSet.ext_mem
  intro other
  by_cases holds : test fact <;> simp [holds] <;> grind

theorem filter_erase (facts : FactSet) (fact : Fact) (test : Fact → Bool) :
    (facts.erase fact).filter test = if test fact then (facts.filter test).erase fact else facts.filter test := by
  apply Std.ExtTreeSet.ext_mem
  intro other
  by_cases holds : test fact <;> simp [holds] <;> grind

/-- The indices of a state say the same as its facts. -/
structure Indexed (s : State) : Prop where
  signatures : Shows s.bySignature fun signature => s.facts.filter (·.signature == signature)
  entities : Shows s.byEntity fun entity => s.facts.filter (·.mentions entity)

theorem Indexed.empty (kb : KnowledgeBase) : (State.empty kb).Indexed := by
  have none (test : Fact → Bool) : shown ((∅ : FactSet).filter test) = .none := by
    have nothing : (∅ : FactSet).filter test = ∅ := by
      apply Std.ExtTreeSet.ext_mem
      simp
    simp [nothing, shown]
  constructor <;> intro key <;> simp [State.empty, none]

theorem Indexed.insert {s : State} (indexed : s.Indexed) (fact : Fact) : (s.insert fact).Indexed := by
  unfold State.insert
  split
  · exact indexed
  · constructor
    · intro signature
      have entered := indexed.signatures.enter fact fact.signature signature
      dsimp only at entered ⊢
      rw [entered, filter_insert]
      by_cases same : fact.signature = signature
      · simp [same]
      · simp [same, Ne.symm same]
    · intro entity
      have entered := indexed.entities.foldl (·.insert fact) (fun shows => shows.enter fact)
        (insert_insert · fact) fact.arguments entity
      dsimp only at entered ⊢
      rw [entered, filter_insert]
      by_cases mentioned : entity ∈ fact.arguments <;> simp [Fact.mentions, mentioned]

theorem Indexed.erase {s : State} (indexed : s.Indexed) (fact : Fact) : (s.erase fact).Indexed := by
  unfold State.erase
  split
  · constructor
    · intro signature
      have struck := indexed.signatures.strike fact fact.signature signature
      dsimp only at struck ⊢
      rw [struck, filter_erase]
      by_cases same : fact.signature = signature
      · simp [same]
      · simp [same, Ne.symm same]
    · intro entity
      have struck := indexed.entities.foldl (·.erase fact) (fun shows => shows.strike fact)
        (erase_erase · fact) fact.arguments entity
      dsimp only at struck ⊢
      rw [struck, filter_erase]
      by_cases mentioned : entity ∈ fact.arguments <;> simp [Fact.mentions, mentioned]
  · exact indexed

theorem Indexed.insertAll {s : State} (indexed : s.Indexed) (facts : List Fact) : (s.insertAll facts).Indexed := by
  induction facts generalizing s with
  | nil => exact indexed
  | cons fact facts ih => exact ih (indexed.insert fact)

theorem Indexed.eraseAll {s : State} (indexed : s.Indexed) (facts : List Fact) : (s.eraseAll facts).Indexed := by
  induction facts generalizing s with
  | nil => exact indexed
  | cons fact facts ih => exact ih (indexed.erase fact)

/-- The facts of a state determine its indices. -/
theorem Indexed.ext {s t : State} (indexed : s.Indexed) (other : t.Indexed) (kb : s.kb = t.kb)
    (facts : s.facts = t.facts) : s = t := by
  have signatures : s.bySignature = t.bySignature := by
    apply Std.ExtTreeMap.ext_getElem?
    intro signature
    rw [indexed.signatures signature, other.signatures signature, facts]
  have entities : s.byEntity = t.byEntity := by
    apply Std.ExtTreeMap.ext_getElem?
    intro entity
    rw [indexed.entities entity, other.entities entity, facts]
  cases s
  cases t
  simp_all only

theorem predicate_ne_of_before {signature : Signature} {predicate : String}
    (before : compare signature ⟨predicate, []⟩ = .lt) : signature.predicate ≠ predicate := by
  rintro rfl
  rcases Ordering.then_eq_lt.mp before with lower | ⟨-, shorter⟩
  · exact absurd lower (by simp [compareOn])
  · cases types : signature.types with
    | nil => simp [compareOn, types] at shorter
    | cons => simp [compareOn, types, compare, List.compareLex] at shorter

/-- A signature of another predicate that does not come before those of a predicate comes after all of them. -/
theorem predicate_lt_of_after {signature : Signature} {predicate : String}
    (after : compare signature ⟨predicate, []⟩ ≠ .lt) (other : signature.predicate ≠ predicate) :
    compare predicate signature.predicate = .lt := by
  cases order : compare signature.predicate predicate with
  | lt => exact absurd (Ordering.then_eq_lt.mpr (.inl order)) after
  | eq => exact absurd (Std.LawfulEqOrd.eq_of_compare order) other
  | gt => exact Std.OrientedCmp.gt_iff_lt.mp order

/-- A scan of an index meets all signatures of a predicate, from the first of them to the last. -/
theorem scan_eq_filter {entries : List (Signature × FactSet)} (predicate : String)
    (ordered : entries.Pairwise fun a b => compare a.1 b.1 = .lt) :
    ((entries.dropWhile fun entry => (compare entry.1 ⟨predicate, []⟩).isLT).takeWhile fun entry =>
      entry.1.predicate == predicate) = entries.filter fun entry => entry.1.predicate == predicate := by
  induction entries with
  | nil => rfl
  | cons entry rest ih =>
    obtain ⟨above, ordered⟩ := List.pairwise_cons.mp ordered
    by_cases before : compare entry.1 ⟨predicate, []⟩ = .lt
    · have other := predicate_ne_of_before before
      rw [List.dropWhile_cons_of_pos (by simp [before]), ih ordered, List.filter_cons_of_neg (by simpa using other)]
    · rw [List.dropWhile_cons_of_neg (by simpa [Ordering.isLT_iff_eq_lt] using before)]
      by_cases named : entry.1.predicate = predicate
      · -- What follows a signature of the predicate is not before it either, so nothing more is dropped.
        have still : (rest.dropWhile fun entry => (compare entry.1 ⟨predicate, []⟩).isLT) = rest := by
          cases rest with
          | nil => rfl
          | cons next =>
            refine List.dropWhile_cons_of_neg fun early => before ?_
            exact Std.TransCmp.lt_trans (above next List.mem_cons_self) (Ordering.isLT_iff_eq_lt.mp early)
        rw [List.takeWhile_cons_of_pos (by simpa using named), List.filter_cons_of_pos (by simpa using named),
          ← ih ordered, still]
      · have past := predicate_lt_of_after before named
        rw [List.takeWhile_cons_of_neg (by simpa using named), List.filter_cons_of_neg (by simpa using named)]
        refine (List.filter_eq_nil_iff.mpr fun next later same => ?_).symm
        rcases Ordering.then_eq_lt.mp (above next later) with lower | ⟨equal, -⟩
        · have climb := Std.TransCmp.lt_trans past lower
          simp [beq_iff_eq.mp same] at climb
        · rw [← beq_iff_eq.mp same] at past
          exact absurd (Std.LawfulEqOrd.eq_of_compare equal ▸ past) (by simp)

theorem factsNamed_eq (s : State) (predicate : String) : s.factsNamed predicate =
    (s.bySignature.toList.filter fun entry => entry.1.predicate == predicate).flatMap fun entry => entry.2.toList := by
  rw [← scan_eq_filter predicate Std.ExtTreeMap.ordered_keys_toList]
  rfl

theorem Indexed.mem_factsNamed {s : State} (indexed : s.Indexed) {predicate : String} {fact : Fact} :
    fact ∈ s.factsNamed predicate ↔ fact ∈ s.facts ∧ fact.predicate = predicate := by
  simp only [factsNamed_eq, List.mem_flatMap, List.mem_filter, Prod.exists,
    Std.ExtTreeMap.mem_toList_iff_getElem?_eq_some, beq_iff_eq]
  constructor
  · rintro ⟨signature, found, ⟨listed, same⟩, member⟩
    rw [indexed.signatures signature, shown_eq_some_iff] at listed
    rw [Std.ExtTreeSet.mem_toList, listed.1] at member
    simp only [Std.ExtTreeSet.mem_filter, Std.ExtTreeSet.get_eq, beq_iff_eq, exists_prop] at member
    exact ⟨member.1, by rw [← same, ← member.2]; rfl⟩
  · rintro ⟨member, rfl⟩
    have listed : fact ∈ s.facts.filter (·.signature == fact.signature) := by simpa using member
    have shows := (indexed.signatures fact.signature).trans (shown_eq_some_iff.mpr ⟨rfl, fact, listed⟩)
    exact ⟨fact.signature, _, ⟨shows, rfl⟩, Std.ExtTreeSet.mem_toList.mpr listed⟩

theorem Indexed.nodup_factsNamed {s : State} (indexed : s.Indexed) (predicate : String) :
    (s.factsNamed predicate).Nodup := by
  have member {entry : Signature × FactSet} (listed : entry ∈ s.bySignature.toList) {fact : Fact}
      (among : fact ∈ entry.2.toList) : fact.signature = entry.1 := by
    have shows := (indexed.signatures entry.1).symm.trans (Std.ExtTreeMap.mem_toList_iff_getElem?_eq_some.mp listed)
    rw [(shown_eq_some_iff.mp shows).1] at among
    simpa using (Std.ExtTreeSet.mem_filter.mp (Std.ExtTreeSet.mem_toList.mp among)).2
  rw [factsNamed_eq, List.nodup_flatMap]
  refine ⟨fun entry _ => SortedSet.nodup_toList entry.2, List.Pairwise.filter _ ?_⟩
  refine Std.ExtTreeMap.distinct_keys_toList.imp_of_mem fun {a b} listedA listedB different => ?_
  intro fact inA inB
  rw [← member listedA inA, ← member listedB inB] at different
  simp at different

/-- The facts found under an entity are the facts that mention it. -/
theorem Indexed.byEntity_eq_some {s : State} (indexed : s.Indexed) {entity : Entity} {found : FactSet}
    (listed : s.byEntity[entity]? = some found) {fact : Fact} :
    fact ∈ found ↔ fact ∈ s.facts ∧ entity ∈ fact.arguments := by
  rw [indexed.entities entity, shown_eq_some_iff] at listed
  rw [listed.1]
  simp [Fact.mentions]

theorem nodup_entities (s : State) : s.entities.Nodup := SortedMap.nodup_keys s.byEntity

theorem Indexed.mem_entities {s : State} (indexed : s.Indexed) {entity : Entity} :
    entity ∈ s.entities ↔ ∃ fact ∈ s.facts, entity ∈ fact.arguments := by
  rw [State.entities, Std.ExtTreeMap.mem_keys, Std.ExtTreeMap.mem_iff_isSome_getElem?, Option.isSome_iff_exists]
  constructor
  · rintro ⟨found, listed⟩
    have occupied := (shown_eq_some_iff.mp ((indexed.entities entity).symm.trans listed)).2
    simpa [Fact.mentions] using occupied
  · rintro ⟨fact, member, mentioned⟩
    refine ⟨_, (indexed.entities entity).trans (shown_eq_some_iff.mpr ⟨rfl, fact, ?_⟩)⟩
    simpa [Fact.mentions] using ⟨member, mentioned⟩

end Adventure.State
