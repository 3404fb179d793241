import Adventure.Proofs.Matching.Unification
import Adventure.Proofs.State.Indices
import Adventure.State.Matching

namespace Adventure

theorem smallest_mem {sets : List FactSet} {found : FactSet} (least : smallest sets = some found) :
    found ∈ sets := by
  induction sets generalizing found with
  | nil => cases least
  | cons set rest ih =>
    unfold smallest at least
    split at least
    next other below =>
      split at least
      · cases least
        exact List.mem_cons_of_mem set (ih below)
      · cases least
        exact List.mem_cons_self ..
    next =>
      cases least
      exact List.mem_cons_self ..

theorem smallest_eq_none {sets : List FactSet} (none : smallest sets = none) : sets = [] := by
  cases sets with
  | nil => rfl
  | cons set rest =>
    unfold smallest at none
    split at none
    · split at none <;> cases none
    · cases none

theorem mem_dropRepeats {α : Type} [DecidableEq α] {xs : List α} {x : α} : x ∈ dropRepeats xs ↔ x ∈ xs := by
  induction xs using dropRepeats.induct with
  | case1 y rest ih => simp [dropRepeats, ih]
  | case2 y z rest different ih => simp [dropRepeats, different, ih]
  | case3 short few =>
    cases short with
    | nil => rfl
    | cons y rest =>
      cases rest with
      | nil => rfl
      | cons z rest => exact absurd rfl (few y z rest)

/-- A search of elements in turn gives the first results of all, if it gives the first results of each. -/
theorem gather_eq_take {α β : Type} {search : Nat → α → List β} {full : α → List β}
    (each : ∀ wanted x, search wanted x = (full x).take wanted) (wanted : Nat) (xs : List α) :
    gather search wanted xs = (xs.flatMap full).take wanted := by
  induction xs generalizing wanted with
  | nil => cases wanted <;> simp [gather]
  | cons x xs ih =>
    cases wanted with
    | zero => simp [gather]
    | succ wanted =>
      rw [gather, ih, each, List.flatMap_cons, List.take_append, List.length_take]
      congr 2
      omega

namespace State

/-- A binding under which some patterns are facts of a state, made from another one by binding the placeholders
of the patterns. -/
structure Solves (s : State) (patterns : List Pattern) (start final : Binding) : Prop where
  extension : start.Extends s.kb.types final (patterns.flatMap Pattern.parameters)
  holds : ∀ pattern ∈ patterns, ∃ fact ∈ s.facts, pattern.ground final = some fact

variable {s : State} {start middle final : Binding} {patterns rest : List Pattern} {pattern : Pattern}

theorem Solves.congr {others : List Pattern} (solves : s.Solves patterns start final)
    (same : ∀ pattern, pattern ∈ patterns ↔ pattern ∈ others) : s.Solves others start final where
  extension := solves.extension.congr fun p => by simp only [List.mem_flatMap, same]
  holds pattern here := solves.holds pattern ((same pattern).mpr here)

theorem solves_nil_iff : s.Solves [] start final ↔ final = start := by
  constructor
  · intro solves
    exact solves.extension.unique (.refl _ start) (by simp)
  · rintro rfl
    exact ⟨.refl _ final, by simp⟩

theorem solves_singleton_iff : s.Solves [pattern] start final ↔
    ∃ fact ∈ s.facts, pattern.unify s.kb.types fact start = some final := by
  simp only [Pattern.unify_eq_some_iff]
  constructor
  · intro solves
    obtain ⟨fact, member, ground⟩ := solves.holds pattern (List.mem_singleton_self pattern)
    exact ⟨fact, member, by simpa using solves.extension, ground⟩
  · rintro ⟨fact, member, extension, ground⟩
    exact ⟨by simpa using extension, by simpa using ⟨fact, member, ground⟩⟩

/-- Patterns are solved one after the other. -/
theorem solves_cons_iff : s.Solves (pattern :: rest) start final ↔
    ∃ middle, s.Solves [pattern] start middle ∧ s.Solves rest middle final := by
  constructor
  · intro solves
    obtain ⟨middle, first, second⟩ := Binding.Extends.split solves.extension
    refine ⟨middle, ⟨by simpa using first, ?_⟩, second, fun other here => solves.holds other (.tail _ here)⟩
    intro other here
    cases List.mem_singleton.mp here
    obtain ⟨fact, member, ground⟩ := solves.holds pattern (List.mem_cons_self ..)
    refine ⟨fact, member, ?_⟩
    rwa [← Pattern.ground_eq_of_extends second fun p listed => (first.bound p).mpr (.inr listed)]
  · rintro ⟨middle, first, second⟩
    have early : start.Extends s.kb.types middle pattern.parameters := by simpa using first.extension
    refine ⟨early.trans second.extension, ?_⟩
    intro other here
    rcases List.mem_cons.mp here with rfl | later
    · obtain ⟨fact, member, ground⟩ := first.holds other (List.mem_singleton_self other)
      refine ⟨fact, member, ?_⟩
      rwa [Pattern.ground_eq_of_extends second.extension fun p listed => (early.bound p).mpr (.inr listed)]
    · exact second.holds other later

theorem mem_of_mem_candidates (indexed : s.Indexed) {fact : Fact} (candidate : fact ∈ s.candidates pattern start) :
    fact ∈ s.facts := by
  unfold candidates at candidate
  split at candidate
  · exact (indexed.mem_factsNamed.mp candidate).1
  · split at candidate
    next found least =>
      obtain ⟨entity, _, listed⟩ := List.mem_filterMap.mp (smallest_mem least)
      rw [List.mem_filter, Std.ExtTreeSet.mem_toList] at candidate
      exact ((indexed.byEntity_eq_some listed).mp candidate.1).1
    next => simp at candidate

/-- No fact that a pattern can be unified with is left out of the candidates. -/
theorem mem_candidates (indexed : s.Indexed) {fact : Fact} (member : fact ∈ s.facts)
    (unified : pattern.unify s.kb.types fact start = some final) : fact ∈ s.candidates pattern start := by
  obtain ⟨extension, ground⟩ := Pattern.unify_eq_some_iff.mp unified
  have named : pattern.predicate = fact.predicate := (Pattern.ground_eq_some_iff.mp ground).1
  have mentions (entity : Entity) (bound : entity ∈ pattern.parameters.filterMap (start[·]?)) :
      entity ∈ fact.arguments := by
    obtain ⟨p, listed, here⟩ := List.mem_filterMap.mp bound
    exact Pattern.mem_arguments ground listed (extension.keeps p entity here)
  unfold candidates
  split
  next => exact indexed.mem_factsNamed.mpr ⟨member, named.symm⟩
  next _ occupied =>
    split
    next found least =>
      obtain ⟨entity, here, listed⟩ := List.mem_filterMap.mp (smallest_mem least)
      rw [List.mem_filter, Std.ExtTreeSet.mem_toList]
      exact ⟨(indexed.byEntity_eq_some listed).mpr ⟨member, mentions entity here⟩, by simp [named]⟩
    next none =>
      -- a bound entity that the fact mentions is known, so the sets to choose from are not empty
      obtain ⟨entity, here⟩ := List.exists_mem_of_ne_nil _ occupied
      have known := indexed.mem_entities.mpr ⟨fact, member, mentions entity here⟩
      rw [State.entities, Std.ExtTreeMap.mem_keys, Std.ExtTreeMap.mem_iff_isSome_getElem?,
        Option.isSome_iff_exists] at known
      obtain ⟨found, listed⟩ := known
      have among := List.mem_filterMap.mpr ⟨entity, here, listed⟩
      simp [smallest_eq_none none] at among

theorem mem_matches?_iff (indexed : s.Indexed) : final ∈ s.matches? start pattern ↔ s.Solves [pattern] start final := by
  rw [matches?, List.mem_filterMap, solves_singleton_iff]
  constructor
  · rintro ⟨fact, candidate, unified⟩
    exact ⟨fact, mem_of_mem_candidates indexed candidate, unified⟩
  · rintro ⟨fact, member, unified⟩
    exact ⟨fact, mem_candidates indexed member unified, unified⟩

/-- The tightest pattern is one of the patterns, and all the others are left. -/
theorem tightest_eq_some {found : List Binding} (chosen : s.tightest start patterns = some (found, rest)) :
    ∃ pattern, found = s.matches? start pattern ∧ (pattern :: rest).Perm patterns := by
  induction patterns generalizing found rest with
  | nil => cases chosen
  | cons first others ih =>
    unfold tightest at chosen
    split at chosen
    next none =>
      cases chosen
      exact ⟨first, none.symm, .refl _⟩
    next =>
      split at chosen
      next fewer left below =>
        split at chosen
        · cases chosen
          obtain ⟨pattern, same, perm⟩ := ih below
          exact ⟨pattern, same, (List.Perm.swap first pattern left).trans (perm.cons first)⟩
        · cases chosen
          exact ⟨first, rfl, .refl _⟩
      next =>
        cases chosen
        exact ⟨first, rfl, .refl _⟩

theorem tightest_eq_none (none : s.tightest start patterns = none) : patterns = [] := by
  cases patterns with
  | nil => rfl
  | cons first others =>
    unfold tightest at none
    split at none
    · cases none
    · split at none
      · split at none <;> cases none
      · cases none

/-- However the patterns are ordered on the way, the join gives all their solutions and nothing else. -/
theorem mem_join_iff (indexed : s.Indexed) {count : Nat} (length : patterns.length = count) :
    final ∈ s.join count patterns start ↔ s.Solves patterns start final := by
  induction count generalizing patterns start with
  | zero =>
    cases List.length_eq_zero_iff.mp length
    rw [join, List.mem_singleton, solves_nil_iff]
  | succ count ih =>
    rw [join]
    split
    next found rest chosen =>
      obtain ⟨pattern, rfl, perm⟩ := tightest_eq_some chosen
      have left : rest.length = count := by
        have total := perm.length_eq
        rw [List.length_cons] at total
        omega
      have reordered : s.Solves patterns start final ↔ s.Solves (pattern :: rest) start final :=
        ⟨fun solves => solves.congr fun p => perm.symm.mem_iff, fun solves => solves.congr fun p => perm.mem_iff⟩
      rw [reordered, solves_cons_iff, List.mem_flatMap]
      simp only [mem_matches?_iff indexed, ih left]
    next none =>
      cases tightest_eq_none none
      cases length

theorem mem_matchAll_iff (indexed : s.Indexed) :
    final ∈ s.matchAll patterns start ↔ s.Solves patterns start final := by
  rw [matchAll, mem_join_iff indexed rfl]
  exact ⟨fun solves => solves.congr fun _ => mem_dropRepeats, fun solves => solves.congr fun _ => mem_dropRepeats.symm⟩

theorem joinUpTo_eq_take (count wanted : Nat) :
    s.joinUpTo count patterns wanted start = (s.join count patterns start).take wanted := by
  induction count generalizing patterns start wanted with
  | zero => rw [joinUpTo, join]
  | succ count ih =>
    rw [joinUpTo, join]
    split
    next found rest _ =>
      apply gather_eq_take
      intro wanted start
      exact ih wanted
    next => rfl

/-- A limited search gives the first of all matches. -/
theorem matchUpTo_eq_take (wanted : Nat) :
    s.matchUpTo wanted patterns start = (s.matchAll patterns start).take wanted :=
  joinUpTo_eq_take _ wanted

/-- A constraint is violated exactly if its patterns have a common solution. -/
theorem violates_iff (indexed : s.Indexed) {constraint : Constraint} :
    s.violates constraint = true ↔ ∃ binding, s.Solves constraint.patterns ∅ binding := by
  rw [violates, matchUpTo_eq_take, Bool.not_eq_true', List.isEmpty_eq_false_iff_exists_mem]
  constructor
  · rintro ⟨binding, found⟩
    exact ⟨binding, (mem_matchAll_iff indexed).mp (List.mem_of_mem_take found)⟩
  · rintro ⟨binding, solves⟩
    have found := (mem_matchAll_iff indexed).mpr solves
    obtain ⟨first, others, all⟩ := List.exists_cons_of_ne_nil (List.ne_nil_of_mem found)
    exact ⟨first, by simp [all]⟩

end State

end Adventure
