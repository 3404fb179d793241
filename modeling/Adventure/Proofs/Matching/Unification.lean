import Adventure.Proofs.Matching.Extension

namespace Adventure

namespace Binding

variable {types : TypeHierarchy} {start final : Binding} {p : Placeholder} {e : Entity}

theorem Extends.again (descends : types.descends e.type p.type = true) (here : start[p]? = some e) :
    Extends types start start [p] where
  keeps _ _ value := value
  bound q := by
    have bound : p ∈ start := SortedMap.mem_iff.mpr ⟨e, here⟩
    rw [List.mem_singleton]
    exact ⟨.inl, fun either => either.elim id fun same => same ▸ bound⟩
  typed q listed f atQ := by
    cases List.mem_singleton.mp listed
    rw [here] at atQ
    cases atQ
    exact descends
  apart _ unbound _ f atQ := absurd (SortedMap.mem_iff.mpr ⟨f, atQ⟩) unbound

theorem Extends.insert (descends : types.descends e.type p.type = true) (unbound : p ∉ start)
    (unused : ¬ start.uses e = true) : Extends types start (start.insert p e) [p] := by
  have value (q : Placeholder) : (start.insert p e)[q]? = if p = q then some e else start[q]? := by
    simp [Std.ExtTreeMap.getElem?_insert]
  refine ⟨?_, ?_, ?_, ?_⟩
  · intro q f here
    have different : p ≠ q := by
      rintro rfl
      exact unbound (SortedMap.mem_iff.mpr ⟨f, here⟩)
    rw [value, if_neg different, here]
  · intro q
    rw [Std.ExtTreeMap.mem_insert, Std.LawfulEqOrd.compare_eq_iff_eq, List.mem_singleton, eq_comm, or_comm]
  · intro q listed f here
    cases List.mem_singleton.mp listed
    rw [value, if_pos rfl] at here
    cases here
    exact descends
  · intro q new r f atQ atR
    rw [value] at atQ atR
    split at atQ
    next same =>
      cases atQ
      split at atR
      next also => rw [← also, same]
      next => exact absurd (uses_iff.mpr ⟨r, atR⟩) unused
    next => exact absurd (SortedMap.mem_iff.mpr ⟨f, atQ⟩) new

/-- A new placeholder stands for an entity that was not in use. -/
theorem Extends.unused {ps : List Placeholder} (extension : Extends types start final ps) (unbound : p ∉ start)
    (here : final[p]? = some e) : ¬ start.uses e = true := by
  intro used
  obtain ⟨q, atQ⟩ := uses_iff.mp used
  cases extension.apart p unbound q e here (extension.keeps q e atQ)
  exact unbound (SortedMap.mem_iff.mpr ⟨e, atQ⟩)

theorem Extends.eq_insert (extension : Extends types start final [p]) (unbound : p ∉ start)
    (here : final[p]? = some e) : final = start.insert p e := by
  have descends := extension.typed p (List.mem_singleton_self p) e here
  apply extension.unique (.insert descends unbound (extension.unused unbound here))
  intro q listed
  cases List.mem_singleton.mp listed
  simp [here]

theorem Extends.of_bind (run : start.bind types p e = some final) :
    Extends types start final [p] ∧ final[p]? = some e := by
  unfold bind at run
  split at run
  next descends =>
    split at run
    next bound here =>
      split at run
      next same =>
        cases run
        rw [same] at here
        exact ⟨.again descends here, here⟩
      next => cases run
    next nowhere =>
      split at run
      next => cases run
      next unused =>
        cases run
        have unbound : p ∉ start := by simp [SortedMap.mem_iff, nowhere]
        exact ⟨.insert descends unbound unused, by simp⟩
  next => cases run

/-- Binding a placeholder gives the extension by it, whenever there is one. -/
theorem bind_eq_some_iff :
    start.bind types p e = some final ↔ Extends types start final [p] ∧ final[p]? = some e := by
  refine ⟨Extends.of_bind, ?_⟩
  rintro ⟨extension, here⟩
  have descends := extension.typed p (List.mem_singleton_self p) e here
  unfold bind
  rw [if_pos descends]
  split
  next before earlier =>
    have same := extension.keeps p before earlier
    rw [here] at same
    cases same
    rw [if_pos rfl, extension.unique (.again descends earlier)]
    intro q listed
    rw [List.mem_singleton.mp listed, here, earlier]
  next nowhere =>
    have unbound : p ∉ start := by simp [SortedMap.mem_iff, nowhere]
    rw [if_neg (extension.unused unbound here), extension.eq_insert unbound here]

theorem bindAll_eq_some_iff {ps : List Placeholder} {es : List Entity} :
    start.bindAll types ps es = some final ↔
      Extends types start final ps ∧ ps.map (final[·]?) = es.map some := by
  induction ps generalizing start es with
  | nil =>
    cases es with
    | nil =>
      simp only [bindAll, Option.some.injEq, List.map_nil, and_true]
      refine ⟨fun same => same ▸ .refl types start, fun extension => ?_⟩
      exact (Extends.refl types start).unique extension (by simp)
    | cons e es => simp [bindAll]
  | cons p ps ih =>
    cases es with
    | nil => simp [bindAll]
    | cons e es =>
      rw [bindAll]
      constructor
      · intro run
        split at run
        next middle first =>
          obtain ⟨here, atP⟩ := bind_eq_some_iff.mp first
          obtain ⟨rest, values⟩ := ih.mp run
          refine ⟨here.trans rest, ?_⟩
          rw [List.map_cons, List.map_cons, values, rest.keeps p e atP]
        next => cases run
      · rintro ⟨extension, values⟩
        obtain ⟨middle, here, rest⟩ := Extends.split (show Extends types start final ([p] ++ ps) from extension)
        obtain ⟨atP, others⟩ := List.cons.inj values
        have bound : p ∈ middle := (here.bound p).mpr (.inr (List.mem_singleton_self p))
        rw [bind_eq_some_iff.mpr ⟨here, rest.back bound atP⟩]
        exact ih.mpr ⟨rest, others⟩

/-- Different placeholders can stand for different entities of fitting types. -/
theorem exists_extends {ps : List Placeholder} {es : List Entity} (different : ps.Nodup) (apart : es.Nodup)
    (unbound : ∀ p ∈ ps, p ∉ start) (unused : ∀ e ∈ es, ¬ start.uses e = true) (length : ps.length = es.length)
    (typed : ∀ pair ∈ ps.zip es, types.descends pair.2.type pair.1.type = true) :
    ∃ final, Extends types start final ps ∧ ps.map (final[·]?) = es.map some := by
  induction ps generalizing start es with
  | nil =>
    cases List.length_eq_zero_iff.mp length.symm
    exact ⟨start, .refl types start, rfl⟩
  | cons p ps ih =>
    obtain ⟨e, es, rfl⟩ := List.exists_cons_of_length_eq_add_one length.symm
    obtain ⟨absent, different⟩ := List.nodup_cons.mp different
    obtain ⟨single, apart⟩ := List.nodup_cons.mp apart
    have value (q : Placeholder) : (start.insert p e)[q]? = if p = q then some e else start[q]? := by
      simp [Std.ExtTreeMap.getElem?_insert]
    have first : Extends types start (start.insert p e) [p] :=
      .insert (typed (p, e) List.mem_cons_self) (unbound p List.mem_cons_self) (unused e List.mem_cons_self)
    have unboundRest : ∀ q ∈ ps, q ∉ start.insert p e := by
      intro q listed bound
      rcases (first.bound q).mp bound with early | same
      · exact unbound q (List.mem_cons_of_mem p listed) early
      · exact absent (List.mem_singleton.mp same ▸ listed)
    have unusedRest : ∀ f ∈ es, ¬ uses (start.insert p e) f = true := by
      intro f listed used
      obtain ⟨q, atQ⟩ := uses_iff.mp used
      rw [value] at atQ
      split at atQ
      next =>
        cases atQ
        exact single listed
      next => exact unused f (List.mem_cons_of_mem e listed) (uses_iff.mpr ⟨q, atQ⟩)
    obtain ⟨final, rest, values⟩ := ih different apart unboundRest unusedRest (Nat.succ.inj length)
      fun pair listed => typed pair (List.mem_cons_of_mem _ listed)
    refine ⟨final, first.trans rest, ?_⟩
    rw [List.map_cons, List.map_cons, values, rest.keeps p e (by rw [value, if_pos rfl])]

end Binding

theorem mapM_eq_some_iff {α β : Type} {f : α → Option β} {xs : List α} {ys : List β} :
    xs.mapM f = some ys ↔ xs.map f = ys.map some := by
  induction xs generalizing ys with
  | nil => cases ys <;> simp
  | cons x xs ih =>
    rw [List.mapM_cons]
    cases here : f x with
    | none => cases ys <;> simp [here]
    | some y =>
      cases rest : xs.mapM f with
      | none =>
        have stuck (zs : List β) : xs.map f ≠ zs.map some := fun same => by simp [ih.mpr same] at rest
        cases ys <;> simp [here, stuck]
      | some zs =>
        rw [ih] at rest
        cases ys <;> simp [here, rest, List.map_inj_right]

theorem exists_map_some {α β : Type} {f : α → Option β} {xs : List α} (all : ∀ x ∈ xs, ∃ y, f x = some y) :
    ∃ ys : List β, xs.map f = ys.map some := by
  induction xs with
  | nil => exact ⟨[], rfl⟩
  | cons x xs ih =>
    obtain ⟨here, others⟩ := List.forall_mem_cons.mp all
    obtain ⟨y, found⟩ := here
    obtain ⟨ys, rest⟩ := ih others
    exact ⟨y :: ys, by rw [List.map_cons, List.map_cons, found, rest]⟩

namespace Pattern

theorem ground_eq_some_iff {pattern : Pattern} {binding : Binding} {fact : Fact} :
    pattern.ground binding = some fact ↔
      pattern.predicate = fact.predicate ∧ pattern.parameters.map (binding[·]?) = fact.arguments.map some := by
  cases fact with
  | mk predicate arguments =>
    rw [ground, Option.map_eq_some_iff]
    constructor
    · rintro ⟨es, values, same⟩
      cases same
      exact ⟨rfl, mapM_eq_some_iff.mp values⟩
    · rintro ⟨rfl, values⟩
      exact ⟨arguments, mapM_eq_some_iff.mpr values, rfl⟩

theorem mem_arguments {pattern : Pattern} {binding : Binding} {fact : Fact} {p : Placeholder} {e : Entity}
    (ground : pattern.ground binding = some fact) (listed : p ∈ pattern.parameters)
    (here : binding[p]? = some e) : e ∈ fact.arguments := by
  have values := (ground_eq_some_iff.mp ground).2
  have among : some e ∈ pattern.parameters.map (binding[·]?) := List.mem_map.mpr ⟨p, listed, here⟩
  simpa [values] using among

theorem exists_of_mem_arguments {pattern : Pattern} {binding : Binding} {fact : Fact} {e : Entity}
    (ground : pattern.ground binding = some fact) (mentioned : e ∈ fact.arguments) :
    ∃ p ∈ pattern.parameters, binding[p]? = some e := by
  have values := (ground_eq_some_iff.mp ground).2
  have among : some e ∈ pattern.parameters.map (binding[·]?) := values ▸ List.mem_map_of_mem mentioned
  exact List.mem_map.mp among

theorem ground_congr {pattern : Pattern} {binding other : Binding}
    (same : ∀ p ∈ pattern.parameters, binding[p]? = other[p]?) : pattern.ground binding = pattern.ground other := by
  apply Option.ext
  intro fact
  rw [ground_eq_some_iff, ground_eq_some_iff, List.map_congr_left same]

theorem ground_eq_of_extends {types : TypeHierarchy} {start final : Binding} {ps : List Placeholder}
    {pattern : Pattern} (extension : start.Extends types final ps) (bound : ∀ p ∈ pattern.parameters, p ∈ start) :
    pattern.ground final = pattern.ground start := by
  apply ground_congr
  intro p listed
  obtain ⟨e, here⟩ := SortedMap.mem_iff.mp (bound p listed)
  rw [here, extension.keeps p e here]

theorem exists_ground {pattern : Pattern} {binding : Binding}
    (bound : ∀ p ∈ pattern.parameters, p ∈ binding) : ∃ fact, pattern.ground binding = some fact := by
  obtain ⟨es, values⟩ := exists_map_some fun p listed => SortedMap.mem_iff.mp (bound p listed)
  exact ⟨⟨pattern.predicate, es⟩, ground_eq_some_iff.mpr ⟨rfl, values⟩⟩

/-- To unify a pattern with a fact is to extend the binding by its placeholders so that it stands for the fact. -/
theorem unify_eq_some_iff {types : TypeHierarchy} {pattern : Pattern} {fact : Fact} {start final : Binding} :
    pattern.unify types fact start = some final ↔
      start.Extends types final pattern.parameters ∧ pattern.ground final = some fact := by
  rw [ground_eq_some_iff, unify]
  split
  next same => simp [Binding.bindAll_eq_some_iff, same]
  next different => simp [different]

end Pattern

end Adventure
