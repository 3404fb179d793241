import Adventure.Logic.Binding
import Adventure.Proofs.Sorted

namespace Adventure

namespace Binding

theorem uses_iff {binding : Binding} {entity : Entity} :
    binding.uses entity = true ↔ ∃ placeholder : Placeholder, binding[placeholder]? = some entity := by
  rw [uses, SortedMap.any_iff]
  simp

theorem mem_filter_unbound {binding : Binding} {ps : List Placeholder} {p : Placeholder} :
    p ∈ ps.filter (!binding.contains ·) ↔ p ∈ ps ∧ p ∉ binding := by
  rw [List.mem_filter, Bool.not_eq_true', ← Bool.not_eq_true, Std.ExtTreeMap.contains_iff_mem]

/-- `final` binds some placeholders besides those that `start` binds: each of them to an entity of a descending
type, and each new one to an entity that no other placeholder stands for. -/
structure Extends (types : TypeHierarchy) (start final : Binding) (placeholders : List Placeholder) : Prop where
  keeps : ∀ (p : Placeholder) (e : Entity), start[p]? = some e → final[p]? = some e
  bound : ∀ p, p ∈ final ↔ p ∈ start ∨ p ∈ placeholders
  typed : ∀ p ∈ placeholders, ∀ e, final[p]? = some e → types.descends e.type p.type = true
  apart : ∀ p, p ∉ start → ∀ (q : Placeholder) e, final[p]? = some e → final[q]? = some e → q = p

variable {types : TypeHierarchy} {start middle final : Binding} {ps qs : List Placeholder}

theorem Extends.refl (types : TypeHierarchy) (binding : Binding) : Extends types binding binding [] where
  keeps _ _ here := here
  bound p := by simp
  typed p here := by simp at here
  apart p unbound _ e here := absurd (SortedMap.mem_iff.mpr ⟨e, here⟩) unbound

theorem Extends.congr (extension : Extends types start final ps) (same : ∀ p, p ∈ ps ↔ p ∈ qs) :
    Extends types start final qs where
  keeps := extension.keeps
  bound p := by rw [extension.bound, same]
  typed p here := extension.typed p ((same p).mpr here)
  apart := extension.apart

/-- What a placeholder stands for in between it stands for at the start of the second extension. -/
theorem Extends.back (extension : Extends types start final ps) {p : Placeholder} {e : Entity}
    (bound : p ∈ start) (here : final[p]? = some e) : start[p]? = some e := by
  obtain ⟨before, earlier⟩ := SortedMap.mem_iff.mp bound
  have later := extension.keeps p before earlier
  rw [here] at later
  rw [earlier, later]

theorem Extends.trans (first : Extends types start middle ps) (second : Extends types middle final qs) :
    Extends types start final (ps ++ qs) where
  keeps p e here := second.keeps p e (first.keeps p e here)
  bound p := by rw [second.bound, first.bound, List.mem_append, or_assoc]
  typed p here e value := by
    rcases List.mem_append.mp here with early | late
    · exact first.typed p early e (second.back ((first.bound p).mpr (.inr early)) value)
    · exact second.typed p late e value
  apart p unbound q e atP atQ := by
    by_cases early : p ∈ middle
    · by_cases also : q ∈ middle
      · exact first.apart p unbound q e (second.back early atP) (second.back also atQ)
      · exact (second.apart q also p e atQ atP).symm
    · exact second.apart p early q e atP atQ

/-- An extension by two lists of placeholders goes through the extension by the first of them. -/
theorem Extends.split (extension : Extends types start final (ps ++ qs)) :
    ∃ middle, Extends types start middle ps ∧ Extends types middle final qs := by
  let middle : Binding := final.filter fun p _ => start.contains p || ps.contains p
  have value (p : Placeholder) (e : Entity) :
      middle[p]? = some e ↔ final[p]? = some e ∧ (p ∈ start ∨ p ∈ ps) := by
    simp only [middle, Std.ExtTreeMap.getElem?_filter', Option.filter_eq_some_iff, Bool.or_eq_true,
      Std.ExtTreeMap.contains_iff_mem, List.contains_iff_mem]
  have domain (p : Placeholder) : p ∈ middle ↔ p ∈ start ∨ p ∈ ps := by
    rw [SortedMap.mem_iff]
    constructor
    · rintro ⟨e, here⟩
      exact ((value p e).mp here).2
    · intro early
      have later : p ∈ final := (extension.bound p).mpr (early.imp_right (List.mem_append_left qs))
      obtain ⟨e, here⟩ := SortedMap.mem_iff.mp later
      exact ⟨e, (value p e).mpr ⟨here, early⟩⟩
  refine ⟨middle, ⟨?_, domain, ?_, ?_⟩, ⟨?_, ?_, ?_, ?_⟩⟩
  · intro p e here
    exact (value p e).mpr ⟨extension.keeps p e here, .inl (SortedMap.mem_iff.mpr ⟨e, here⟩)⟩
  · intro p here e atP
    exact extension.typed p (List.mem_append_left qs here) e ((value p e).mp atP).1
  · intro p unbound q e atP atQ
    exact extension.apart p unbound q e ((value p e).mp atP).1 ((value q e).mp atQ).1
  · intro p e here
    exact ((value p e).mp here).1
  · intro p
    rw [extension.bound, domain, List.mem_append, or_assoc]
  · intro p here e atP
    exact extension.typed p (List.mem_append_right ps here) e atP
  · intro p unbound q e atP atQ
    have new : p ∉ start := fun early => unbound ((domain p).mpr (.inl early))
    exact extension.apart p new q e atP atQ

/-- Two extensions by the same placeholders are equal if they agree on them. -/
theorem Extends.unique {other : Binding} (extension : Extends types start final ps)
    (another : Extends types start other ps) (agree : ∀ p ∈ ps, final[p]? = other[p]?) : final = other := by
  apply Std.ExtTreeMap.ext_getElem?
  intro p
  by_cases early : p ∈ start
  · obtain ⟨e, here⟩ := SortedMap.mem_iff.mp early
    rw [extension.keeps p e here, another.keeps p e here]
  by_cases listed : p ∈ ps
  · exact agree p listed
  · have unbound : p ∉ final := fun here => ((extension.bound p).mp here).elim early listed
    have free : p ∉ other := fun here => ((another.bound p).mp here).elim early listed
    rw [Std.ExtTreeMap.getElem?_eq_none unbound, Std.ExtTreeMap.getElem?_eq_none free]

end Binding

end Adventure
