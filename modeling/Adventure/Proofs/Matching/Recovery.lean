import Adventure.Proofs.Core.Aspects

namespace Adventure

/-- A choice of entities for the placeholders of a rule, and of them alone: each stands for an entity of a fitting type,
and no two stand for the same one. -/
structure Binding.Suits (types : TypeHierarchy) (rule : Rule) (binding : Binding) : Prop where
  domain : ∀ p, p ∈ binding ↔ p ∈ rule.placeholders
  typed : ∀ (p : Placeholder) (e : Entity), binding[p]? = some e → types.descends e.type p.type = true
  injective : binding.Injective

namespace Rule

variable {types : TypeHierarchy} {rule : Rule} {action : Action} {binding start final : Binding}
  {facts : List Fact} {patterns rest : List Pattern} {pattern : Pattern}

/-- To suit a rule is to be made from nothing by binding the placeholders of the two sides of the rule in turn. -/
theorem suits_iff_extends : binding.Suits types rule ↔
    (∅ : Binding).Extends types binding
      (rule.before.flatMap Pattern.parameters ++ rule.after.flatMap Pattern.parameters) := by
  have listed (p : Placeholder) : p ∈ rule.placeholders ↔
      p ∈ rule.before.flatMap Pattern.parameters ++ rule.after.flatMap Pattern.parameters := by
    rw [mem_placeholders, ← List.flatMap_append, List.mem_flatMap]
  have unbound (p : Placeholder) : p ∉ (∅ : Binding) := Std.ExtTreeMap.not_mem_empty
  constructor
  · intro suits
    refine ⟨fun p e here => absurd (SortedMap.mem_iff.mpr ⟨e, here⟩) (unbound p), fun p => ?_, ?_, ?_⟩
    · rw [suits.domain, listed, or_iff_right (unbound p)]
    · exact fun p _ e => suits.typed p e
    · exact fun p _ q e atP atQ => suits.injective q p e atQ atP
  · intro extension
    have bound (p : Placeholder) : p ∈ binding ↔ _ := (extension.bound p).trans (or_iff_right (unbound p))
    refine ⟨fun p => (bound p).trans (listed p).symm, fun p e here => ?_, fun p q e atP atQ => ?_⟩
    · exact extension.typed p ((bound p).mp (SortedMap.mem_iff.mpr ⟨e, here⟩)) e here
    · exact extension.apart q (unbound q) p e atQ atP

theorem mem_unifyAll_cons : final ∈ unifyAll types facts (pattern :: rest) start ↔
    ∃ fact ∈ facts, ∃ middle, pattern.unify types fact start = some middle ∧
      final ∈ unifyAll types facts rest middle := by
  rw [unifyAll, List.mem_flatMap]
  refine exists_congr fun fact => and_congr_right fun _ => ?_
  cases pattern.unify types fact start <;> simp

/-- Unification goes through every way to make the patterns facts, and through no other. -/
theorem mem_unifyAll_iff : final ∈ unifyAll types facts patterns start ↔
    start.Extends types final (patterns.flatMap Pattern.parameters) ∧
      ∀ pattern ∈ patterns, ∃ fact ∈ facts, pattern.ground final = some fact := by
  induction patterns generalizing start with
  | nil =>
    rw [unifyAll, List.mem_singleton, List.flatMap_nil]
    constructor
    · rintro rfl
      exact ⟨.refl types final, by simp⟩
    · exact fun solved => solved.1.unique (.refl types start) (by simp)
  | cons pattern patterns ih =>
    -- What a pattern stands for after it was unified it stands for at the end.
    have settled {middle : Binding} (first : start.Extends types middle pattern.parameters)
        (later : middle.Extends types final (patterns.flatMap Pattern.parameters)) :
        pattern.ground final = pattern.ground middle :=
      Pattern.ground_eq_of_extends later fun p listed => (first.bound p).mpr (.inr listed)
    simp only [mem_unifyAll_cons, ih, Pattern.unify_eq_some_iff, List.flatMap_cons, List.forall_mem_cons]
    constructor
    · rintro ⟨fact, member, middle, ⟨first, ground⟩, later, others⟩
      exact ⟨first.trans later, ⟨fact, member, (settled first later).trans ground⟩, others⟩
    · rintro ⟨extension, ⟨fact, member, ground⟩, others⟩
      obtain ⟨middle, first, later⟩ := extension.split
      exact ⟨fact, member, middle, ⟨first, (settled first later).symm.trans ground⟩, later, others⟩

/-- A mapping that is found for an action suits the rule and gives the action. -/
theorem suits_of_matchAction (found : rule.matchAction types action = some final) :
    final.Suits types rule ∧ rule.instantiate final = .ok action := by
  unfold matchAction at found
  split at found
  next =>
    obtain ⟨partly, before, search⟩ := List.exists_of_findSome?_eq_some found
    obtain ⟨first, -⟩ := mem_unifyAll_iff.mp before
    obtain ⟨second, -⟩ := mem_unifyAll_iff.mp (List.mem_of_find?_eq_some search)
    refine ⟨suits_iff_extends.mpr (first.trans second), ?_⟩
    have accepted := List.find?_some search
    split at accepted
    next same => rw [same, eq_of_beq accepted]
    next => cases accepted
  next => cases found

/-- The search passes the choice that gave the action, if it does not end before. -/
theorem exists_matchAction (suits : binding.Suits types rule) (instantiated : rule.instantiate binding = .ok action) :
    ∃ found, rule.matchAction types action = some found := by
  obtain ⟨partly, first, second⟩ := (suits_iff_extends.mp suits).split
  have before : partly ∈ unifyAll types action.before.toList rule.before ∅ := by
    refine mem_unifyAll_iff.mpr ⟨first, fun pattern listed => ?_⟩
    have bound : ∀ p ∈ pattern.parameters, p ∈ partly := fun p parameter =>
      (first.bound p).mpr (.inr (List.mem_flatMap.mpr ⟨pattern, listed, parameter⟩))
    obtain ⟨fact, ground⟩ := Pattern.exists_ground bound
    have needed : fact ∈ action.before :=
      (mem_before instantiated).mpr ⟨pattern, listed, (Pattern.ground_eq_of_extends second bound).trans ground⟩
    exact ⟨fact, Std.ExtTreeSet.mem_toList.mpr needed, ground⟩
  have after : binding ∈ unifyAll types action.after.toList rule.after partly := by
    refine mem_unifyAll_iff.mpr ⟨second, fun pattern listed => ?_⟩
    obtain ⟨fact, ground⟩ := Pattern.exists_ground fun p parameter =>
      (suits.domain p).mpr (mem_placeholders.mpr ⟨pattern, List.mem_append_right _ listed, parameter⟩)
    exact ⟨fact, Std.ExtTreeSet.mem_toList.mpr ((mem_after instantiated).mpr ⟨pattern, listed, ground⟩), ground⟩
  rw [matchAction, if_pos (name_of_instantiate instantiated)]
  refine Option.isSome_iff_exists.mp (List.findSome?_isSome_iff.mpr ⟨partly, before, ?_⟩)
  refine List.find?_isSome.mpr ⟨binding, after, ?_⟩
  rw [instantiated]
  exact beq_self_eq_true action

/-- Whenever a choice suits a rule, the action that it gives can be traced back: a choice that suits the rule is found
for the action, and it gives the same action. -/
theorem matchAction_recovers (suits : binding.Suits types rule) :
    ∃ action, rule.instantiate binding = .ok action ∧ ∃ found, rule.matchAction types action = some found ∧
      found.Suits types rule ∧ rule.instantiate found = .ok action := by
  obtain ⟨action, instantiated⟩ := exists_instantiate fun p => (suits.domain p).mpr
  obtain ⟨found, here⟩ := exists_matchAction suits instantiated
  exact ⟨action, instantiated, found, here, suits_of_matchAction here⟩

def guest : Placeholder := ⟨"guest", "t"⟩

def host : Placeholder := ⟨"host", "t"⟩

/-- A rule that says the same of its two placeholders, so that only its command tells them apart. -/
def introduce : Rule where
  name := "introduce"
  before := [⟨"near", [guest]⟩, ⟨"near", [host]⟩]
  after := [⟨"near", [guest]⟩, ⟨"near", [host]⟩]
  template := some "introduce \x7bguest\x7d to \x7bhost\x7d"
  observational := false

/-- A choice that the search comes to only after the one with the two the other way round. -/
def introduction : Binding := SortedMap.of [(guest, ⟨"table", "s"⟩), (host, ⟨"apple", "f"⟩)]

theorem matchAction_recovers_introduction : introduction.Suits Core.types introduce ∧
    ∃ action, introduce.instantiate introduction = .ok action ∧
      ∃ found, introduce.matchAction Core.types action = some found ∧ found.Suits Core.types introduce ∧
        introduce.instantiate found = .ok action := by
  have listed : introduce.placeholders = [guest, host] := by decide
  have entries {p : Placeholder} {e : Entity} (here : introduction[p]? = some e) :
      (p, e) ∈ [(guest, ⟨"table", "s"⟩), (host, ⟨"apple", "f"⟩)] := SortedMap.mem_of_eq_some here
  have suits : introduction.Suits Core.types introduce := by
    refine ⟨fun p => ?_, fun p e here => ?_, fun p q e atP atQ => ?_⟩
    · rw [listed]
      exact SortedMap.mem_of
    · rcases List.mem_pair.mp (entries here) with same | same <;> cases same <;> decide
    · have inP := entries atP
      have inQ := entries atQ
      grind
  exact ⟨suits, matchAction_recovers suits⟩

end Rule

end Adventure
