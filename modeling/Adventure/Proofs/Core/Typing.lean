import Adventure.Proofs.Core.Aspects
import Adventure.Proofs.Logic.Descent

namespace Adventure

/-- A pattern whose placeholders fit a signature of its predicate. -/
def Pattern.Fits (pattern : Pattern) (kb : KnowledgeBase) : Prop :=
  ∃ signature ∈ kb.signatures, signature.predicate = pattern.predicate ∧
    signature.types.length = pattern.parameters.length ∧
    ∀ pair ∈ signature.types.zip pattern.parameters, kb.types.descends pair.2.type pair.1 = true

/-- A rule over declared types whose results can all be stated. -/
structure Rule.Typed (rule : Rule) (kb : KnowledgeBase) : Prop where
  declared : ∀ p ∈ rule.placeholders, kb.types.contains p.type = true
  fits : ∀ pattern ∈ rule.after, pattern.Fits kb

theorem exists_of_mem_zip {α β γ : Type} {value : β → Option γ} {types : List α} {ps : List β} {es : List γ}
    (values : ps.map value = es.map some) {pair : α × γ} (member : pair ∈ types.zip es) :
    ∃ p, (pair.1, p) ∈ types.zip ps ∧ value p = some pair.2 := by
  induction es generalizing types ps with
  | nil => simp at member
  | cons e es ih =>
    obtain ⟨p, ps, rfl, here, rest⟩ := List.map_eq_cons_iff.mp values
    cases types with
    | nil => cases member
    | cons type types =>
      rcases List.mem_cons.mp member with rfl | later
      · exact ⟨p, List.mem_cons_self, here⟩
      · obtain ⟨q, paired, there⟩ := ih rest later
        exact ⟨q, List.mem_cons_of_mem _ paired, there⟩

namespace State

variable {s : State} {rule : Rule} {binding : Binding} {action : Action} {p : Placeholder} {e : Entity}

theorem Admits.fixed_eq_some (admits : s.Admits Binding.fixed rule binding) (here : binding[p]? = some e)
    (known : p ∈ Binding.fixed) : Binding.fixed[p]? = some e := by
  obtain ⟨f, value⟩ := SortedMap.mem_iff.mp known
  have agreed := admits.agrees p ((admits.domain p).mp (SortedMap.mem_iff.mpr ⟨e, here⟩)) f value
  rw [here] at agreed
  rw [value, agreed]

/-- What a placeholder stands for is known, unless it is fixed and only the result mentions it. -/
theorem Admits.known_or_fixed (admits : s.Admits Binding.fixed rule binding) (here : binding[p]? = some e) :
    (∃ fact ∈ s.facts, e ∈ fact.arguments) ∨ p ∈ rule.resultOnly ∧ Binding.fixed[p]? = some e := by
  have listed : p ∈ rule.placeholders := (admits.domain p).mp (SortedMap.mem_iff.mpr ⟨e, here⟩)
  by_cases needed : p ∈ rule.before.flatMap Pattern.parameters
  · obtain ⟨pattern, among, parameter⟩ := List.mem_flatMap.mp needed
    obtain ⟨fact, holds, ground⟩ := admits.holds pattern among
    exact .inl ⟨fact, holds, Pattern.mem_arguments ground parameter here⟩
  · have only : p ∈ rule.resultOnly := Rule.mem_resultOnly.mpr ⟨listed, needed⟩
    by_cases known : p ∈ Binding.fixed
    · exact .inr ⟨only, admits.fixed_eq_some here known⟩
    · exact .inl (admits.known p only known e here).1

theorem Admits.descends (admits : s.Admits Binding.fixed rule binding) (here : binding[p]? = some e) :
    s.kb.types.descends e.type p.type = true := by
  have listed : p ∈ rule.placeholders := (admits.domain p).mp (SortedMap.mem_iff.mpr ⟨e, here⟩)
  by_cases needed : p ∈ rule.before.flatMap Pattern.parameters
  · obtain ⟨pattern, among, parameter⟩ := List.mem_flatMap.mp needed
    exact admits.typed pattern among p parameter e here
  · have only : p ∈ rule.resultOnly := Rule.mem_resultOnly.mpr ⟨listed, needed⟩
    by_cases known : p ∈ Binding.fixed
    · rw [(Binding.fixed_eq_some (admits.fixed_eq_some here known)).2]
      exact TypeHierarchy.descends_refl _ _
    · exact (admits.known p only known e here).2

theorem Admits.declared (admits : s.Admits Binding.fixed rule binding) (built : s.Built) (typed : rule.Typed s.kb)
    (here : binding[p]? = some e) : s.kb.types.contains e.type = true := by
  rcases admits.known_or_fixed here with ⟨fact, holds, argument⟩ | ⟨only, fixed⟩
  · exact (KnowledgeBase.checkFact_eq_ok_iff.mp (built.checked holds)).1 e argument
  · rw [← (Binding.fixed_eq_some fixed).2]
    exact typed.declared p (Rule.mem_resultOnly.mp only).1

/-- The results of a typed rule can be stated. -/
theorem Admits.checked (admits : s.Admits Binding.fixed rule binding) (built : s.Built)
    (transitive : s.kb.types.Transitive) (typed : rule.Typed s.kb) {pattern : Pattern} {fact : Fact}
    (result : pattern ∈ rule.after) (ground : pattern.ground binding = some fact) :
    s.kb.checkFact fact = .ok () := by
  obtain ⟨named, values⟩ := Pattern.ground_eq_some_iff.mp ground
  obtain ⟨signature, member, same, length, fits⟩ := typed.fits pattern result
  have lengths : pattern.parameters.length = fact.arguments.length := by
    simpa only [List.length_map] using congrArg List.length values
  refine KnowledgeBase.checkFact_eq_ok_iff.mpr ⟨?_, signature, member, same.trans named, length.trans lengths, ?_⟩
  · intro e argument
    obtain ⟨p, -, here⟩ := pattern.exists_of_mem_arguments ground argument
    exact admits.declared built typed here
  · intro pair paired
    obtain ⟨p, fitting, here⟩ := exists_of_mem_zip values paired
    exact transitive _ _ _ (admits.descends here) (fits (pair.1, p) fitting)

/-- An action of a typed rule can be taken. -/
theorem Admits.exists_apply (admits : s.Admits Binding.fixed rule binding) (built : s.Built)
    (transitive : s.kb.types.Transitive) (typed : rule.Typed s.kb)
    (instantiated : rule.instantiate binding = .ok action) : ∃ t, s.apply action = .ok (some t) := by
  refine ⟨_, apply_eq_some_iff.mpr ⟨admits.applicable instantiated, ?_, rfl⟩⟩
  intro fact added
  obtain ⟨pattern, result, ground⟩ := (Rule.mem_after instantiated).mp (Action.mem_added.mp added).1
  exact admits.checked built transitive typed result ground

end State

namespace Core

theorem types_transitive : types.Transitive := types.transitive

theorem rules_typed : ∀ rule ∈ rules, rule.Typed knowledge := by
  have declared : ∀ rule ∈ rules, ∀ p ∈ rule.placeholders, knowledge.types.contains p.type = true := by
    decide
  have fits : ∀ rule ∈ rules, ∀ pattern ∈ rule.after, pattern.Fits knowledge := by
    unfold Pattern.Fits
    decide
  exact fun rule member => ⟨declared rule member, fits rule member⟩

end Core

end Adventure
