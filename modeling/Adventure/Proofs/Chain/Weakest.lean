import Adventure.Chain.Backward
import Adventure.Proofs.Matching.Exactness
import Adventure.Proofs.State.Atomicity

namespace Adventure

/-- The facts that have to hold before an action for the subgoals to hold after it: those of them that it does not add,
and what it needs. -/
def Action.required (action : Action) (subgoals : FactSet) : FactSet := (subgoals \ action.added) ∪ action.before

variable {action : Action} {subgoals needed : FactSet} {kb : KnowledgeBase} {t u : State}

theorem Action.mem_required {fact : Fact} :
    fact ∈ action.required subgoals ↔ fact ∈ subgoals ∧ fact ∉ action.added ∨ fact ∈ action.before := by
  rw [required, Std.ExtTreeSet.mem_union_iff, Std.ExtTreeSet.mem_diff_iff]

theorem Action.not_mem_of_removed {fact : Fact} (applied : t.apply action = .ok (some u))
    (removed : fact ∈ action.removed) : fact ∉ u.facts := by
  obtain ⟨needed, unkept⟩ := mem_removed.mp removed
  rw [State.mem_apply applied]
  exact fun holds => holds.elim unkept fun old => old.2 needed

/-- What is required before an action suffices for subgoals of which it removes none. -/
theorem Action.holds_of_required (applied : t.apply action = .ok (some u))
    (spared : ∀ fact ∈ action.removed, fact ∉ subgoals) (holds : ∀ fact ∈ action.required subgoals, fact ∈ t.facts) :
    ∀ fact ∈ subgoals, fact ∈ u.facts := by
  intro fact subgoal
  have kept : fact ∉ action.removed := fun removed => spared fact removed subgoal
  have before : fact ∉ action.added → fact ∈ t.facts := fun old => holds fact (mem_required.mpr (.inl ⟨subgoal, old⟩))
  rw [mem_added] at before
  rw [mem_removed] at kept
  rw [State.mem_apply applied]
  grind

/-- All that is required before an action held, if the subgoals hold after it. -/
theorem Action.required_holds (applied : t.apply action = .ok (some u))
    (reached : ∀ fact ∈ subgoals, fact ∈ u.facts) : ∀ fact ∈ action.required subgoals, fact ∈ t.facts := by
  intro fact required
  rcases mem_required.mp required with ⟨subgoal, old⟩ | needed
  · rcases (State.mem_apply applied).mp (reached fact subgoal) with result | ⟨before, -⟩
    · have needed : fact ∈ action.before := Decidable.byContradiction fun new => old (mem_added.mpr ⟨result, new⟩)
      exact State.applicable_iff.mp (State.apply_eq_some_iff.mp applied).1 fact needed
    · exact before
  · exact State.applicable_iff.mp (State.apply_eq_some_iff.mp applied).1 fact needed

namespace Backward

/-- The state in which nothing but some facts hold. -/
def probe (kb : KnowledgeBase) (facts : FactSet) : State := (State.empty kb).insertAll facts.toList

theorem ofFacts_eq_ok_iff {facts : FactSet} : State.ofFacts kb facts.toList = .ok t ↔
    (∀ fact ∈ facts, kb.checkFact fact = .ok ()) ∧ probe kb facts = t := by
  rw [State.ofFacts, State.addFacts_eq_ok_iff]
  simp only [Std.ExtTreeSet.mem_toList]
  rfl

theorem mem_probe {facts : FactSet} {fact : Fact} : fact ∈ (probe kb facts).facts ↔ fact ∈ facts := by
  simp [probe, State.mem_insertAll, State.empty]

/-- Facts that violate a constraint by themselves do so in every state that has them. -/
theorem violated_of_probe {facts : FactSet} (violating : (probe kb facts).violated ≠ none) (built : t.Built)
    (based : t.kb = kb) (holds : ∀ fact ∈ facts, fact ∈ t.facts) : t.violated ≠ none := by
  have indexed : (probe kb facts).Indexed := (State.Indexed.empty kb).insertAll facts.toList
  have same : (probe kb facts).kb = kb := State.insertAll_kb ..
  refine State.violated_mono indexed built.indexed (based.trans same.symm) (fun fact member => ?_) violating
  exact holds fact (mem_probe.mp member)

/-- Subgoals are regressed to what is required, unless the action adds nothing, removes one of them, or requires what
cannot be stated or violates a constraint. -/
theorem regress_eq_some_iff : regress kb subgoals action = some needed ↔
    ¬ action.added.isEmpty = true ∧ (∀ fact ∈ action.removed, fact ∉ subgoals) ∧
      (∀ fact ∈ action.required subgoals, kb.checkFact fact = .ok ()) ∧
      (probe kb (action.required subgoals)).violated = none ∧ action.required subgoals = needed := by
  have same : (subgoals.filter (!action.added.contains ·)).union action.before = action.required subgoals := by
    ext fact
    rw [Action.mem_required]
    simp [Std.ExtTreeSet.mem_union_iff, ← Bool.not_eq_true]
  have spares : ¬ action.removed.any (subgoals.contains ·) = true ↔ ∀ fact ∈ action.removed, fact ∉ subgoals := by
    simp only [SortedSet.any_iff, Std.ExtTreeSet.contains_iff_mem, not_exists, not_and]
  rw [regress]
  dsimp only
  rw [same, Option.ite_none_left_eq_some, Bool.or_eq_true, not_or, spares, and_assoc]
  refine and_congr_right fun _ => and_congr_right fun _ => ?_
  cases probed : State.ofFacts kb (action.required subgoals).toList with
  | error =>
    constructor
    · intro regressed
      cases regressed
    · rintro ⟨stated, -⟩
      cases probed.symm.trans (ofFacts_eq_ok_iff.mpr ⟨stated, rfl⟩)
  | ok =>
    obtain ⟨stated, rfl⟩ := ofFacts_eq_ok_iff.mp probed
    rw [and_iff_right stated, Option.ite_none_left_eq_some, Bool.not_eq_true, Option.isSome_eq_false_iff,
      Option.isNone_iff_eq_none, Option.some.injEq]

theorem mem_regress (regressed : regress kb subgoals action = some needed) {fact : Fact} :
    fact ∈ needed ↔ fact ∈ subgoals ∧ fact ∉ action.added ∨ fact ∈ action.before := by
  obtain ⟨-, -, -, -, rfl⟩ := regress_eq_some_iff.mp regressed
  exact Action.mem_required

/-- Regression gives the weakest condition, and gives up only where there is no hope. What subgoals are regressed to
holds in a state exactly if the action can be taken there and leads to them, unless the state refuses it with an error.
Where there is nothing they are regressed to, though the action adds something and all that is required can be stated,
the action removes a subgoal and so never leads to them, or every state with what is required violates a constraint. -/
theorem regress_weakest (kb : KnowledgeBase) (subgoals : FactSet) (action : Action) :
    (∀ needed, regress kb subgoals action = some needed →
      needed = (subgoals \ action.added) ∪ action.before ∧
      ∀ t : State, (∀ error, t.apply action ≠ .error error) →
        ((∀ fact ∈ needed, fact ∈ t.facts) ↔
          t.applicable action = true ∧ ∃ u, t.apply action = .ok (some u) ∧ ∀ fact ∈ subgoals, fact ∈ u.facts)) ∧
    (regress kb subgoals action = none → (∃ fact, fact ∈ action.added) →
      (∀ fact ∈ (subgoals \ action.added) ∪ action.before, kb.checkFact fact = .ok ()) →
      ((∃ fact ∈ action.removed, fact ∈ subgoals) ∧
        ∀ t u : State, t.apply action = .ok (some u) → ∃ fact ∈ subgoals, fact ∉ u.facts) ∨
      ∀ t : State, t.Built → t.kb = kb → (∀ fact ∈ (subgoals \ action.added) ∪ action.before, fact ∈ t.facts) →
        t.violated ≠ none) := by
  refine ⟨fun needed regressed => ?_, fun pruned adds stated => ?_⟩
  · obtain ⟨-, spared, -, -, rfl⟩ := regress_eq_some_iff.mp regressed
    refine ⟨rfl, fun t unrefused => ⟨fun holds => ?_, ?_⟩⟩
    · have applicable : t.applicable action = true := State.applicable_iff.mpr fun fact needed =>
        holds fact (Action.mem_required.mpr (.inr needed))
      cases outcome : t.apply action with
      | error error => exact absurd outcome (unrefused error)
      | ok result =>
        cases result with
        | none => exact absurd applicable (State.apply_eq_none_iff.mp outcome)
        | some u => exact ⟨applicable, u, rfl, Action.holds_of_required outcome spared holds⟩
    · rintro ⟨-, u, applied, reached⟩
      exact Action.required_holds applied reached
  · by_cases spared : ∀ fact ∈ action.removed, fact ∉ subgoals
    · right
      have violating : (probe kb (action.required subgoals)).violated ≠ none := by
        intro lawful
        obtain ⟨fact, added⟩ := adds
        have something : ¬ action.added.isEmpty = true := fun empty => by
          rw [Std.ExtTreeSet.isEmpty_iff.mp empty] at added
          exact Std.ExtTreeSet.not_mem_empty added
        cases pruned.symm.trans (regress_eq_some_iff.mpr ⟨something, spared, stated, lawful, rfl⟩)
      exact fun t => violated_of_probe violating
    · left
      obtain ⟨fact, removed, subgoal⟩ : ∃ fact, fact ∈ action.removed ∧ fact ∈ subgoals := by
        simpa only [not_forall, not_not, exists_prop] using spared
      exact ⟨⟨fact, removed, subgoal⟩, fun t u applied => ⟨fact, subgoal, Action.not_mem_of_removed applied removed⟩⟩

/-- To have the carrot and an open chest. -/
def laidOut : FactSet := SortedSet.of [⟨"in", [⟨"carrot", "f"⟩, ⟨"I", "I"⟩]⟩, ⟨"open", [⟨"chest", "c"⟩]⟩]

/-- To have the carrot and let it lie in the garden. -/
def torn : FactSet := SortedSet.of [⟨"in", [⟨"carrot", "f"⟩, ⟨"I", "I"⟩]⟩, ⟨"at", [⟨"carrot", "f"⟩, ⟨"garden", "r"⟩]⟩]

theorem regress_weakest_kitchen :
    (∃ needed, regress Core.knowledge laidOut State.taking = some needed ∧
      ∀ fact ∈ needed, fact ∈ State.kitchen.facts) ∧
    (∃ u, State.kitchen.apply State.taking = .ok (some u) ∧ ∀ fact ∈ laidOut, fact ∈ u.facts) ∧
    regress Core.knowledge torn State.taking = none ∧
    ∀ t : State, t.Built → t.kb = Core.knowledge →
      (∀ fact ∈ (torn \ State.taking.added) ∪ State.taking.before, fact ∈ t.facts) → t.violated ≠ none := by
  have regressed : ∃ needed ∈ regress Core.knowledge laidOut State.taking,
      needed.subset State.kitchen.facts = true := by decide +kernel
  have pruned : (regress Core.knowledge torn State.taking).isNone = true := by decide +kernel
  rw [Option.isNone_iff_eq_none] at pruned
  have applicable : State.kitchen.applicable State.taking = true := by decide
  obtain ⟨needed, found, within⟩ := regressed
  rw [SortedSet.subset_iff] at within
  obtain ⟨t, run, -⟩ := State.apply_of_stated (State.applicable_iff.mp applicable) State.taking_stated
  obtain ⟨-, weakest⟩ := (regress_weakest Core.knowledge laidOut State.taking).1 needed found
  obtain ⟨-, reaches⟩ := (weakest State.kitchen (by simp [run])).mp within
  have stated : ∀ fact ∈ State.taking.required torn, Core.knowledge.checkFact fact = .ok () := by
    intro fact required
    rcases Action.mem_required.mp required with ⟨subgoal, -⟩ | needed
    · rcases List.mem_pair.mp (SortedSet.mem_of.mp subgoal) with rfl | rfl <;> rfl
    · exact State.kitchen_built.checked (State.applicable_iff.mp applicable fact needed)
  have spared : ¬ ∃ fact ∈ State.taking.removed, fact ∈ torn := by
    rintro ⟨fact, removed, subgoal⟩
    rcases List.mem_pair.mp (SortedSet.mem_of.mp (Action.mem_removed.mp removed).1) with rfl | rfl
    · exact absurd subgoal (by decide)
    · exact absurd subgoal (by decide)
  have adds : ⟨"in", [⟨"carrot", "f"⟩, ⟨"I", "I"⟩]⟩ ∈ State.taking.added := Action.mem_added.mpr (by decide)
  have hopeless := (regress_weakest Core.knowledge torn State.taking).2 pruned ⟨_, adds⟩ stated
  exact ⟨⟨needed, found, within⟩, reaches, pruned, hopeless.resolve_left fun removes => spared removes.1⟩

end Backward

end Adventure
