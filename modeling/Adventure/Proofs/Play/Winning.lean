import Adventure.Play.Policy
import Adventure.Proofs.State.Built

namespace Adventure

/-- No quest is failed. -/
def Unfailed (trackers : List Tracker) : Prop := ∀ tracker ∈ trackers, tracker.status ≠ .failed

/-- Every quest that has events to win it is completed. Quests and trackers go together by their places. -/
def Won (quests : List Quest) (trackers : List Tracker) : Prop :=
  ∀ quest tracker, (quest, tracker) ∈ quests.zip trackers → quest.wins ≠ [] → tracker.status = .completed

theorem anyFailed_eq_false_iff {trackers : List Tracker} : Tracker.anyFailed trackers = false ↔ Unfailed trackers := by
  simp [Tracker.anyFailed, Unfailed]

theorem allWon_iff {quests : List Quest} {trackers : List Tracker} :
    Tracker.allWon quests trackers = true ↔ Won quests trackers := by
  rw [Tracker.allWon, List.all_eq_true]
  constructor
  · intro all quest tracker paired winnable
    simpa [Quest.winnable, winnable] using all (quest, tracker) paired
  · rintro won ⟨quest, tracker⟩ paired
    by_cases winnable : quest.wins = []
    · simp [Quest.winnable, winnable]
    · simp [won quest tracker paired winnable]

/-- An action of a way to win: one that is listed for the rules to plan with, changes something, can be applied,
and fails no quest. It leads from a state, and from where the quests stand in it, to another. -/
structure Advances (quests : List Quest) (action : Action) (s : State) (trackers : List Tracker) (t : State)
    (after : List Tracker) : Prop where
  listed : action ∈ s.actions s.kb.chainingRules Binding.fixed
  changes : action.idle = false
  applied : s.apply action = .ok (some t)
  progressed : after = Tracker.progressAll action t quests trackers
  unfailed : Unfailed after

/-- The states that ways to win pass through, with where the quests stand in them. -/
inductive Leads (quests : List Quest) (s : State) (trackers : List Tracker) :
    List Action → State → List Tracker → Prop
  | start : Leads quests s trackers [] s trackers
  | next {plan action t u before after} : Leads quests s trackers plan t before →
      Advances quests action t before u after → Leads quests s trackers (plan ++ [action]) u after

/-- Actions that win every quest that can be won, one after the other, and fail none. -/
def Wins (quests : List Quest) (s : State) (trackers : List Tracker) (plan : List Action) : Prop :=
  ∃ t after, Leads quests s trackers plan t after ∧ Won quests after

variable {quests : List Quest} {s t u : State} {trackers before after : List Tracker} {action : Action}
  {plan rest : List Action}

theorem Advances.unique {other : State} {afterOther : List Tracker}
    (advances : Advances quests action s trackers t after)
    (another : Advances quests action s trackers other afterOther) : t = other ∧ after = afterOther := by
  obtain rfl : t = other := Option.some.inj (Except.ok.inj (advances.applied.symm.trans another.applied))
  exact ⟨rfl, advances.progressed.trans another.progressed.symm⟩

theorem Leads.kb (leads : Leads quests s trackers plan t after) : t.kb = s.kb := by
  induction leads with
  | start => rfl
  | next _ step ih => rw [State.apply_kb step.applied, ih]

theorem Leads.indexed (leads : Leads quests s trackers plan t after) (indexed : s.Indexed) : t.Indexed := by
  induction leads with
  | start => exact indexed
  | next _ step ih => exact ih.apply step.applied

/-- Where the same facts hold on two ways, the states are the same. -/
theorem Leads.state_eq (leads : Leads quests s trackers plan t after) (indexed : s.Indexed)
    {other : List Action} {afterOther : List Tracker} (another : Leads quests s trackers other u afterOther)
    (facts : t.facts = u.facts) : t = u :=
  (leads.indexed indexed).ext (another.indexed indexed) (leads.kb.trans another.kb.symm) facts

theorem Leads.of_nil (leads : Leads quests s trackers [] t after) : t = s ∧ after = trackers := by
  generalize empty : ([] : List Action) = plan at leads
  cases leads with
  | start => exact ⟨rfl, rfl⟩
  | next => simp at empty

theorem Leads.cons (first : Advances quests action s trackers t before) (later : Leads quests t before rest u after) :
    Leads quests s trackers (action :: rest) u after := by
  induction later with
  | start => exact .next .start first
  | next _ step ih => exact .next ih step

theorem Leads.uncons (leads : Leads quests s trackers (action :: rest) u after) :
    ∃ t before, Advances quests action s trackers t before ∧ Leads quests t before rest u after := by
  generalize whole : action :: rest = plan at leads
  induction leads generalizing rest with
  | start => cases whole
  | @next plan last t u middle after leads step ih =>
    cases plan with
    | nil =>
      obtain ⟨rfl, rfl⟩ := leads.of_nil
      obtain ⟨rfl, rfl⟩ := List.cons.inj whole
      exact ⟨u, after, step, .start⟩
    | cons first others =>
      rw [List.cons_append] at whole
      obtain ⟨rfl, rfl⟩ := List.cons.inj whole
      obtain ⟨t, before, advances, later⟩ := ih rfl
      exact ⟨t, before, advances, .next later step⟩

theorem Wins.cons_iff : Wins quests s trackers (action :: rest) ↔
    ∃ t before, Advances quests action s trackers t before ∧ Wins quests t before rest := by
  constructor
  · rintro ⟨u, after, leads, won⟩
    obtain ⟨t, before, first, later⟩ := leads.uncons
    exact ⟨t, before, first, u, after, later, won⟩
  · rintro ⟨t, before, first, u, after, later, won⟩
    exact ⟨u, after, .cons first later, won⟩

theorem Wins.nil_iff : Wins quests s trackers [] ↔ Won quests trackers := by
  constructor
  · rintro ⟨t, after, leads, won⟩
    obtain ⟨rfl, rfl⟩ := leads.of_nil
    exact won
  · intro won
    exact ⟨s, trackers, .start, won⟩

end Adventure
