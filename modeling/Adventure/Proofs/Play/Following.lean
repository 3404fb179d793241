import Adventure.Play.Progression
import Adventure.Proofs.Play.Shortest

namespace Adventure

/-- A plan that wins, as no shorter one does. -/
structure Shortest (quests : List Quest) (s : State) (trackers : List Tracker) (plan : List Action) : Prop where
  wins : Wins quests s trackers plan
  least : ∀ other, Wins quests s trackers other → plan.length ≤ other.length

variable {quests : List Quest} {s t : State} {trackers after : List Tracker} {action : Action} {rest : List Action}

/-- After the first action of a shortest plan, the rest of it is a shortest plan. -/
theorem Shortest.tail (shortest : Shortest quests s trackers (action :: rest))
    (applied : s.apply action = .ok (some t)) :
    Advances quests action s trackers t (Tracker.progressAll action t quests trackers) ∧
      Shortest quests t (Tracker.progressAll action t quests trackers) rest := by
  obtain ⟨u, before, advances, wins⟩ := Wins.cons_iff.mp shortest.wins
  cases applied.symm.trans advances.applied
  cases advances.progressed
  -- A shorter plan from here would give a shorter one from before.
  refine ⟨advances, wins, fun other another => ?_⟩
  exact Nat.le_of_succ_le_succ (shortest.least (action :: other) (Wins.cons_iff.mpr ⟨t, _, advances, another⟩))

theorem Shortest.nil_iff {plan : List Action} (shortest : Shortest quests s trackers plan) :
    Won quests trackers ↔ plan = [] := by
  constructor
  · intro won
    exact List.length_eq_zero_iff.mp (Nat.le_zero.mp (shortest.least [] (Wins.nil_iff.mpr won)))
  · rintro rfl
    exact Wins.nil_iff.mp shortest.wins

namespace Progression

variable {p q : Progression}

theorem won_iff : p.won = true ↔ Unfailed p.trackers ∧ Won p.quests p.trackers := by
  rw [won, Bool.and_eq_true, Bool.not_eq_true', anyFailed_eq_false_iff, allWon_iff]

theorem newly_failed_of_unfailed (unfailed : Unfailed after) : newly .failed trackers after = [] := by
  rw [newly, List.map_eq_nil_iff, List.filter_eq_nil_iff]
  rintro ⟨⟨old, new⟩, number⟩ listed
  have member : new ∈ after := (List.of_mem_zip (List.fst_mem_of_mem_zipIdx listed)).2
  simp [unfailed new member]

/-- The game right after an action led to a state, before the way to win is found again. -/
def moved (p : Progression) (action : Action) (s : State) : Progression :=
  { p with
    state := s
    trackers := Tracker.progressAll action s p.quests p.trackers
    score := p.score + rewards p.quests (newly .completed p.trackers (Tracker.progressAll action s p.quests p.trackers))
    moves := p.moves + 1 }

theorem update_eq_ok_iff {outcome : Outcome} : p.update action = .ok (outcome, q) ↔
    (p.state.apply action = .ok none ∧ outcome = .invalid ∧ q = p) ∨
    ∃ s, p.state.apply action = .ok (some s) ∧ q = (p.moved action s).replan (some action) ∧
      outcome = .applied (newly .completed p.trackers (p.moved action s).trackers)
        (newly .failed p.trackers (p.moved action s).trackers) := by
  unfold update
  cases p.state.apply action with
  | error => simp [bind, Except.bind]
  | ok result =>
    cases result with
    | none => simp [bind, Except.bind, pure, Except.pure, eq_comm]
    | some s => simp [bind, Except.bind, pure, Except.pure, eq_comm, moved, and_comm]

theorem replan_of_failed {taken : Option Action} (failed : ¬ Unfailed p.trackers) :
    (p.replan taken).policy = .unreachable := by
  rw [← anyFailed_eq_false_iff, Bool.not_eq_false] at failed
  simp only [replan, failed, if_true]

theorem replan_of_followed (unfailed : Unfailed p.trackers) (planned : p.policy = .found (action :: rest)) :
    (p.replan (some action)).policy = .found rest := by
  simp only [replan, anyFailed_eq_false_iff.mpr unfailed, planned, Bool.false_eq_true, if_false, if_true]

/-- The way to win is found by a search, or is what the action left of the one known before. -/
theorem replan_cases (taken : Option Action) (unfailed : Unfailed p.trackers) :
    (p.replan taken).policy = Policy.search p.state p.quests p.trackers p.options ∨
    ∃ action rest, taken = some action ∧ p.policy = .found (action :: rest) ∧ (p.replan taken).policy = .found rest := by
  simp only [replan, anyFailed_eq_false_iff.mpr unfailed, Bool.false_eq_true, if_false]
  split
  next action first rest planned =>
    split
    next same => exact .inr ⟨action, rest, rfl, same ▸ planned, rfl⟩
    next => exact .inl rfl
  next => exact .inl rfl

/-- What is known of the way to win is right. -/
structure Planned (p : Progression) : Prop where
  indexed : p.state.Indexed
  plan : ∀ plan, p.policy = .found plan → Unfailed p.trackers ∧ Shortest p.quests p.state p.trackers plan
  known : Unfailed p.trackers → Won p.quests p.trackers → p.policy = .found []

theorem Planned.replan (indexed : p.state.Indexed) {taken : Option Action}
    (kept : ∀ action rest, taken = some action → p.policy = .found (action :: rest) →
      Shortest p.quests p.state p.trackers rest) : (p.replan taken).Planned := by
  refine ⟨indexed, ?plan, ?known⟩
  case plan =>
    intro plan found
    by_cases unfailed : Unfailed p.trackers
    · refine ⟨unfailed, ?_⟩
      rcases replan_cases taken unfailed with searched | ⟨action, rest, same, before, after⟩
      · have correct : Policy.Correct p.quests p.options p.state p.trackers _ := Policy.search_correct indexed unfailed
        rw [← searched, found] at correct
        exact ⟨correct.1, correct.2.2⟩
      · cases found.symm.trans after
        exact kept action plan same before
    · cases found.symm.trans (replan_of_failed unfailed)
  case known =>
    intro (unfailed : Unfailed p.trackers) (won : Won p.quests p.trackers)
    rcases replan_cases taken unfailed with searched | ⟨action, rest, same, before, after⟩
    · exact searched.trans (Policy.search_of_won unfailed won)
    · rw [after, (kept action rest same before).nil_iff.mp won]

/-- With no action to follow, the way to win is found by a search. -/
theorem replan_none_policy (p : Progression) :
    (p.replan none).policy = Policy.search p.state p.quests p.trackers p.options := by
  by_cases unfailed : Unfailed p.trackers
  · rcases replan_cases none unfailed with searched | ⟨_, _, taken, _⟩
    · exact searched
    · cases taken
  · rw [Policy.search_of_failed unfailed]
    exact replan_of_failed unfailed

theorem start_policy (s : State) (quests : List Quest) (options : PolicyOptions) :
    (start s quests options).policy = Policy.search s quests (start s quests options).trackers options :=
  replan_none_policy _

theorem Planned.start (indexed : s.Indexed) (quests : List Quest) (options : PolicyOptions) :
    (start s quests options).Planned := by
  unfold Progression.start
  exact Planned.replan indexed fun _ _ taken => nomatch taken

theorem Planned.update (planned : p.Planned) {outcome : Outcome} (run : p.update action = .ok (outcome, q)) :
    q.Planned := by
  rcases update_eq_ok_iff.mp run with ⟨-, -, rfl⟩ | ⟨s, applied, rfl, -⟩
  · exact planned
  · refine Planned.replan (planned.indexed.apply applied) ?_
    rintro _ rest ⟨⟩ before
    exact ((planned.plan _ before).2.tail applied).2

/-- The games that come about from a start by actions, whether they follow a plan or not. -/
inductive Played : Progression → Prop
  | start {s : State} (built : s.Built) (quests : List Quest) (options : PolicyOptions) :
      Played (start s quests options)
  | next {p q : Progression} {action : Action} {outcome : Outcome} : Played p →
      p.update action = .ok (outcome, q) → Played q

theorem Played.planned (played : p.Played) : p.Planned := by
  induction played with
  | start built quests options => exact .start built.indexed quests options
  | next _ run ih => exact ih.update run

/-- The actions of a plan can be taken in turn, fail no quest, and win. -/
def Succeeds : Progression → List Action → Prop
  | p, [] => p.won = true
  | p, action :: rest => ∃ completed q, p.update action = .ok (.applied completed [], q) ∧ Succeeds q rest

theorem Planned.succeeds (planned : p.Planned) {plan : List Action} (found : p.policy = .found plan) :
    p.Succeeds plan := by
  obtain ⟨unfailed, shortest⟩ := planned.plan plan found
  induction plan generalizing p with
  | nil => exact won_iff.mpr ⟨unfailed, shortest.nil_iff.mpr rfl⟩
  | cons action rest ih =>
    obtain ⟨s, _, first, _⟩ := Wins.cons_iff.mp shortest.wins
    obtain ⟨advances, later⟩ := shortest.tail first.applied
    have run := update_eq_ok_iff.mpr (.inr ⟨s, first.applied, rfl, rfl⟩)
    have unfailedLater : Unfailed (p.moved action s).trackers := advances.unfailed
    rw [newly_failed_of_unfailed unfailedLater] at run
    refine ⟨_, _, run, ?_⟩
    exact ih (planned.update run) (replan_of_followed unfailedLater found) unfailedLater later

/-- However a game was played, a plan that is known succeeds and is a shortest one, and the plan is empty exactly if
the game is won. -/
theorem policy_succeeds (played : p.Played) :
    (∀ plan, p.policy = .found plan → p.Succeeds plan ∧
      ∀ other, Wins p.quests p.state p.trackers other → plan.length ≤ other.length) ∧
    (p.won = true ↔ p.policy = .found []) := by
  have planned := played.planned
  refine ⟨fun plan found => ⟨planned.succeeds found, (planned.plan plan found).2.least⟩, ?_⟩
  constructor
  · intro won
    obtain ⟨unfailed, all⟩ := won_iff.mp won
    exact planned.known unfailed all
  · exact fun found => planned.succeeds found

def kitchenGame : Progression := start State.kitchen [closedChest] ⟨3, 10⟩

theorem kitchenGame_policy : kitchenGame.policy = .found [closeChest] := by
  have trackers : kitchenGame.trackers = [.ofQuest closedChest] := by decide +kernel
  rw [kitchenGame, start_policy, ← kitchenGame, trackers]
  exact search_closedChest

theorem policy_succeeds_kitchenGame : kitchenGame.Played ∧ kitchenGame.policy = .found [closeChest] ∧
    kitchenGame.Succeeds [closeChest] ∧
    ∀ other, Wins kitchenGame.quests kitchenGame.state kitchenGame.trackers other → 1 ≤ other.length :=
  ⟨.start State.kitchen_built _ _, kitchenGame_policy,
    (policy_succeeds (.start State.kitchen_built _ _)).1 [closeChest] kitchenGame_policy⟩

end Progression

end Adventure
