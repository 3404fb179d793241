import Adventure.Proofs.Play.Verdicts

namespace Adventure

theorem Progression.resized_eq {α : Type} {xs : List α} {length : Nat} (fits : xs.length = length) (filler : α) :
    resized xs length filler = xs := by
  subst fits
  simp [resized]

namespace Quest

variable {quest : Quest} {s : State} {moves : Moves} {tracker : Tracker}

/-- Looking at a quest again decides nothing new. -/
theorem Stands.settle_eq (stands : quest.Stands s moves tracker) : tracker.settle quest (moves.state s) = tracker := by
  cases stands with
  | pending stays undecided =>
    have nothing (events : List Event) (among : ∀ event ∈ events, event ∈ quest.wins ++ quest.fails) :
        ¬ Event.anyFires events (events.map fun event => event.pointer moves) (moves.state s) = true := by
      intro fires
      obtain ⟨event, member, occurs⟩ := Event.anyFires_pointer_iff.mp fires
      exact undecided ⟨event, among event member, occurs⟩
    have unfailed := nothing quest.fails fun event member => List.mem_append_right _ member
    have unwon := nothing quest.wins fun event member => List.mem_append_left _ member
    rw [Tracker.settle, tracked_status, if_neg (not_not_intro rfl), tracked, if_neg unfailed, if_neg unwon]
  | failed | completed => rfl

theorem Stands.fitted_eq (stands : quest.Stands s moves tracker) : Progression.fitted quest tracker = tracker := by
  have places (status : Status) (point : Moves) :
      Progression.fitted quest (quest.tracked status point) = quest.tracked status point := by
    rw [Progression.fitted, tracked, Progression.resized_eq (List.length_map _),
      Progression.resized_eq (List.length_map _)]
  cases stands with
  | pending | failed | completed => exact places _ _

end Quest

namespace Progression

variable {p q : Progression} {s : State} {moves : Moves} {quests : List Quest} {trackers : List Tracker}

theorem observeAll_fitted
    (stands : List.Forall₂ (fun quest tracker => quest.Stands s moves tracker) quests trackers) :
    observeAll (moves.state s) quests (List.zipWith fitted quests trackers) = trackers := by
  induction stands with
  | nil => rfl
  | cons here _ ih => rw [List.zipWith_cons_cons, observeAll, ih, here.fitted_eq, here.settle_eq]

theorem Played.follows (played : p.Played) : ∃ s moves, p.Follows s moves := by
  induction played with
  | @start s _ quests options => exact ⟨s, [], .start s quests options⟩
  | @next p q action outcome _ run ih =>
    obtain ⟨s, moves, follows⟩ := ih
    rcases update_eq_ok_iff.mp run with ⟨-, -, rfl⟩ | ⟨t, applied, rfl, -⟩
    · exact ⟨s, moves, follows⟩
    · exact ⟨s, (action, t) :: moves, follows.move t action⟩

theorem Played.built (played : p.Played) : p.state.Built := by
  induction played with
  | start built => exact built
  | next _ run ih =>
    rcases update_eq_ok_iff.mp run with ⟨-, -, rfl⟩ | ⟨t, applied, rfl, -⟩
    · exact ih
    · exact .apply ih applied

/-- What is known of the way to win is a plan, or else just what a search from here tells. -/
theorem Played.found_or_searched (played : p.Played) : (∃ plan, p.policy = .found plan) ∨
    p.policy = Policy.search p.state p.quests p.trackers p.options := by
  induction played with
  | start => exact .inr (start_policy _ _ _)
  | @next p q action outcome _ run ih =>
    rcases update_eq_ok_iff.mp run with ⟨-, -, rfl⟩ | ⟨t, applied, rfl, -⟩
    · exact ih
    · by_cases unfailed : Unfailed (p.moved action t).trackers
      · rcases replan_cases (some action) unfailed with searched | ⟨_, rest, _, _, found⟩
        · exact .inr searched
        · exact .inl ⟨rest, found⟩
      · exact .inr ((replan_of_failed unfailed).trans (Policy.search_of_failed unfailed).symm)

/-- A search from here gives up for good exactly if the game has. A plan that is kept still wins, so then no search
does. -/
theorem Played.unreachable_iff (played : p.Played) :
    Policy.search p.state p.quests p.trackers p.options = .unreachable ↔ p.policy = .unreachable := by
  rcases played.found_or_searched with ⟨plan, found⟩ | searched
  · obtain ⟨unfailed, shortest⟩ := played.planned.plan plan found
    constructor
    · intro unreachable
      have correct : Policy.Correct p.quests p.options p.state p.trackers _ :=
        Policy.search_correct played.planned.indexed unfailed
      rw [unreachable] at correct
      exact absurd shortest.wins (correct plan)
    · intro unreachable
      rw [found] at unreachable
      cases unreachable
  · rw [searched]

theorem restore_eq_ok (played : p.Played) : restore p.state.kb p.quests p.snapshot p.options =
    .ok (replan { p with policy := .unknown } none) := by
  obtain ⟨s, moves, follows⟩ := played.follows
  have kept : resized p.trackers p.quests.length ⟨.pending, [], []⟩ = p.trackers :=
    resized_eq follows.stands.length_eq.symm _
  have again : observeAll p.state p.quests (List.zipWith fitted p.quests p.trackers) = p.trackers := by
    rw [follows.state]
    exact observeAll_fitted follows.stands
  rw [restore, snapshot, played.built.ofFacts_toList]
  simp only [bind, Except.bind, pure, Except.pure, kept, again]

/-- A game that was saved goes on as it was: going on from its snapshot gives the same state, the same place in each
quest, the same score and number of moves, and the same verdict. -/
theorem restore_snapshot (played : p.Played) :
    ∃ q, restore p.state.kb p.quests p.snapshot p.options = .ok q ∧ q.state = p.state ∧ q.quests = p.quests ∧
      q.trackers = p.trackers ∧ q.score = p.score ∧ q.moves = p.moves ∧
      q.won = p.won ∧ q.lost = p.lost ∧ q.trapped = p.trapped ∧ q.done = p.done := by
  refine ⟨_, restore_eq_ok played, rfl, rfl, rfl, rfl, rfl, rfl, ?_⟩
  have verdict : ((replan { p with policy := .unknown } none).policy == .unreachable) = (p.policy == .unreachable) := by
    rw [Bool.eq_iff_iff, beq_iff_eq, beq_iff_eq, replan_none_policy]
    exact played.unreachable_iff
  have lost : (replan { p with policy := .unknown } none).lost = p.lost := by
    rw [Progression.lost, verdict]
    rfl
  have trapped : (replan { p with policy := .unknown } none).trapped = p.trapped := by
    rw [Progression.trapped, verdict]
    rfl
  refine ⟨lost, trapped, ?_⟩
  rw [done, lost, trapped]
  rfl

/-- The game in the kitchen after the chest was closed. -/
def closedGame : Progression := (kitchenGame.moved closeChest closedKitchen).replan (some closeChest)

theorem closedGame_played : closedGame.Played :=
  .next (.start State.kitchen_built _ _) (update_eq_ok_iff.mpr (.inr ⟨closedKitchen, closeChest_applied, rfl, rfl⟩))

theorem restore_snapshot_closedGame : closedGame.Played ∧ closedGame.won = true ∧ closedGame.moves = 1 ∧
    ∃ q, restore closedGame.state.kb closedGame.quests closedGame.snapshot closedGame.options = .ok q ∧
      q.state = closedGame.state ∧ q.quests = closedGame.quests ∧ q.trackers = closedGame.trackers ∧
      q.score = closedGame.score ∧ q.moves = closedGame.moves ∧ q.won = closedGame.won ∧ q.lost = closedGame.lost ∧
      q.trapped = closedGame.trapped ∧ q.done = closedGame.done :=
  ⟨closedGame_played, by decide +kernel, rfl, restore_snapshot closedGame_played⟩

end Progression

end Adventure
