import Adventure.Proofs.Play.Moves
import Mathlib.Data.List.Induction

namespace Adventure

theorem exists_of_forall₂ {α β : Type} {R : α → β → Prop} {xs : List α} {ys : List β} (all : List.Forall₂ R xs ys)
    {number : Nat} {y : β} (here : ys[number]? = some y) : ∃ x, xs[number]? = some x ∧ R x y := by
  induction all generalizing number with
  | nil => cases here
  | @cons first second xs ys related _ ih =>
    cases number with
    | zero =>
      cases here
      exact ⟨first, rfl, related⟩
    | succ number => exact ih here

namespace Tracker

/-- A tracker comes later than another one of the same quest: what was decided stays so. -/
def Follows (before after : Tracker) : Prop := before.status ≠ .pending → after = before

variable {quest : Quest} {quests : List Quest} {s : State} {action : Action} {tracker : Tracker}
  {trackers before after : List Tracker}

theorem follows_settle : tracker.Follows (tracker.settle quest s) := by
  intro decided
  rw [settle, if_pos decided]

theorem follows_progress : tracker.Follows (tracker.progress quest action s) := by
  intro decided
  rw [progress, if_neg decided]

theorem follows_progressAll : List.Forall₂ Follows trackers (progressAll action s quests trackers) := by
  fun_induction progressAll action s quests trackers with
  | case1 quest quests tracker trackers ih => exact .cons follows_progress ih
  | case2 => exact List.forall₂_same.mpr fun _ _ _ => rfl

theorem follows_observeAll : List.Forall₂ Follows trackers (Progression.observeAll s quests trackers) := by
  fun_induction Progression.observeAll s quests trackers with
  | case1 quest quests tracker trackers ih => exact .cons follows_settle ih
  | case2 => exact List.forall₂_same.mpr fun _ _ _ => rfl

theorem getElem?_of_decided (follows : List.Forall₂ Follows before after) {number : Nat}
    (here : before[number]? = some tracker) (decided : tracker.status ≠ .pending) :
    after[number]? = some tracker := by
  induction follows generalizing number with
  | nil => cases here
  | @cons first second before after step _ ih =>
    cases number with
    | zero =>
      cases here
      exact congrArg some (step decided)
    | succ number => exact ih here

end Tracker

namespace Progression

section Lists

variable {quests : List Quest} {before after : List Tracker}

theorem newly_cons (status : Status) (old new : Tracker) : newly status (old :: before) (new :: after) =
    (if old.status = .pending ∧ new.status = status then [0] else []) ++ (newly status before after).map (· + 1) := by
  rw [newly, List.zip_cons_cons, List.zipIdx_cons, List.zipIdx_succ, List.filter_cons, List.filter_map, newly]
  by_cases now : old.status = .pending ∧ new.status = status
  · simp [now, Function.comp_def]
  · simp only [Bool.and_eq_true, beq_iff_eq, now]
    simp [Function.comp_def]

theorem mem_newly {status : Status} {number : Nat} : number ∈ newly status before after ↔
    ∃ old new, before[number]? = some old ∧ after[number]? = some new ∧
      old.status = .pending ∧ new.status = status := by
  simp [newly, List.mem_zipIdx_iff_getElem?, List.getElem?_zip_eq_some, and_assoc]

theorem newly_sorted (status : Status) : (newly status before after).Pairwise (· < ·) := by
  have numbers : (newly status before after).Sublist ((before.zip after).zipIdx.map Prod.snd) :=
    List.filter_sublist.map Prod.snd
  rw [List.zipIdx_map_snd] at numbers
  exact List.Pairwise.sublist numbers List.pairwise_lt_range'

theorem rewards_nil (numbers : List Nat) : rewards [] numbers = 0 := by
  simp [rewards]

theorem rewards_cons (quest : Quest) (numbers : List Nat) (first : Prop) [Decidable first] :
    rewards (quest :: quests) ((if first then [0] else []) ++ numbers.map (· + 1)) =
      (if first then quest.reward.toInt else 0) + rewards quests numbers := by
  by_cases here : first <;> simp [rewards, here, List.foldr_map]

/-- The rewards of the quests that are completed. -/
def earned (quests : List Quest) (trackers : List Tracker) : Int :=
  ((quests.zip trackers).filter fun pair => pair.2.status = .completed).foldr
    (fun pair rest => pair.1.reward.toInt + rest) 0

theorem earned_nil (trackers : List Tracker) : earned [] trackers = 0 := rfl

theorem earned_cons (quest : Quest) (tracker : Tracker) (trackers : List Tracker) :
    earned (quest :: quests) (tracker :: trackers) =
      (if tracker.status = .completed then quest.reward.toInt else 0) + earned quests trackers := by
  by_cases completed : tracker.status = .completed <;> simp [earned, completed]

theorem earned_fresh (quests : List Quest) : earned quests (quests.map Tracker.ofQuest) = 0 := by
  induction quests with
  | nil => rfl
  | cons quest quests ih => rw [List.map_cons, earned_cons, ih, if_neg (by simp [Tracker.ofQuest]), Int.add_zero]

/-- What is earned grows by the rewards of the quests that were completed since. -/
theorem earned_of_follows (follows : List.Forall₂ Tracker.Follows before after) (quests : List Quest) :
    earned quests after = earned quests before + rewards quests (newly .completed before after) := by
  induction follows generalizing quests with
  | nil => simp [newly, rewards]
  | @cons old new before after step _ ih =>
    cases quests with
    | nil => rw [earned_nil, earned_nil, rewards_nil, Int.add_zero]
    | cons quest quests =>
      rw [earned_cons, earned_cons, newly_cons, rewards_cons, ih]
      have now : (if new.status = .completed then quest.reward.toInt else 0) =
          (if old.status = .completed then quest.reward.toInt else 0) +
            if old.status = .pending ∧ new.status = .completed then quest.reward.toInt else 0 := by
        by_cases decided : old.status = .pending
        · simp [decided]
        · rw [step decided]
          simp [decided]
      omega

end Lists

variable {p q : Progression} {s t : State} {quests : List Quest} {trackers : List Tracker} {moves : Moves}
  {action : Action}

theorem observeAll_stands (quests : List Quest) :
    List.Forall₂ (fun quest tracker => quest.Stands s [] tracker) quests
      (observeAll s quests (quests.map Tracker.ofQuest)) := by
  induction quests with
  | nil => exact .nil
  | cons quest quests ih => exact .cons .start ih

theorem progressAll_stands
    (stands : List.Forall₂ (fun quest tracker => quest.Stands s moves tracker) quests trackers) :
    List.Forall₂ (fun quest tracker => quest.Stands s ((action, t) :: moves) tracker) quests
      (Tracker.progressAll action t quests trackers) := by
  induction stands with
  | nil => exact .nil
  | cons here _ ih => exact .cons here.progress ih

theorem maxScore_cons (quest : Quest) (quests : List Quest) : Quest.maxScore (quest :: quests) =
    (if quest.wins = [] then 0 else quest.reward.toInt) + Quest.maxScore quests := by
  by_cases winnable : quest.wins = [] <;> simp [Quest.maxScore, Quest.winnable, winnable, List.filter_cons]

/-- Only a quest with events to win it is ever completed, so in a game that is won what is earned is all there is. -/
theorem earned_of_won (stands : List.Forall₂ (fun quest tracker => quest.Stands s moves tracker) quests trackers)
    (won : Won quests trackers) : earned quests trackers = Quest.maxScore quests := by
  induction stands with
  | nil => rfl
  | @cons quest tracker quests trackers here _ ih =>
    have rest := ih fun quest tracker paired => won quest tracker (List.mem_cons_of_mem _ paired)
    have first := won quest tracker List.mem_cons_self
    rw [earned_cons, maxScore_cons, rest]
    by_cases winnable : quest.wins = []
    · have uncompleted : tracker.status ≠ .completed := by
        intro completed
        cases here with
        | pending | failed => cases completed
        | completed _ _ wins => simp [winnable] at wins
      rw [if_neg uncompleted, if_pos winnable]
    · rw [if_pos (first winnable), if_neg winnable]

/-- A game that came about by moves from a state: each quest stands as the moves have it, and the score is what is
earned. -/
structure Follows (p : Progression) (s : State) (moves : Moves) : Prop where
  state : p.state = moves.state s
  stands : List.Forall₂ (fun quest tracker => quest.Stands s moves tracker) p.quests p.trackers
  score : p.score = earned p.quests p.trackers
  count : p.moves = moves.length

theorem Follows.start (s : State) (quests : List Quest) (options : PolicyOptions) :
    (start s quests options).Follows s [] where
  state := rfl
  stands := observeAll_stands quests
  score := by
    have follows : List.Forall₂ Tracker.Follows (quests.map Tracker.ofQuest)
        (observeAll s quests (quests.map Tracker.ofQuest)) := Tracker.follows_observeAll
    have grown := earned_of_follows follows quests
    rw [earned_fresh, Int.zero_add] at grown
    exact grown.symm
  count := rfl

theorem Follows.move (follows : p.Follows s moves) (t : State) (action : Action) :
    ((p.moved action t).replan (some action)).Follows s ((action, t) :: moves) where
  state := rfl
  stands := progressAll_stands follows.stands
  score := by
    have later : List.Forall₂ Tracker.Follows p.trackers (Tracker.progressAll action t p.quests p.trackers) :=
      Tracker.follows_progressAll
    have grown := earned_of_follows later p.quests
    rw [← follows.score] at grown
    exact grown.symm
  count := congrArg Nat.succ follows.count

/-- The game after an action was asked for. Nothing changes if the action cannot be taken. -/
def asked (p : Progression) (action : Action) : Progression :=
  match p.update action with
  | .ok (_, q) => q
  | .error _ => p

theorem asked_of_applied (applied : p.state.apply action = .ok (some t)) :
    p.asked action = (p.moved action t).replan (some action) := by
  rw [asked, update_eq_ok_iff.mpr (.inr ⟨t, applied, rfl, rfl⟩)]

theorem asked_of_refused (refused : ∀ t, p.state.apply action ≠ .ok (some t)) : p.asked action = p := by
  unfold asked
  split
  next outcome q run =>
    rcases update_eq_ok_iff.mp run with ⟨-, -, same⟩ | ⟨t, applied, -⟩
    · exact same
    · exact absurd applied (refused t)
  next => rfl

theorem asked_quests : (p.asked action).quests = p.quests := by
  by_cases applied : ∃ t, p.state.apply action = .ok (some t)
  · obtain ⟨t, applied⟩ := applied
    rw [asked_of_applied applied]
    rfl
  · rw [asked_of_refused fun t taken => applied ⟨t, taken⟩]

theorem asked_follows : List.Forall₂ Tracker.Follows p.trackers (p.asked action).trackers := by
  by_cases applied : ∃ t, p.state.apply action = .ok (some t)
  · obtain ⟨t, applied⟩ := applied
    rw [asked_of_applied applied]
    exact Tracker.follows_progressAll
  · rw [asked_of_refused fun t taken => applied ⟨t, taken⟩]
    exact List.forall₂_same.mpr fun _ _ _ => rfl

theorem Follows.asked (follows : p.Follows s moves) : (p.asked action).Follows s (moves.asked s action) := by
  unfold Moves.asked
  rw [← follows.state]
  split
  next t applied =>
    rw [asked_of_applied applied]
    exact follows.move t action
  next refused =>
    rw [asked_of_refused fun t taken => refused t taken]
    exact follows

/-- A game in which actions were asked for in turn. -/
def played (s : State) (quests : List Quest) (options : PolicyOptions) (actions : List Action) : Progression :=
  actions.foldl asked (start s quests options)

variable {options : PolicyOptions} {actions : List Action}

theorem played_append (more : List Action) :
    played s quests options (actions ++ more) = more.foldl asked (played s quests options actions) :=
  List.foldl_append

theorem played_quests : (played s quests options actions).quests = quests := by
  induction actions using List.reverseRecOn with
  | nil => rfl
  | append_singleton actions action ih => rw [played_append, List.foldl_cons, List.foldl_nil, asked_quests, ih]

theorem played_follows : (played s quests options actions).Follows s (s.moves actions) := by
  induction actions using List.reverseRecOn with
  | nil => exact .start s quests options
  | append_singleton actions action ih =>
    rw [played_append, State.moves, List.foldl_append]
    exact ih.asked

/-- A quest that is decided stays as it is, whatever is asked for later. -/
theorem getElem?_foldl_asked {number : Nat} {tracker : Tracker} (here : p.trackers[number]? = some tracker)
    (decided : tracker.status ≠ .pending) (more : List Action) :
    (more.foldl asked p).trackers[number]? = some tracker := by
  induction more generalizing p with
  | nil => exact here
  | cons action more ih => exact ih (Tracker.getElem?_of_decided asked_follows here decided)

/-- How the quest of a number stands. -/
def statusOf (p : Progression) (number : Nat) : Option Status := (p.trackers[number]?).map Tracker.status

/-- The quest of a number came to a status from another one. -/
def Became (p q : Progression) (number : Nat) (status : Status) : Prop :=
  q.statusOf number = some status ∧ p.statusOf number ≠ some status

theorem became_iff (follows : List.Forall₂ Tracker.Follows p.trackers q.trackers) {number : Nat} {status : Status} :
    Became p q number status ↔ status ≠ .pending ∧ number ∈ newly status p.trackers q.trackers := by
  simp only [Became, statusOf, ne_eq, Option.map_eq_some_iff, mem_newly]
  constructor
  · rintro ⟨⟨new, here, rfl⟩, different⟩
    obtain ⟨old, there, step⟩ := exists_of_forall₂ follows here
    have changed : old.status ≠ new.status := fun same => different ⟨old, there, same⟩
    have pending : old.status = .pending := by
      by_contra decided
      exact changed (congrArg Tracker.status (step decided)).symm
    exact ⟨fun again => changed (pending.trans again.symm), old, new, there, here, pending, rfl⟩
  · rintro ⟨decided, old, new, there, here, pending, rfl⟩
    refine ⟨⟨new, here, rfl⟩, ?_⟩
    rintro ⟨other, again, same⟩
    cases there.symm.trans again
    exact decided (same.symm.trans pending)

theorem update_tells {completed failed : List Nat} (run : p.update action = .ok (.applied completed failed, q)) :
    (∀ number status, Became p q number status ↔
      status = .completed ∧ number ∈ completed ∨ status = .failed ∧ number ∈ failed) ∧
    completed.Pairwise (· < ·) ∧ failed.Pairwise (· < ·) := by
  rcases update_eq_ok_iff.mp run with ⟨-, impossible, -⟩ | ⟨t, -, rfl, outcome⟩
  · cases impossible
  · obtain ⟨rfl, rfl⟩ := Outcome.applied.inj outcome
    refine ⟨fun number status => ?_, newly_sorted _, newly_sorted _⟩
    rw [became_iff Tracker.follows_progressAll]
    cases status <;> simp [replan]

/-- However actions are asked for, each quest stands as the moves have it: pending up to the first point where one of
its events occurs, and decided for good there. Up to then every event with steps has one left. What an action did to
the quests is told exactly, and the score is what the completed quests are worth, which is all there is once the game
is won. -/
theorem verdicts_and_score (s : State) (quests : List Quest) (options : PolicyOptions) (actions : List Action) :
    List.Forall₂ (fun quest tracker => quest.Stands s (s.moves actions) tracker) quests
      (played s quests options actions).trackers ∧
    (∀ (number : Nat) (tracker : Tracker), (played s quests options actions).trackers[number]? = some tracker →
      tracker.status ≠ .pending →
        ∀ more, (played s quests options (actions ++ more)).trackers[number]? = some tracker) ∧
    (∀ quest tracker, (quest, tracker) ∈ quests.zip (played s quests options actions).trackers →
      tracker.status = .pending →
        ∀ event pointer, (event, pointer) ∈ quest.wins.zip tracker.wins ++ quest.fails.zip tracker.fails →
          event.actions ≠ [] → pointer < event.actions.length) ∧
    (∀ action completed failed q, (played s quests options actions).update action =
        .ok (.applied completed failed, q) →
      (∀ number status, Became (played s quests options actions) q number status ↔
        status = .completed ∧ number ∈ completed ∨ status = .failed ∧ number ∈ failed) ∧
      completed.Pairwise (· < ·) ∧ failed.Pairwise (· < ·)) ∧
    (played s quests options actions).score = earned quests (played s quests options actions).trackers ∧
    ((played s quests options actions).won = true →
      (played s quests options actions).score = (played s quests options actions).maxScore) := by
  have follows : (played s quests options actions).Follows s (s.moves actions) := played_follows
  obtain ⟨-, stands, score, -⟩ := follows
  rw [played_quests] at stands score
  refine ⟨stands, ?decided, ?pending, fun _ _ _ _ => update_tells, score, ?won⟩
  case decided =>
    intro number tracker here decided more
    rw [played_append]
    exact getElem?_foldl_asked here decided more
  case pending =>
    intro quest tracker paired pending event pointer
    exact ((List.forall₂_iff_zip.mp stands).2 paired).pointer_lt pending
  case won =>
    intro won
    have all := (won_iff.mp won).2
    rw [played_quests] at all
    rw [score, maxScore, played_quests]
    exact earned_of_won stands all

end Progression

end Adventure
