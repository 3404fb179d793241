import Adventure.Proofs.Play.Following
import Mathlib.Data.List.Forall2

namespace Adventure

/-- The actions taken since a start, the last one first, each with the state that it led to. What is left of the list
after some of its first entries is an earlier point of the same game. -/
abbrev Moves := List (Action × State)

/-- The state that moves led to. -/
def Moves.state (s : State) : Moves → State
  | [] => s
  | (_, t) :: _ => t

/-- The moves after an action was asked for: one more, if the action can be taken. -/
def Moves.asked (s : State) (moves : Moves) (action : Action) : Moves :=
  match (moves.state s).apply action with
  | .ok (some t) => (action, t) :: moves
  | _ => moves

/-- The moves from a state when actions are asked for in turn. -/
def State.moves (s : State) (actions : List Action) : Moves := actions.foldl (Moves.asked s) []

namespace Moves

/-- The actions of moves in the order in which they were taken. -/
def actions (moves : Moves) : List Action := (moves.map Prod.fst).reverse

/-- The states that moves led to, in their order. -/
def states (moves : Moves) : List State := (moves.map Prod.snd).reverse

variable {s t : State} {moves : Moves} {action : Action}

theorem actions_cons (action : Action) (t : State) (moves : Moves) :
    actions ((action, t) :: moves) = actions moves ++ [action] := by
  simp [actions]

theorem states_cons (action : Action) (t : State) (moves : Moves) :
    states ((action, t) :: moves) = states moves ++ [t] := by
  simp [states]

/-- Moves that can be made one after the other from a state. -/
inductive Taken (s : State) : Moves → Prop
  | start : Taken s []
  | next {moves : Moves} {action : Action} {t : State} : Taken s moves →
      (moves.state s).apply action = .ok (some t) → Taken s ((action, t) :: moves)

/-- A fact of a state on the way was true at the start, or an action on the way left it. -/
theorem Taken.mem_facts (taken : moves.Taken s) {fact : Fact} (member : t ∈ s :: moves.states)
    (holds : fact ∈ t.facts) : fact ∈ s.facts ∨ ∃ action ∈ moves.actions, fact ∈ action.after := by
  induction taken generalizing t with
  | start =>
    cases List.mem_singleton.mp member
    exact .inl holds
  | @next moves action next _ applied ih =>
    have later (old : fact ∈ s.facts ∨ ∃ action ∈ moves.actions, fact ∈ action.after) :
        fact ∈ s.facts ∨ ∃ step ∈ actions ((action, next) :: moves), fact ∈ step.after := by
      rw [actions_cons]
      exact old.imp_right fun ⟨step, early, left⟩ => ⟨step, List.mem_append_left _ early, left⟩
    rw [states_cons, ← List.cons_append, List.mem_append, List.mem_singleton] at member
    rcases member with earlier | rfl
    · exact later (ih earlier holds)
    · rcases (State.mem_apply applied).mp holds with left | ⟨before, -⟩
      · exact .inr ⟨action, by rw [actions_cons]; exact List.mem_append_right _ (List.mem_singleton_self _), left⟩
      · refine later (ih ?_ before)
        cases moves with
        | nil => exact List.mem_singleton_self _
        | cons move moves => rw [states_cons]; simp [state]

end Moves

/-- An action takes away a fact that a step added. -/
def Action.Undoes (action step : Action) : Prop := ∃ fact ∈ step.added, fact ∈ action.removed

theorem Action.undoes_iff {action step : Action} :
    step.added.any (action.removed.contains ·) = true ↔ action.Undoes step := by
  simp only [SortedSet.any_iff, Std.ExtTreeSet.contains_iff_mem, Undoes]

instance (action step : Action) : Decidable (action.Undoes step) := decidable_of_iff _ Action.undoes_iff

namespace Event

/-- How many steps of an event stand after moves. -/
def pointer (event : Event) : Moves → Nat
  | [] => 0
  | (action, t) :: earlier => event.advance (event.pointer earlier) action t

/-- An event occurs at a point where all its steps stand and all its conditions hold. -/
def Occurs (event : Event) (s : State) (moves : Moves) : Prop :=
  event.pointer moves = event.actions.length ∧ ∀ fact ∈ event.conditions, fact ∈ (moves.state s).facts

variable {event : Event} {events : List Event} {s t : State} {moves : Moves} {action : Action} {pointer : Nat}

theorem holdsIn_iff : event.holdsIn s = true ↔ ∀ fact ∈ event.conditions, fact ∈ s.facts := SortedSet.subset_iff

theorem fires_pointer_iff : event.fires (event.pointer moves) (moves.state s) = true ↔ event.Occurs s moves := by
  rw [fires, Bool.and_eq_true, beq_iff_eq, holdsIn_iff, Occurs]

theorem undoneAt_lt {steps : List Action} {number : Nat} (undone : undoneAt steps action = some number) :
    number < steps.length := by
  obtain ⟨inside, -⟩ := List.findIdx?_eq_some_iff_getElem.mp undone
  exact inside

theorem undoneAt_eq_none_iff {steps : List Action} :
    undoneAt steps action = none ↔ ∀ step ∈ steps, ¬ action.Undoes step := by
  rw [undoneAt, List.findIdx?_eq_none_iff]
  simp only [← Action.undoes_iff, Bool.not_eq_true]

theorem undone_le {steps : List Action} : (undoneAt (steps.take pointer) action).getD pointer ≤ pointer := by
  cases undone : undoneAt (steps.take pointer) action with
  | none => exact Nat.le_refl pointer
  | some number =>
    have bound := undoneAt_lt undone
    rw [List.length_take] at bound
    exact Nat.le_of_lt (Nat.lt_of_lt_of_le bound (Nat.min_le_left ..))

/-- An action that is not the next step takes an event back or leaves it. -/
theorem advance_le_of_unexpected (unexpected : event.actions[pointer]? ≠ some action) :
    event.advance pointer action t ≤ pointer := by
  rw [advance, if_neg unexpected]
  exact undone_le

/-- An event that has not occurred at any point has a step left, if it has steps. -/
theorem pointer_lt_of_not_occurs (steps : event.actions ≠ [])
    (never : ∀ point, point <:+ moves → ¬ event.Occurs s point) : event.pointer moves < event.actions.length := by
  induction moves with
  | nil => exact List.length_pos_iff.mpr steps
  | cons move earlier ih =>
    obtain ⟨action, t⟩ := move
    have before := ih fun point older => never point (older.trans (List.suffix_cons ..))
    have now := never ((action, t) :: earlier) List.suffix_rfl
    rw [pointer]
    by_cases expected : event.actions[event.pointer earlier]? = some action
    · rw [Occurs, pointer, advance, if_pos expected] at now
      rw [advance, if_pos expected]
      split at now
      next passes =>
        rw [if_pos passes]
        -- The last step counts only where the conditions hold, and then the event occurs.
        refine Nat.lt_of_le_of_ne before fun last => now ⟨last, ?_⟩
        exact holdsIn_iff.mp (passes.resolve_left (not_not_intro last))
      next stays =>
        rw [if_neg stays]
        exact before
    · exact Nat.lt_of_le_of_lt (advance_le_of_unexpected expected) before

theorem advanceAll_map (place : Event → Nat) : advanceAll action t events (events.map place) =
    events.map fun event => event.advance (place event) action t := by
  induction events with
  | nil => rfl
  | cons event events ih => rw [List.map_cons, advanceAll, ih, List.map_cons]

theorem anyFires_map_iff {place : Event → Nat} :
    anyFires events (events.map place) s = true ↔ ∃ event ∈ events, event.fires (place event) s = true := by
  rw [anyFires, ← List.map_prod_left_eq_zip, List.any_map, List.any_eq_true]
  rfl

theorem anyFires_pointer_iff :
    anyFires events (events.map fun event => event.pointer moves) (moves.state s) = true ↔
      ∃ event ∈ events, event.Occurs s moves := by
  simp only [anyFires_map_iff, fires_pointer_iff]

end Event

namespace Quest

/-- Some event of a quest occurs. -/
def Decided (quest : Quest) (s : State) (moves : Moves) : Prop :=
  ∃ event ∈ quest.wins ++ quest.fails, event.Occurs s moves

/-- Nothing was decided before a point. -/
def Open (quest : Quest) (s : State) (moves : Moves) : Prop :=
  ∀ earlier, earlier <:+ moves → earlier ≠ moves → ¬ quest.Decided s earlier

/-- A tracker with the place of each event after moves. -/
def tracked (quest : Quest) (status : Status) (moves : Moves) : Tracker :=
  ⟨status, quest.wins.map fun event => event.pointer moves, quest.fails.map fun event => event.pointer moves⟩

@[simp]
theorem tracked_status (quest : Quest) (status : Status) (moves : Moves) :
    (quest.tracked status moves).status = status := rfl

/-- How a quest stands after moves from a state. It is pending as long as none of its events has occurred. The first
point where one occurs decides it for good: it is failed if an event to fail it is among them, and completed if not. -/
inductive Stands (quest : Quest) (s : State) (moves : Moves) : Tracker → Prop
  | pending : quest.Open s moves → ¬ quest.Decided s moves → quest.Stands s moves (quest.tracked .pending moves)
  | failed {point : Moves} : point <:+ moves → quest.Open s point → (∃ event ∈ quest.fails, event.Occurs s point) →
      quest.Stands s moves (quest.tracked .failed point)
  | completed {point : Moves} : point <:+ moves → quest.Open s point → (∃ event ∈ quest.wins, event.Occurs s point) →
      (∀ event ∈ quest.fails, ¬ event.Occurs s point) → quest.Stands s moves (quest.tracked .completed point)

variable {quest : Quest} {s t : State} {moves : Moves} {action : Action} {tracker : Tracker}

theorem open_nil : quest.Open s [] := by
  intro earlier older different
  exact absurd (List.suffix_nil.mp older) different

theorem open_cons_iff {move : Action × State} :
    quest.Open s (move :: moves) ↔ quest.Open s moves ∧ ¬ quest.Decided s moves := by
  constructor
  · intro stays
    refine ⟨fun earlier older _ => stays earlier (older.trans (List.suffix_cons ..)) ?_,
      stays moves (List.suffix_cons ..) (List.cons_ne_self _ _).symm⟩
    rintro rfl
    exact absurd older.length_le (by simp)
  · rintro ⟨stays, undecided⟩ earlier older different
    rcases List.suffix_cons_iff.mp older with same | older
    · exact absurd same different
    · by_cases same : earlier = moves
      · exact same ▸ undecided
      · exact stays earlier older same

/-- Settling a quest that was open up to now leaves it as it stands. -/
theorem Stands.settle (stays : quest.Open s moves) :
    quest.Stands s moves ((quest.tracked .pending moves).settle quest (moves.state s)) := by
  rw [Tracker.settle, tracked_status, if_neg (not_not_intro rfl)]
  split
  next fails => exact .failed List.suffix_rfl stays (Event.anyFires_pointer_iff.mp fails)
  next spared =>
    have spared : ∀ event ∈ quest.fails, ¬ event.Occurs s moves := fun event member occurs =>
      spared (Event.anyFires_pointer_iff.mpr ⟨event, member, occurs⟩)
    split
    next wins => exact .completed List.suffix_rfl stays (Event.anyFires_pointer_iff.mp wins) spared
    next unwon =>
      refine .pending stays ?_
      rintro ⟨event, member, occurs⟩
      rcases List.mem_append.mp member with win | fail
      · exact unwon (Event.anyFires_pointer_iff.mpr ⟨event, win, occurs⟩)
      · exact spared event fail occurs

theorem Stands.start : quest.Stands s [] ((Tracker.ofQuest quest).settle quest s) := by
  have fresh : Tracker.ofQuest quest = quest.tracked .pending [] := by
    simp [Tracker.ofQuest, tracked, Event.pointer]
  rw [fresh]
  exact Stands.settle open_nil

/-- A quest stands as it should after one more move. -/
theorem Stands.progress (stands : quest.Stands s moves tracker) :
    quest.Stands s ((action, t) :: moves) (tracker.progress quest action t) := by
  have later {point : Moves} (older : point <:+ moves) : point <:+ (action, t) :: moves :=
    older.trans (List.suffix_cons ..)
  cases stands with
  | pending stays undecided =>
    have next : Tracker.progress (quest.tracked .pending moves) quest action t =
        (quest.tracked .pending ((action, t) :: moves)).settle quest t := by
      rw [Tracker.progress, tracked_status, if_pos rfl]
      simp only [tracked, Event.advanceAll_map, Event.pointer]
    rw [next]
    exact Stands.settle (open_cons_iff.mpr ⟨stays, undecided⟩)
  | failed older stays fails => exact .failed (later older) stays fails
  | completed older stays wins spared => exact .completed (later older) stays wins spared

/-- As long as a quest is pending, each of its events that has steps has one left. -/
theorem Stands.pointer_lt (stands : quest.Stands s moves tracker) (pending : tracker.status = .pending)
    {event : Event} {pointer : Nat}
    (paired : (event, pointer) ∈ quest.wins.zip tracker.wins ++ quest.fails.zip tracker.fails)
    (steps : event.actions ≠ []) : pointer < event.actions.length := by
  cases stands with
  | pending stays undecided =>
    simp only [tracked, ← List.map_prod_left_eq_zip, ← List.map_append, List.mem_map] at paired
    obtain ⟨event, member, ⟨⟩⟩ := paired
    have never : ∀ point, point <:+ moves → ¬ event.Occurs s point := by
      intro point older occurs
      by_cases same : point = moves
      · exact undecided ⟨event, member, same ▸ occurs⟩
      · exact stays point older same ⟨event, member, occurs⟩
    exact Event.pointer_lt_of_not_occurs steps never
  | failed | completed => cases pending

end Quest

end Adventure
