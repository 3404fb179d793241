import Adventure.Proofs.Play.Restoring

namespace Adventure

variable {s t : State} {action : Action} {quest : Quest} {quests : List Quest}

theorem Action.not_mem_removed_of_idle (idle : action.idle = true) (fact : Fact) : fact ∉ action.removed := by
  rw [Action.idle, Bool.and_eq_true] at idle
  simp [Std.ExtTreeSet.isEmpty_iff.mp idle.2]

theorem State.apply_of_idle (idle : action.idle = true) (applied : s.apply action = .ok (some t)) : t = s := by
  obtain ⟨-, -, rfl⟩ := apply_eq_some_iff.mp applied
  rw [Action.idle, Bool.and_eq_true] at idle
  rw [Std.ExtTreeSet.isEmpty_iff.mp idle.1, Std.ExtTreeSet.isEmpty_iff.mp idle.2]
  rfl

namespace Event

variable {event : Event} {live plan : Nat}

/-- An action that changes nothing undoes nothing, so it can only be a next step. -/
theorem advance_of_idle (idle : action.idle = true) (unexpected : event.actions[live]? ≠ some action) :
    event.advance live action t = live := by
  have nothing : undoneAt (event.actions.take live) action = none := by
    rw [undoneAt_eq_none_iff]
    rintro step - ⟨fact, -, removed⟩
    exact Action.not_mem_removed_of_idle idle fact removed
  rw [advance, if_neg unexpected, nothing]
  rfl

theorem advanceAll_of_idle {events : List Event} {pointers : List Nat} (idle : action.idle = true)
    (foreign : ∀ event ∈ events, action ∉ event.actions) : advanceAll action t events pointers = pointers := by
  induction events generalizing pointers with
  | nil => rfl
  | cons event events ih =>
    cases pointers with
    | nil => rfl
    | cons pointer pointers =>
      have unexpected : event.actions[pointer]? ≠ some action := fun expected =>
        foreign event List.mem_cons_self (List.mem_of_getElem? expected)
      rw [advanceAll, advance_of_idle idle unexpected, ih fun event member =>
        foreign event (List.mem_cons_of_mem _ member)]

/-- A plan is as far with an event as the game, or it waits before a step that changes nothing, which no plan
takes. -/
def Lags (event : Event) (live plan : Nat) : Prop :=
  plan = live ∨ ∃ number step, plan ≤ number ∧ event.actions[number]? = some step ∧ step.idle = true

theorem Lags.advance (lags : event.Lags live plan) (changes : action.idle = false) :
    event.Lags (event.advance live action t) (event.advance plan action t) := by
  rcases lags with rfl | ⟨number, step, before, here, idle⟩
  · exact .inl rfl
  · refine .inr ⟨number, step, ?_, here, idle⟩
    by_cases expected : event.actions[plan]? = some action
    · have different : plan ≠ number := by
        rintro rfl
        cases here.symm.trans expected
        cases idle.symm.trans changes
      have moved : event.advance plan action t ≤ plan + 1 := by
        rw [Event.advance, if_pos expected]
        split <;> omega
      omega
    · exact Nat.le_trans (advance_le_of_unexpected expected) before

theorem Lags.idle (lags : event.Lags live plan) (idle : action.idle = true) :
    event.Lags (event.advance live action t) plan := by
  rcases lags with rfl | waits
  · by_cases expected : event.actions[plan]? = some action
    · exact .inr ⟨plan, action, Nat.le_refl plan, expected, idle⟩
    · exact .inl (advance_of_idle idle expected).symm
  · exact .inr waits

theorem Lags.fires (lags : event.Lags live plan) (fires : event.fires plan s = true) : event.fires live s = true := by
  rcases lags with rfl | ⟨number, step, before, here, -⟩
  · exact fires
  · rw [Event.fires, Bool.and_eq_true, beq_iff_eq] at fires
    have inside := (List.getElem?_eq_some_iff.mp here).1
    omega

/-- Events stand in a plan as in the game, but for those that wait. -/
def LagAll (events : List Event) (live plan : List Nat) : Prop :=
  ∃ here there : Event → Nat, live = events.map here ∧ plan = events.map there ∧
    ∀ event : Event, event.Lags (here event) (there event)

section Lists

variable {events : List Event} {live plan : List Nat}

theorem LagAll.advance (lag : LagAll events live plan) (changes : action.idle = false) :
    LagAll events (advanceAll action t events live) (advanceAll action t events plan) := by
  obtain ⟨here, there, rfl, rfl, lags⟩ := lag
  exact ⟨_, _, advanceAll_map here, advanceAll_map there, fun event => (lags event).advance changes⟩

theorem LagAll.idle (lag : LagAll events live plan) (idle : action.idle = true) :
    LagAll events (advanceAll action t events live) plan := by
  obtain ⟨here, there, rfl, rfl, lags⟩ := lag
  exact ⟨_, there, advanceAll_map here, rfl, fun event => (lags event).idle idle⟩

theorem LagAll.anyFires (lag : LagAll events live plan) (fires : anyFires events plan s = true) :
    anyFires events live s = true := by
  obtain ⟨here, there, rfl, rfl, lags⟩ := lag
  obtain ⟨event, member, fires⟩ := anyFires_map_iff.mp fires
  exact anyFires_map_iff.mpr ⟨event, member, (lags event).fires fires⟩

end Lists

end Event

namespace Tracker

variable {tracker : Tracker}

theorem settle_of_unfailed (unfailed : (tracker.settle quest s).status ≠ .failed)
    (pending : tracker.status = .pending) :
    ¬ Event.anyFires quest.fails tracker.fails s = true ∧ tracker.settle quest s =
      if Event.anyFires quest.wins tracker.wins s then { tracker with status := .completed } else tracker := by
  rw [settle, if_neg (not_not_intro pending)] at unfailed ⊢
  by_cases fires : Event.anyFires quest.fails tracker.fails s = true
  · rw [if_pos fires] at unfailed
    exact absurd rfl unfailed
  · rw [if_neg fires]
    exact ⟨fires, rfl⟩

end Tracker

/-- The tracker of a plan beside that of the game. They agree but for events to fail the quest, where the plan may
lag. No event to win the quest is overdue. -/
structure Quest.Shadows (quest : Quest) (s : State) (live plan : Tracker) : Prop where
  status : plan.status = live.status
  wins : plan.wins = live.wins
  fails : Event.LagAll quest.fails live.fails plan.fails
  settled : live.status = .pending → ¬ Event.anyFires quest.wins live.wins s = true

namespace Quest

variable {live plan : Tracker}

theorem Stands.shadows {moves : Moves} (stands : quest.Stands s moves live) :
    quest.Shadows (moves.state s) live live := by
  have places (status : Status) (point : Moves) :
      Event.LagAll quest.fails (quest.tracked status point).fails (quest.tracked status point).fails :=
    ⟨_, _, rfl, rfl, fun _ => .inl rfl⟩
  cases stands with
  | pending stays undecided =>
    refine ⟨rfl, rfl, places _ _, fun _ fires => ?_⟩
    obtain ⟨event, member, occurs⟩ := Event.anyFires_pointer_iff.mp fires
    exact undecided ⟨event, List.mem_append_left _ member, occurs⟩
  | failed | completed => exact ⟨rfl, rfl, places _ _, nofun⟩

/-- An action that changes something, taken in the game and in the plan. -/
theorem Shadows.progress (shadows : quest.Shadows s live plan) (changes : action.idle = false)
    (unfailed : (live.progress quest action t).status ≠ .failed) :
    quest.Shadows t (live.progress quest action t) (plan.progress quest action t) := by
  obtain ⟨status, wins, fails, -⟩ := shadows
  by_cases pending : live.status = .pending
  · rw [Tracker.progress, if_pos pending] at unfailed ⊢
    rw [Tracker.progress, if_pos (status.trans pending), wins]
    have lag := fails.advance (t := t) changes
    obtain ⟨spared, after⟩ := Tracker.settle_of_unfailed unfailed pending
    -- The plan is spared too: where it lags, it is at most as far as the game.
    have planSpared := mt lag.anyFires spared
    rw [after, Tracker.settle, if_neg (not_not_intro (status.trans pending)), if_neg planSpared]
    split
    next => exact ⟨rfl, rfl, lag, fun pending => by cases pending⟩
    next unwon => exact ⟨status, rfl, lag, fun _ => unwon⟩
  · rw [Tracker.progress, if_neg pending, Tracker.progress, if_neg (status ▸ pending)]
    exact ⟨status, wins, fails, fun now => absurd now pending⟩

/-- An action that changes nothing, taken in the game but not in the plan. -/
theorem Shadows.idle (shadows : quest.Shadows s live plan) (idle : action.idle = true)
    (foreign : ∀ event ∈ quest.wins, action ∉ event.actions)
    (unfailed : (live.progress quest action s).status ≠ .failed) :
    quest.Shadows s (live.progress quest action s) plan := by
  obtain ⟨status, wins, fails, settled⟩ := shadows
  by_cases pending : live.status = .pending
  · rw [Tracker.progress, if_pos pending, Event.advanceAll_of_idle idle foreign] at unfailed ⊢
    rw [(Tracker.settle_of_unfailed unfailed pending).2, if_neg (settled pending)]
    exact ⟨status, wins, fails.idle idle, settled⟩
  · rw [Tracker.progress, if_neg pending]
    exact ⟨status, wins, fails, settled⟩

end Quest

/-- The trackers of a plan beside those of the game, quest by quest. -/
inductive Shadowed (s : State) : List Quest → List Tracker → List Tracker → Prop
  | nil : Shadowed s [] [] []
  | cons {quest quests live lives plan plans} : Quest.Shadows quest s live plan → Shadowed s quests lives plans →
      Shadowed s (quest :: quests) (live :: lives) (plan :: plans)

namespace Shadowed

variable {lives plans : List Tracker}

theorem of_stands {moves : Moves}
    (stands : List.Forall₂ (fun quest tracker => quest.Stands s moves tracker) quests lives) :
    Shadowed (moves.state s) quests lives lives := by
  induction stands with
  | nil => exact .nil
  | cons here _ ih => exact .cons here.shadows ih

theorem progress (shadowed : Shadowed s quests lives plans) (changes : action.idle = false)
    (unfailed : Unfailed (Tracker.progressAll action t quests lives)) :
    Shadowed t quests (Tracker.progressAll action t quests lives) (Tracker.progressAll action t quests plans) := by
  induction shadowed with
  | nil => exact .nil
  | cons here _ ih =>
    obtain ⟨first, others⟩ := List.forall_mem_cons.mp unfailed
    exact .cons (here.progress changes first) (ih others)

theorem idle (shadowed : Shadowed s quests lives plans) (idle : action.idle = true)
    (foreign : ∀ quest ∈ quests, ∀ event ∈ quest.wins, action ∉ event.actions)
    (unfailed : Unfailed (Tracker.progressAll action s quests lives)) :
    Shadowed s quests (Tracker.progressAll action s quests lives) plans := by
  induction shadowed with
  | nil => exact .nil
  | cons here _ ih =>
    obtain ⟨first, others⟩ := List.forall_mem_cons.mp unfailed
    obtain ⟨firstForeign, otherForeign⟩ := List.forall_mem_cons.mp foreign
    exact .cons (here.idle idle firstForeign first) (ih otherForeign others)

theorem unfailed (shadowed : Shadowed s quests lives plans) (unfailed : Unfailed lives) : Unfailed plans := by
  induction shadowed with
  | nil => exact unfailed
  | cons here _ ih =>
    obtain ⟨first, others⟩ := List.forall_mem_cons.mp unfailed
    exact List.forall_mem_cons.mpr ⟨here.status ▸ first, ih others⟩

theorem won (shadowed : Shadowed s quests lives plans) (won : Won quests lives) : Won quests plans := by
  induction shadowed with
  | nil => exact won
  | @cons quest quests live lives plan plans here _ ih =>
    have rest := ih fun other tracker paired => won other tracker (List.mem_cons_of_mem _ paired)
    intro other tracker paired winnable
    rcases List.mem_cons.mp paired with first | later
    · cases first
      exact here.status.trans (won quest live List.mem_cons_self winnable)
    · exact rest other tracker later winnable

end Shadowed

theorem Tracker.unfailed_of_follows {before after : List Tracker} (follows : List.Forall₂ Follows before after)
    (unfailed : Unfailed after) : Unfailed before := by
  induction follows with
  | nil => exact unfailed
  | cons step _ ih =>
    obtain ⟨first, others⟩ := List.forall_mem_cons.mp unfailed
    refine List.forall_mem_cons.mpr ⟨fun failed => ?_, ih others⟩
    rw [step (by simp [failed])] at first
    exact first failed

/-- What a plan takes account of: an action to plan with that changes something, or one that changes nothing and is no
step to win any of the quests. -/
def Foreseen (quests : List Quest) (s : State) (action : Action) : Prop :=
  (action.idle = false ∧ action ∈ s.actions s.kb.chainingRules Binding.fixed) ∨
  (action.idle = true ∧ ∀ quest ∈ quests, ∀ event ∈ quest.wins, action ∉ event.actions)

namespace Progression

variable {p q r : Progression} {allowed : State → Action → Prop} {actions : List Action}

/-- A game goes on to another by actions that can be taken where they are, all of an allowed kind. -/
inductive Continues (allowed : State → Action → Prop) : Progression → List Action → Progression → Prop
  | done {p : Progression} : Continues allowed p [] p
  | next {p q r : Progression} {action : Action} {rest : List Action} {outcome : Outcome} : action ∈ p.validActions →
      allowed p.state action → p.update action = .ok (outcome, q) → Continues allowed q rest r →
      Continues allowed p (action :: rest) r

theorem Continues.unfailed (run : p.Continues allowed actions q) (unfailed : Unfailed q.trackers) :
    Unfailed p.trackers := by
  induction run with
  | done => exact unfailed
  | next _ _ step _ ih =>
    rcases update_eq_ok_iff.mp step with ⟨-, -, rfl⟩ | ⟨t, -, rfl, -⟩
    · exact ih unfailed
    · exact Tracker.unfailed_of_follows Tracker.follows_progressAll (ih unfailed)

/-- The actions that change something, on a way on which a game is won, make a plan. -/
theorem Continues.exists_wins (run : p.Continues (Foreseen quests) actions q) (same : p.quests = quests)
    (won : q.won = true) {plans : List Tracker} (shadowed : Shadowed p.state quests p.trackers plans) :
    ∃ plan, Wins quests p.state plans plan := by
  induction run generalizing plans with
  | @done p =>
    have all := (won_iff.mp won).2
    rw [same] at all
    exact ⟨[], Wins.nil_iff.mpr (shadowed.won all)⟩
  | @next p q r action rest outcome _ foreseen step later ih =>
    rcases update_eq_ok_iff.mp step with ⟨-, -, rfl⟩ | ⟨t, applied, rfl, -⟩
    · exact ih same won shadowed
    · have unfailed : Unfailed (Tracker.progressAll action t p.quests p.trackers) :=
        later.unfailed (won_iff.mp won).1
      rw [same] at unfailed
      have moved : (p.moved action t).trackers = Tracker.progressAll action t quests p.trackers := by rw [← same]; rfl
      rcases foreseen with ⟨changes, listed⟩ | ⟨idle, foreign⟩
      · have shadowed := shadowed.progress changes unfailed
        obtain ⟨plan, wins⟩ := ih same won (moved ▸ shadowed)
        have advances : Advances quests action p.state plans t _ :=
          ⟨listed, changes, applied, rfl, shadowed.unfailed unfailed⟩
        exact ⟨action :: plan, Wins.cons_iff.mpr ⟨t, _, advances, wins⟩⟩
      · cases State.apply_of_idle idle applied
        exact ih same won (moved ▸ shadowed.idle idle foreign unfailed)

theorem unreachable_of_over (ended : p.trapped = true ∨ p.lost = true) (unfailed : Unfailed p.trackers) :
    p.policy = .unreachable := by
  rw [trapped, lost, anyFailed_eq_false_iff.mpr unfailed] at ended
  simp only [Bool.and_eq_true, beq_iff_eq, Bool.false_or] at ended
  rcases ended with ⟨⟨-, unreachable⟩, -⟩ | ⟨unreachable, -⟩
  · exact unreachable
  · exact unreachable

/-- Once a game is over without being won, it is not won any more by whatever plans take account of. -/
theorem not_won_of_over (played : p.Played) (ended : p.trapped = true ∨ p.lost = true)
    (run : p.Continues (Foreseen p.quests) actions q) : q.won = false := by
  rw [← Bool.not_eq_true]
  intro won
  have unfailed := run.unfailed (won_iff.mp won).1
  obtain ⟨s, moves, follows⟩ := played.follows
  have shadowed := Shadowed.of_stands follows.stands
  rw [← follows.state] at shadowed
  obtain ⟨plan, wins⟩ := run.exists_wins rfl won shadowed
  have correct : Policy.Correct p.quests p.options p.state p.trackers _ :=
    Policy.search_correct played.planned.indexed unfailed
  rw [played.unreachable_iff.mpr (unreachable_of_over ended unfailed)] at correct
  exact correct plan wins

end Progression

/-- Where there is nothing to plan with, there is no way to win what is not won yet. -/
theorem Policy.search_of_no_actions {trackers : List Tracker} {options : PolicyOptions} (unfailed : Unfailed trackers)
    (unwon : ¬ Won quests trackers) (deep : 0 < options.maxDepth)
    (nothing : s.actions s.kb.chainingRules Binding.fixed = []) :
    search s quests trackers options = .unreachable := by
  have shallow : ¬ ([] : List Action).length ≥ options.maxDepth := Nat.not_le_of_lt deep
  rw [search, anyFailed_eq_false_iff.mpr unfailed, if_neg Bool.false_ne_true, if_neg (mt allWon_iff.mp unwon)]
  rw [run, SortedMap.minEntry?_insert_empty]
  dsimp only
  rw [if_neg shallow, nothing, tryAll]
  dsimp only
  rw [SortedMap.erase_insert_empty, run, SortedMap.minEntry?_empty]
  rfl

namespace Progression

theorem Continues.single (valid : action ∈ s.actions s.kb.rules Binding.fixed) (here : allowed s action)
    (applied : s.apply action = .ok (some t)) (quests : List Quest) (options : PolicyOptions) :
    (start s quests options).Continues allowed [action]
      (((start s quests options).moved action t).replan (some action)) :=
  .next valid here (update_eq_ok_iff.mpr (.inr ⟨t, applied, rfl, rfl⟩)) .done

end Progression

/-- A cell with nothing but the player. -/
def cell : State := (State.empty Core.knowledge).insertAll [⟨"at", [⟨"P", "P"⟩, ⟨"cell", "r"⟩]⟩]

theorem cell_built : cell.Built :=
  .addFacts (.empty Core.knowledge)
    (rfl : (State.empty Core.knowledge).addFacts [⟨"at", [⟨"P", "P"⟩, ⟨"cell", "r"⟩]⟩] = .ok cell)

theorem cell_nothing : cell.actions cell.kb.chainingRules Binding.fixed = [] := by decide +kernel

def lookAround : Action :=
  .of "look" [⟨"at", [⟨"P", "P"⟩, ⟨"cell", "r"⟩]⟩] [⟨"at", [⟨"P", "P"⟩, ⟨"cell", "r"⟩]⟩] (some "look")

theorem lookAround_valid : lookAround ∈ cell.actions cell.kb.rules Binding.fixed := by decide +kernel

theorem lookAround_idle : lookAround.idle = true := by decide +kernel

theorem lookAround_applied : cell.apply lookAround = .ok (some cell) := by
  have applied : cell.apply lookAround =
      .ok (some ((cell.eraseAll lookAround.removed.toList).insertAll lookAround.added.toList)) :=
    State.apply_of_faultless (by decide +kernel) (by decide +kernel)
  rw [applied, State.apply_of_idle lookAround_idle applied]

/-- To look around. -/
def sightseeing : Quest := ⟨[⟨[lookAround], ∅⟩], [], 1, none⟩

/-- The core world with every rule marked as one to look only. -/
def shownKnowledge : KnowledgeBase :=
  { Core.knowledge with rules := Core.rules.map fun rule => { rule with observational := true } }

def shownKitchen : State := (State.empty shownKnowledge).insertAll State.kitchenFacts

theorem shownKitchen_built : shownKitchen.Built :=
  .addFacts (.empty shownKnowledge)
    (rfl : (State.empty shownKnowledge).addFacts State.kitchenFacts = .ok shownKitchen)

theorem shownKitchen_nothing : shownKitchen.actions shownKitchen.kb.chainingRules Binding.fixed = [] := by
  decide +kernel

def shownClosedKitchen : State :=
  (shownKitchen.eraseAll closeChest.removed.toList).insertAll closeChest.added.toList

namespace Progression

/-- A game to win one quest. -/
def questGame (s : State) (quest : Quest) : Progression := start s [quest] ⟨3, 10⟩

/-- Where there is nothing to plan with, a game that is not won yet is given up. -/
theorem questGame_trapped (nothing : s.actions s.kb.chainingRules Binding.fixed = [])
    (fresh : (questGame s quest).trackers = [.ofQuest quest]) (winnable : quest.wins ≠ [])
    (unfailing : quest.fails = []) : Unfailed (questGame s quest).trackers ∧ (questGame s quest).trapped = true := by
  have unfailed : Unfailed [.ofQuest quest] := anyFailed_eq_false_iff.mp rfl
  have unwon : ¬ Won [quest] [.ofQuest quest] := fun won => nomatch won quest _ List.mem_cons_self winnable
  have policy : (questGame s quest).policy = .unreachable := by
    rw [questGame, start_policy, ← questGame, fresh]
    exact Policy.search_of_no_actions unfailed unwon (by decide) nothing
  have lasting : (questGame s quest).won = false := by
    rw [← Bool.not_eq_true, won_iff, fresh]
    exact fun won => unwon won.2
  have safe : (questGame s quest).canFail = false := by
    change [quest].any _ = false
    simp [unfailing]
  refine ⟨fresh ▸ unfailed, ?_⟩
  rw [trapped, lasting, policy, safe]
  rfl

/-- No plan has an action that changes nothing, nor one of a rule that is marked as one to look only. Either can win a
game that was given up. -/
theorem trapped_then_won :
    ((questGame cell sightseeing).Played ∧ Unfailed (questGame cell sightseeing).trackers ∧
      (questGame cell sightseeing).trapped = true ∧
      ∃ q, (questGame cell sightseeing).Continues (fun _ action => action.idle = true) [lookAround] q ∧
        q.won = true) ∧
    ((questGame shownKitchen closedChest).Played ∧ Unfailed (questGame shownKitchen closedChest).trackers ∧
      (questGame shownKitchen closedChest).trapped = true ∧
      ∃ q, (questGame shownKitchen closedChest).Continues (fun _ action => action.idle = false) [closeChest] q ∧
        q.won = true) := by
  constructor
  · obtain ⟨unfailed, trapped⟩ : _ ∧ (questGame cell sightseeing).trapped = true :=
      questGame_trapped cell_nothing (by decide +kernel) (by decide) rfl
    exact ⟨.start cell_built _ _, unfailed, trapped, _,
      .single lookAround_valid lookAround_idle lookAround_applied _ _, by decide +kernel⟩
  · obtain ⟨unfailed, trapped⟩ : _ ∧ (questGame shownKitchen closedChest).trapped = true :=
      questGame_trapped shownKitchen_nothing (by decide +kernel) (by decide) rfl
    have applied : shownKitchen.apply closeChest = .ok (some shownClosedKitchen) :=
      State.apply_of_faultless (by decide +kernel) (by decide +kernel)
    exact ⟨.start shownKitchen_built _ _, unfailed, trapped, _,
      .single (by decide +kernel) (by decide +kernel) applied _ _, by decide +kernel⟩

theorem not_won_of_over_cell : (questGame cell closedChest).Played ∧ (questGame cell closedChest).trapped = true ∧
    ∃ q, (questGame cell closedChest).Continues (Foreseen [closedChest]) [lookAround] q ∧ q.won = false := by
  have played : (questGame cell closedChest).Played := .start cell_built _ _
  obtain ⟨-, trapped⟩ : _ ∧ (questGame cell closedChest).trapped = true :=
    questGame_trapped cell_nothing (by decide +kernel) (by decide) rfl
  have run : (questGame cell closedChest).Continues (Foreseen [closedChest]) [lookAround] _ :=
    .single lookAround_valid (.inr ⟨lookAround_idle, by decide +kernel⟩) lookAround_applied _ _
  exact ⟨played, trapped, _, run, not_won_of_over played (.inl trapped) run⟩

end Progression

end Adventure
