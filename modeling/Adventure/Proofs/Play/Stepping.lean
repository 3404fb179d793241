import Adventure.Proofs.Play.Following
import Adventure.Proofs.State.Atomicity
import Adventure.Proofs.Text.Casing
import Adventure.Proofs.World.View
import Adventure.Session.Step

namespace Adventure

theorem Progression.inspect_failsShort (p : Progression) : FailsShort (p.state.factsNamed "at") p.inspect := by
  rw [Progression.inspect]
  rcases World.ofState_failsShort p.state with ⟨w, made⟩ | ⟨fact, member, short, failed⟩
  · have looked : World.ofState p.state >>= World.check = w.check := by
      rw [made]
      rfl
    rw [looked, ← World.ofState_state made]
    rcases w.check_cases with fine | ⟨flaw, flawed⟩ | ⟨fact, member, short, failed⟩
    · rw [fine]
      exact .ok ()
    · rw [flawed]
      exact .ok ()
    · rw [failed]
      exact .inr ⟨fact, member, short, rfl⟩
  · rw [failed]
    exact .inr ⟨fact, member, short, rfl⟩

namespace Game

/-- The player is shown the world after such an action. -/
def shows (action : Action) : Bool :=
  action.name = "look" || action.name.startsWith "go/" || action.name = "inventory"

theorem feedback_failsShort (game : Game) (s : State) (action : Action) :
    FailsShort (s.factsNamed "at") (game.feedback s action) := by
  have seen := World.ofState_failsShort s
  rw [feedback]
  split
  next => exact seen.bind fun _ => .ok _
  next =>
    split
    next => exact seen.bind fun _ => .ok _
    next => split <;> exact .ok _

theorem exists_feedback (game : Game) (s : State) {action : Action} (unseen : shows action = false) :
    ∃ text, game.feedback s action = .ok text := by
  simp only [shows, Bool.or_eq_false_iff, decide_eq_false_iff_not] at unseen
  rw [feedback, if_neg (by simp [unseen]), if_neg unseen.2]
  split <;> exact ⟨_, rfl⟩

end Game

/-- If no depth is allowed, the search gives up at once. -/
theorem Policy.search_of_shallow {s : State} {quests : List Quest} {trackers : List Tracker} {options : PolicyOptions}
    (unfailed : Unfailed trackers) (unwon : ¬ Won quests trackers) (shallow : options.maxDepth = 0) :
    Policy.search s quests trackers options = .unknown := by
  have full : ([] : List Action).length ≥ options.maxDepth := Nat.le_of_eq shallow
  rw [search, anyFailed_eq_false_iff.mpr unfailed, if_neg Bool.false_ne_true, if_neg (mt allWon_iff.mp unwon), run,
    SortedMap.minEntry?_insert_empty]
  dsimp only
  rw [if_pos full, SortedMap.erase_insert_empty, run, SortedMap.minEntry?_empty]
  rfl

/-- A game goes on that is neither won nor failed, unless it is known that there is no way to win. -/
theorem Progression.done_eq_false {p : Progression} (unfailed : Tracker.anyFailed p.trackers = false)
    (unwon : Tracker.allWon p.quests p.trackers = false) (hopeful : p.policy ≠ .unreachable) : p.done = false := by
  have reachable : (p.policy == .unreachable) = false := beq_eq_false_iff_ne.mpr hopeful
  simp [done, won, lost, trapped, unfailed, unwon, reachable]

namespace Session

variable {session : Session} {p after : Progression} {command : String} {action : Action}

/-- The action of a command is the first valid one with it. -/
theorem getElem?_actionsOf (game : Game) (p : Progression) (command : String) : (actionsOf game p)[command]? =
    p.validActions.find? fun action => normalized (game.commandFor action) == command := by
  rw [actionsOf, SortedMap.getElem?_foldl_insertIfNew fun action => normalized (game.commandFor action)]
  simp

theorem report_failsShort (game : Game) (after : Progression) (action : Action) (outcome : Outcome) :
    FailsShort (after.state.factsNamed "at") (report game after action outcome) :=
  (game.feedback_failsShort after.state action).bind fun _ => .ok _

theorem updateWatched_cases (watched : Bool) {completed failed : List Nat}
    (run : p.update action = .ok (.applied completed failed, after)) :
    p.updateWatched watched action = .ok (.applied completed failed, after) ∨
      watched = true ∧ ∃ fact ∈ after.state.factsNamed "at", fact.arguments.length < 2 ∧
        p.updateWatched watched action = .error (.shortPlacement fact) := by
  rw [Progression.updateWatched, run]
  cases watched with
  | false => exact .inl rfl
  | true =>
    show after.inspect >>= _ = _ ∨ _ ∧ ∃ fact ∈ _, _ ∧ after.inspect >>= _ = _
    rcases after.inspect_failsShort with ⟨fine, looked⟩ | ⟨fact, member, short, failed⟩
    · rw [looked]
      exact .inl rfl
    · rw [failed]
      exact .inr ⟨rfl, fact, member, short, rfl⟩

section Running

variable (running : session.progression = some p) (goes : p.done = false)
include running goes

theorem step_of_absent (absent : (actionsOf session.game p)[normalized command]? = none) :
    session.step command = .ok (⟨"Invalid command: '" ++ Text.trim command ++ "'.", p.score, false⟩, session) := by
  have now : session.running = .ok p := by rw [Session.running, running]
  simp only [step, now, bind, Except.bind, goes, absent]
  rfl

variable (found : (actionsOf session.game p)[normalized command]? = some action)
include found

/-- A command that has an action: the action is taken, and then reported. -/
theorem step_of_found : session.step command =
    p.updateWatched session.watched action >>= fun taken =>
      report session.game taken.2 action taken.1 >>= fun observation =>
        .ok (⟨observation, taken.2.score, taken.2.done⟩, { session with progression := some taken.2 }) := by
  have now : session.running = .ok p := by rw [Session.running, running]
  simp only [step, now, bind, Except.bind, goes, found]
  rfl

theorem step_of_refused {error : Error} (refused : p.update action = .error error) :
    session.step command = .error error := by
  rw [step_of_found running goes found, Progression.updateWatched, refused]
  rfl

/-- An action that was taken is reported, unless the world is to be seen and a placement is too short. -/
theorem step_of_taken {completed failed : List Nat} (run : p.update action = .ok (.applied completed failed, after)) :
    (∃ observation, session.step command =
      .ok (⟨observation, after.score, after.done⟩, { session with progression := some after })) ∨
    (session.watched = true ∨ Game.shows action = true) ∧ ∃ fact ∈ after.state.factsNamed "at",
      fact.arguments.length < 2 ∧ session.step command = .error (.shortPlacement fact) := by
  rw [step_of_found running goes found]
  rcases updateWatched_cases session.watched run with watched | ⟨watched, fact, member, short, blamed⟩
  · rcases report_failsShort session.game after action (.applied completed failed) with
      ⟨observation, told⟩ | ⟨fact, member, short, blamed⟩
    · exact .inl ⟨observation, bind_eq_ok_iff.mpr ⟨_, watched, bind_eq_ok_iff.mpr ⟨observation, told, rfl⟩⟩⟩
    · have seen : Game.shows action = true := by
        cases shows : Game.shows action with
        | true => rfl
        | false =>
          obtain ⟨text, told⟩ := session.game.exists_feedback after.state shows
          rw [report, told] at blamed
          cases blamed
      refine .inr ⟨.inr seen, fact, member, short, ?_⟩
      exact bind_eq_error_iff.mpr (.inr ⟨_, watched, bind_eq_error_iff.mpr (.inl blamed)⟩)
  · exact .inr ⟨.inl watched, fact, member, short, bind_eq_error_iff.mpr (.inl blamed)⟩

/-- There is no answer to an action that was taken if there is nothing to tell the player. -/
theorem step_of_blamed {t : State} {error : Error} (applied : p.state.apply action = .ok (some t))
    (unwatched : session.watched = false) (blamed : session.game.feedback t action = .error error) :
    session.step command = .error error := by
  have run := Progression.update_eq_ok_iff.mpr (.inr ⟨t, applied, rfl, rfl⟩)
  rw [step_of_found running goes found, Progression.updateWatched, run, unwatched]
  show session.game.feedback t action >>= _ >>= _ = _
  rw [blamed]
  rfl

end Running

/-- A command stands for an action exactly if a valid one has it. -/
theorem mem_keys_actionsOf {game : Game} : command ∈ (actionsOf game p).keys ↔
    ∃ action ∈ p.validActions, normalized (game.commandFor action) = command := by
  rw [Std.ExtTreeMap.mem_keys, SortedMap.mem_iff, getElem?_actionsOf, ← Option.isSome_iff_exists, List.find?_isSome]
  simp

theorem needs_of_valid (indexed : p.state.Indexed) (valid : action ∈ p.validActions) :
    ∀ fact ∈ action.before, fact ∈ p.state.facts := by
  obtain ⟨rule, -, binding, admits, instantiated⟩ := (State.mem_actions_iff indexed).mp valid
  exact State.applicable_iff.mp (admits.applicable instantiated)

/-- What a command comes to that has an action. If the action would add what cannot be stated, there is an error and
nothing has changed, even in place. Otherwise the action is taken, which counts as a move, and it is reported, unless
the world is to be seen and a placement is too short. -/
structure Plays (session : Session) (p : Progression) (command : String) (action : Action) : Prop where
  refused : (∃ fact ∈ action.added, p.state.kb.checkFact fact ≠ .ok ()) → ∃ error,
    p.state.kb.Refuses action.added.toList error ∧ session.step command = .error error ∧
    p.state.applyInPlace action = (.error error, p.state) ∧
    ∀ rest, session.stepAll (command :: rest) = (.error error, session)
  taken : (∀ fact ∈ action.added, p.state.kb.checkFact fact = .ok ()) → ∃ completed failed after,
    p.update action = .ok (.applied completed failed, after) ∧ after.moves = p.moves + 1 ∧
    ((∃ observation, session.step command =
      .ok (⟨observation, after.score, after.done⟩, { session with progression := some after })) ∨
    (session.watched = true ∨ Game.shows action = true) ∧ ∃ fact ∈ after.state.facts,
      fact.predicate = "at" ∧ fact.arguments.length < 2 ∧ session.step command = .error (.shortPlacement fact))

theorem plays_of_found (built : p.state.Built) (running : session.progression = some p) (goes : p.done = false)
    (found : (actionsOf session.game p)[normalized command]? = some action) : session.Plays p command action := by
  have first := (getElem?_actionsOf session.game p _).symm.trans found
  -- The action is a valid one, so that its needs are met: it may be refused, but it is not turned down.
  have needed := needs_of_valid built.indexed (List.mem_of_find?_eq_some first)
  refine ⟨fun unstated => ?_, fun stated => ?_⟩
  · simp only [← Std.ExtTreeSet.mem_toList (t := action.added)] at unstated
    obtain ⟨error, refused⟩ := KnowledgeBase.exists_refuses unstated
    obtain ⟨failed, inPlace⟩ := State.apply_of_refused needed refused
    have stepped := step_of_refused running goes found (by rw [Progression.update, failed]; rfl)
    exact ⟨error, refused, stepped, inPlace, fun rest => by rw [stepAll, stepped]⟩
  · obtain ⟨t, applied, -⟩ := State.apply_of_stated needed stated
    have run := Progression.update_eq_ok_iff.mpr (.inr ⟨t, applied, rfl, rfl⟩)
    refine ⟨_, _, _, run, rfl, (step_of_taken running goes found run).imp_right ?_⟩
    rintro ⟨seen, fact, member, short, failed⟩
    obtain ⟨holds, named⟩ := (built.apply applied).indexed.mem_factsNamed.mp member
    exact ⟨seen, fact, holds, named, short, failed⟩

/-- In a game that goes on, the commands that are listed are those that valid actions have, and each is its own normal
form. A command whose normal form is listed plays the first action with it, and any other command changes nothing. -/
theorem step_admissible (built : p.state.Built) (running : session.progression = some p) (goes : p.done = false) :
    ∃ commands, session.admissible = .ok commands ∧
      (∀ text, text ∈ commands ↔ ∃ action ∈ p.validActions, normalized (session.game.commandFor action) = text) ∧
      (∀ text ∈ commands, normalized text = text) ∧
      ∀ command,
        (normalized command ∈ commands → ∃ action,
          (p.validActions.find? fun action => normalized (session.game.commandFor action) == normalized command) =
            some action ∧ session.Plays p command action) ∧
        (normalized command ∉ commands → session.step command =
          .ok (⟨"Invalid command: '" ++ Text.trim command ++ "'.", p.score, false⟩, session)) := by
  have listed : session.admissible = .ok (actionsOf session.game p).keys := by
    rw [admissible, Session.running, running]
    rfl
  refine ⟨_, listed, fun text => mem_keys_actionsOf, fun text member => ?_,
    fun command => ⟨fun member => ?_, fun strange => ?_⟩⟩
  · obtain ⟨action, -, rfl⟩ := mem_keys_actionsOf.mp member
    exact normalized_idem _
  · obtain ⟨action, found⟩ := SortedMap.mem_iff.mp (Std.ExtTreeMap.mem_keys.mp member)
    exact ⟨action, (getElem?_actionsOf session.game p _).symm.trans found, plays_of_found built running goes found⟩
  · refine step_of_absent running goes ?_
    rwa [Std.ExtTreeMap.mem_keys, Std.ExtTreeMap.mem_iff_isSome_getElem?, Option.not_isSome_iff_eq_none] at strange

def kitchenSession : Session :=
  ⟨.of ⟨State.kitchen, ∅, FreshNames.empty⟩ [closedChest], ⟨3, 10⟩, some Progression.kitchenGame, false⟩

theorem kitchenGame_goes : Progression.kitchenGame.done = false := by
  have trackers : Progression.kitchenGame.trackers = [.ofQuest closedChest] := by decide +kernel
  refine Progression.done_eq_false (by rw [trackers]; rfl) (by rw [trackers]; rfl) ?_
  rw [Progression.kitchenGame_policy]
  exact Policy.noConfusion

theorem step_admissible_kitchen : Progression.kitchenGame.state.Built ∧
    kitchenSession.progression = some Progression.kitchenGame ∧ Progression.kitchenGame.done = false ∧
    ∃ commands, kitchenSession.admissible = .ok commands ∧ "close chest" ∈ commands ∧
      ∃ observation after, after.moves = 1 ∧ kitchenSession.step " Close  CHEST" =
        .ok (⟨observation, after.score, after.done⟩, { kitchenSession with progression := some after }) := by
  have first : (Progression.kitchenGame.validActions.find? fun action =>
      normalized (kitchenSession.game.commandFor action) == normalized " Close  CHEST") = some closeChest := by
    decide +kernel
  have called : normalized (kitchenSession.game.commandFor closeChest) = "close chest" := by decide +kernel
  have same : normalized " Close  CHEST" = "close chest" := by decide +kernel
  obtain ⟨-, stated, -⟩ := State.apply_eq_some_iff.mp closeChest_applied
  have running : kitchenSession.progression = some Progression.kitchenGame := rfl
  obtain ⟨commands, listed, members, -, answers⟩ := step_admissible State.kitchen_built running kitchenGame_goes
  have member : "close chest" ∈ commands := (members _).mpr ⟨closeChest, List.mem_of_find?_eq_some first, called⟩
  obtain ⟨action, found, plays⟩ := (answers " Close  CHEST").1 (same ▸ member)
  cases Option.some.inj (first.symm.trans found)
  obtain ⟨completed, failed, after, run, moves, told | ⟨seen, -⟩⟩ := plays.taken stated
  · obtain ⟨observation, told⟩ := told
    exact ⟨State.kitchen_built, running, kitchenGame_goes, commands, listed, member, observation, after, moves, told⟩
  · exact absurd seen (by decide +kernel)

/-- A look around makes a fact that places nothing. -/
def stray : Rule where
  name := "look"
  before := [⟨"here", [⟨"r", "r"⟩]⟩]
  after := [⟨"here", [⟨"r", "r"⟩]⟩, ⟨"at", []⟩]
  template := some "look"
  observational := false

def denKnowledge : KnowledgeBase :=
  { Core.knowledge with
    signatures := [⟨"here", ["r"]⟩, ⟨"at", []⟩]
    rules := [stray]
    constraints := [] }

def den : State := (State.empty denKnowledge).insert ⟨"here", [⟨"den", "r"⟩]⟩

def placing : Quest := ⟨[⟨[], SortedSet.of [⟨"at", []⟩]⟩], [], 1, none⟩

def denGame : Progression := .start den [placing] ⟨0, 100⟩

def denSession : Session := ⟨.of ⟨den, ∅, FreshNames.empty⟩ [placing], ⟨0, 100⟩, some denGame, false⟩

def straying : Action :=
  ⟨"look", SortedSet.of [⟨"here", [⟨"den", "r"⟩]⟩], SortedSet.of [⟨"here", [⟨"den", "r"⟩]⟩, ⟨"at", []⟩], some "look"⟩

def strayed : State := (den.eraseAll straying.removed.toList).insertAll straying.added.toList

theorem denGame_goes : denGame.done = false := by
  have trackers : denGame.trackers = [.ofQuest placing] := by decide +kernel
  have policy : denGame.policy = .unknown := by
    rw [denGame, Progression.start_policy, ← denGame, trackers]
    exact Policy.search_of_shallow (anyFailed_eq_false_iff.mp rfl)
      (fun won => Bool.false_ne_true (allWon_iff.mpr won)) rfl
  refine Progression.done_eq_false (by rw [trackers]; rfl) (by rw [trackers]; rfl) ?_
  rw [policy]
  exact Policy.noConfusion

/-- A command is listed, and its action adds what can be stated, but there is no answer to it. -/
theorem step_den : den.Built ∧ denSession.progression = some denGame ∧ denGame.done = false ∧
    denSession.admissible = .ok ["look"] ∧ denGame.validActions = [straying] ∧
    (∀ fact ∈ straying.added, den.kb.checkFact fact = .ok ()) ∧
    denSession.step "look" = .error (.shortPlacement ⟨"at", []⟩) := by
  have built : den.Built := .addFacts (.empty denKnowledge)
    (rfl : (State.empty denKnowledge).addFacts [⟨"here", [⟨"den", "r"⟩]⟩] = .ok den)
  have valid : denGame.validActions = [straying] := by decide +kernel
  have applied : denGame.state.apply straying = .ok (some strayed) :=
    State.apply_of_faultless (by decide +kernel) (by decide +kernel)
  have found : (actionsOf denSession.game denGame)[normalized "look"]? = some straying := by
    rw [getElem?_actionsOf, valid]
    decide +kernel
  have listed : (actionsOf denSession.game denGame).keys = ["look"] := by
    rw [actionsOf, valid]
    decide +kernel
  refine ⟨built, rfl, denGame_goes, congrArg Except.ok listed, valid, (State.apply_eq_some_iff.mp applied).2.1, ?_⟩
  exact step_of_blamed rfl denGame_goes found applied rfl (by decide +kernel)

end Session

end Adventure
