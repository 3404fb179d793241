import Adventure.Proofs.Generation.Replay
import Adventure.Proofs.Generation.Titles
import Adventure.Proofs.Play.Stepping

namespace Adventure

namespace Progression

/-- A game as it may stand after valid actions. -/
inductive Underway (game : Game) : Progression → Prop
  | start (options : PolicyOptions) : Underway game (start game.world.state game.quests options)
  | next {p q : Progression} {action : Action} {outcome : Outcome} : Underway game p → action ∈ p.validActions →
      p.update action = .ok (outcome, q) → Underway game q

variable {game : Game} {p q : Progression} {action : Action}

theorem Underway.played (underway : Underway game p) (built : game.world.state.Built) : p.Played := by
  induction underway with
  | start options => exact .start built game.quests options
  | next _ _ run ih => exact ih.next run

theorem Underway.reaches (underway : Underway game p) :
    game.world.state.Reaches game.world.state.kb.rules p.state := by
  induction underway with
  | start options => exact .start
  | @next p q action outcome _ listed run ih =>
    rcases update_eq_ok_iff.mp run with ⟨-, -, rfl⟩ | ⟨t, applied, rfl, -⟩
    · exact ih
    · rw [validActions, ih.kb] at listed
      exact ih.next listed applied

end Progression

namespace Session

variable {session : Session} {p : Progression} {command : String} {action : Action}

/-- A command plays an action: the action is taken, and the session goes on from there. -/
def Takes (session : Session) (p : Progression) (command : String) (action : Action) : Prop :=
  ∃ completed failed after observation, p.update action = .ok (.applied completed failed, after) ∧
    session.step command = .ok (⟨observation, after.score, after.done⟩, { session with progression := some after })

theorem actionsOf_eq_some_iff {game : Game} (apart : ∀ a ∈ p.validActions, ∀ b ∈ p.validActions,
      normalized (game.commandFor a) = normalized (game.commandFor b) → a = b) :
    (actionsOf game p)[command]? = some action ↔
      action ∈ p.validActions ∧ normalized (game.commandFor action) = command := by
  rw [getElem?_actionsOf]
  constructor
  · intro found
    exact ⟨List.mem_of_find?_eq_some found, by simpa using List.find?_some found⟩
  · rintro ⟨listed, same⟩
    have some : (p.validActions.find? fun a => normalized (game.commandFor a) == command).isSome = true :=
      List.find?_isSome.mpr ⟨action, listed, beq_iff_eq.mpr same⟩
    obtain ⟨other, found⟩ := Option.isSome_iff_exists.mp some
    have also : normalized (game.commandFor other) = command := by simpa using List.find?_some found
    rw [found, apart other (List.mem_of_find?_eq_some found) action listed (also.trans same.symm)]

theorem takes_of_found (running : session.progression = some p) (goes : p.done = false)
    (found : (actionsOf session.game p)[normalized command]? = some action) {completed failed : List Nat}
    {after : Progression} (run : p.update action = .ok (.applied completed failed, after))
    (tidy : Core.Tidy after.state) : session.Takes p command action := by
  rcases step_of_taken running goes found run with ⟨observation, told⟩ | ⟨-, fact, member, short, -⟩
  · exact ⟨completed, failed, after, observation, run, told⟩
  · have long := Core.length_of_at tidy.lawful.built tidy.lawful.core fact member
    omega

end Session

namespace Core

variable {options : GameOptions} {game : Game} {p : Progression} {action : Action} {s t : State}
  {naming : String → String}

/-- Play leaves the map as it is and brings nothing into sight, so that commands stay as clear as they were. -/
theorem clear_of_reaches (tidy : Tidy s) (furnished : World.Furnished s) (distinguishes : Distinguishes naming s)
    (reach : s.Reaches rules t) : Clear naming t := by
  obtain ⟨kept, map, known⟩ := tidy.of_reaches reach
  have links {fact : Fact} (named : fact.predicate = "link") (holds : fact ∈ t.facts) : fact ∈ s.facts :=
    (map fact (named ▸ by decide)).mp holds
  have exits {direction : Direction} {a b : Entity} (holds : ⟨direction.predicate, [a, b]⟩ ∈ t.facts) :
      ⟨direction.predicate, [a, b]⟩ ∈ s.facts :=
    (map _ (predicate_mem_mapPredicates direction)).mp holds
  refine ⟨kept, kept.obeys ?_ ?_, distinguishes.mono ?_⟩
  · exact fun direction room a b holdsA holdsB => furnished.unambiguous direction room a b (exits holdsA) (exits holdsB)
  · exact fun a door b c linkB linkC => furnished.hinged a door b c (links rfl linkB) (links rfl linkC)
  · rintro e ⟨here, player, inventory⟩
    refine ⟨known e here fun type => inventory ⟨kept.lawful.known here, ?_⟩, player, inventory⟩
    rw [type]
    decide

theorem clear_of_underway (core : options.kb = knowledge) (made : makeGame options = .ok game)
    (underway : p.Underway game) : Clear game.nameOf p.state := by
  obtain ⟨streams, drawn⟩ := exists_makeGameFrom made
  obtain ⟨-, furnished, accepted⟩ := makeGameFrom_world core drawn
  have reach := underway.reaches
  rw [accepted.core] at reach
  exact clear_of_reaches (accepted.tidy furnished) furnished (distinguishes_of_makeGameFrom core drawn) reach

theorem Clear.listed (clear : Clear naming p.state) (valid : action ∈ p.validActions) :
    action ∈ p.state.actions rules Binding.fixed := by
  rw [Progression.validActions, clear.tidy.lawful.core] at valid
  exact valid

theorem Clear.isSimple_commandFor (clear : Clear game.nameOf p.state) (valid : action ∈ p.validActions) :
    ∀ word ∈ Text.words (game.commandFor action), Text.IsSimple word :=
  clear.isSimple (clear.listed valid)

open Session in
/-- No two valid actions have the same command. -/
theorem Clear.eq_of_normalized (clear : Clear game.nameOf p.state) {a b : Action} (validA : a ∈ p.validActions)
    (validB : b ∈ p.validActions) (same : normalized (game.commandFor a) = normalized (game.commandFor b)) : a = b := by
  have words := congrArg Text.words same
  rw [words_normalized (clear.isSimple_commandFor validA), words_normalized (clear.isSimple_commandFor validB)] at words
  exact clear.eq_of_words (clear.listed validA) (clear.listed validB) words

/-- A valid action can be taken. -/
theorem exists_update (tidy : Tidy p.state) (valid : action ∈ p.validActions) : ∃ completed failed after,
    p.update action = .ok (.applied completed failed, after) := by
  have built := tidy.lawful.built
  obtain ⟨rule, member, binding, admits, instantiated⟩ := (State.mem_actions_iff built.indexed).mp valid
  rw [tidy.lawful.core] at member
  have typed : rule.Typed p.state.kb := tidy.lawful.core ▸ rules_typed rule member
  have transitive : p.state.kb.types.Transitive := tidy.lawful.core ▸ types_transitive
  obtain ⟨t, applied⟩ := admits.exists_apply built transitive typed instantiated
  exact ⟨_, _, _, Progression.update_eq_ok_iff.mpr (.inr ⟨t, applied, rfl, rfl⟩)⟩

/-- What a plan begins with is a valid action. -/
theorem valid_of_planned (planned : p.Planned) {plan : List Action} (found : p.plan = some (action :: plan)) :
    action ∈ p.validActions := by
  have policy : p.policy = .found (action :: plan) := by
    rw [Progression.plan] at found
    split at found
    next policy =>
      cases found
      exact policy
    next => cases found
  obtain ⟨-, shortest⟩ := planned.plan _ policy
  obtain ⟨t, after, first, -⟩ := Wins.cons_iff.mp shortest.wins
  obtain ⟨rule, member, rest⟩ := (State.mem_actions_iff planned.indexed).mp first.listed
  exact (State.mem_actions_iff planned.indexed).mpr ⟨rule, List.mem_of_mem_filter member, rest⟩

end Core

open Adventure.Core Session in
/-- The commands of a generated game are unambiguous: however it is played, no two valid actions have the same command,
so that each command that can be typed, and the first of those that win, plays the action that it stands for. -/
theorem commands_unambiguous {options : GameOptions} {game : Game} {p : Progression} (core : options.kb = knowledge)
    (made : makeGame options = .ok game) (underway : p.Underway game) :
    (∀ a ∈ p.validActions, ∀ b ∈ p.validActions,
      normalized (game.commandFor a) = normalized (game.commandFor b) → a = b) ∧
    ∀ session : Session, session.game = game → session.progression = some p → p.done = false →
      (∃ commands, session.admissible = .ok commands ∧ ∀ command, command ∈ commands ↔
        ∃ action ∈ p.validActions, normalized (game.commandFor action) = command) ∧
      (∀ action ∈ p.validActions, session.Takes p (normalized (game.commandFor action)) action ∧
        session.Takes p (game.commandFor action) action) ∧
      ∀ first rest, session.planned = .ok (some (first :: rest)) → ∃ action plan, p.plan = some (action :: plan) ∧
        action ∈ p.validActions ∧ game.commandFor action = first ∧ session.Takes p first action := by
  have clear := clear_of_underway core made underway
  have apart : ∀ a ∈ p.validActions, ∀ b ∈ p.validActions,
      normalized (game.commandFor a) = normalized (game.commandFor b) → a = b :=
    fun a validA b validB => clear.eq_of_normalized validA validB
  refine ⟨apart, ?_⟩
  rintro session rfl running goes
  have now : session.running = .ok p := by rw [Session.running, running]
  have takes {action : Action} {command : String} (valid : action ∈ p.validActions)
      (same : normalized (session.game.commandFor action) = normalized command) : session.Takes p command action := by
    obtain ⟨completed, failed, after, run⟩ := exists_update clear.tidy valid
    exact takes_of_found running goes ((actionsOf_eq_some_iff apart).mpr ⟨valid, same⟩) run
      (clear_of_underway core made (underway.next valid run)).tidy
  refine ⟨⟨_, by rw [admissible, now]; rfl, fun command => ?_⟩, fun action valid => ⟨takes valid ?_, takes valid rfl⟩, ?_⟩
  · rw [Std.ExtTreeMap.mem_keys, SortedMap.mem_iff]
    exact exists_congr fun action => actionsOf_eq_some_iff apart
  · exact (normalized_normalized (clear.isSimple_commandFor valid)).symm
  · intro first rest planned
    rw [Session.planned, now] at planned
    obtain ⟨plan, found, commands⟩ := Option.map_eq_some_iff.mp (Except.ok.inj planned)
    obtain ⟨action, others, rfl, rfl, -⟩ := List.map_eq_cons_iff.mp commands
    obtain ⟨streams, drawn⟩ := exists_makeGameFrom made
    obtain ⟨-, -, accepted⟩ := makeGameFrom_world core drawn
    have valid := valid_of_planned (underway.played accepted.built).planned found
    exact ⟨action, others, found, valid, rfl, takes valid rfl⟩

open Adventure.Core Session in
theorem commands_unambiguous_seeded : seededOptions.kb = knowledge ∧ ∃ (game : Game) (p : Progression),
    makeGame seededOptions = .ok game ∧ p.Underway game ∧
    (∀ a ∈ p.validActions, ∀ b ∈ p.validActions,
      normalized (game.commandFor a) = normalized (game.commandFor b) → a = b) ∧
    ∀ session : Session, session.game = game → session.progression = some p → p.done = false →
      (∃ commands, session.admissible = .ok commands ∧ ∀ command, command ∈ commands ↔
        ∃ action ∈ p.validActions, normalized (game.commandFor action) = command) ∧
      (∀ action ∈ p.validActions, session.Takes p (normalized (game.commandFor action)) action ∧
        session.Takes p (game.commandFor action) action) ∧
      ∀ first rest, session.planned = .ok (some (first :: rest)) → ∃ action plan, p.plan = some (action :: plan) ∧
        action ∈ p.validActions ∧ game.commandFor action = first ∧ session.Takes p first action := by
  obtain ⟨game, made⟩ := exists_seededGame
  have underway : Progression.Underway game _ := .start PolicyOptions.usual
  exact ⟨rfl, game, _, made, underway, commands_unambiguous rfl made underway⟩

end Adventure
