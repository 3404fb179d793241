import Adventure.Generation.Game
import Adventure.Proofs.Chain.Regression
import Adventure.Proofs.Game.Recording
import Adventure.Proofs.Generation.Map
import Adventure.Proofs.Generation.Walkthrough
import Adventure.Proofs.World.Coherence
import Adventure.Proofs.World.Population

namespace Adventure

open Adventure.Core

section Quests

variable {options : ChainOptions} {s t : State} {moves : Moves} {action : Action} {e : Entity} {chain : Chain}

/-- An entity that a record of a state may name: one of the state, or the player or the inventory. -/
def State.Names (s : State) (e : Entity) : Prop := e ∈ s.entities ∨ e.name ∈ GameRecord.alwaysKnown

theorem Binding.fixed_known {p : Placeholder} (here : Binding.fixed[p]? = some e) :
    e.name ∈ GameRecord.alwaysKnown := by
  have entry : (p, e) ∈ Binding.fixed.toList := Std.ExtTreeMap.mem_toList_iff_getElem?_eq_some.mpr here
  have entries : ∀ entry ∈ Binding.fixed.toList, entry.2.name ∈ GameRecord.alwaysKnown := by decide
  exact entries (p, e) entry

/-- An action is about entities that there are. -/
theorem State.names_of_listed {rules : List Rule} (indexed : s.Indexed)
    (listed : action ∈ s.actions rules Binding.fixed) (mentioned : e ∈ action.entities) : s.Names e := by
  obtain ⟨rule, -, binding, admits, instantiated⟩ := (State.mem_actions_iff indexed).mp listed
  obtain ⟨p, here⟩ := Rule.exists_of_mem_entities instantiated mentioned
  rcases admits.known_or_fixed here with known | ⟨-, fixed⟩
  · exact .inl (indexed.mem_entities.mpr known)
  · exact .inr (Binding.fixed_known fixed)

theorem State.names_of_apply (indexed : s.Indexed) (mentioned : ∀ e ∈ action.entities, s.Names e)
    (run : s.apply action = .ok (some t)) (known : e ∈ t.entities) : s.Names e := by
  obtain ⟨fact, holds, argument⟩ := (indexed.apply run).mem_entities.mp known
  rcases (State.mem_apply run).mp holds with new | ⟨old, -⟩
  · exact mentioned e (Action.mem_entities.mpr ⟨fact, .inr new, argument⟩)
  · exact .inl (indexed.mem_entities.mpr ⟨fact, old, argument⟩)

/-- The actions of a chain are about entities of the start. -/
theorem Forward.Admissible.names (admissible : Forward.Admissible options s moves) (indexed : s.Indexed)
    (fixed : options.fixed = Binding.fixed) : (moves.state s).Indexed ∧ (∀ e, (moves.state s).Names e → s.Names e) ∧
      ∀ action ∈ moves.map Prod.fst, ∀ e ∈ action.entities, s.Names e := by
  induction admissible with
  | start => exact ⟨indexed, fun e known => known, by simp⟩
  | @next moves action t _ continues ih =>
    obtain ⟨between, states, actions⟩ := ih
    have listed := continues.listed
    rw [fixed] at listed
    have here : ∀ e ∈ action.entities, (moves.state s).Names e := fun e => State.names_of_listed between listed
    refine ⟨between.apply continues.applied, fun e known => ?_, ?_⟩
    · rcases known with known | always
      · exact states e (State.names_of_apply between here continues.applied known)
      · exact .inr always
    · rw [List.map_cons, List.forall_mem_cons]
      exact ⟨fun e mentioned => states e (here e mentioned), actions⟩

theorem Chain.mem_actions_of_part {part : List Action} (member : part ∈ chain.splitByBreadth) (among : action ∈ part) :
    action ∈ chain.actions := by
  rw [Chain.splitByBreadth_eq] at member
  obtain ⟨number, -, rfl⟩ := List.mem_map.mp member
  rw [← Dependencies.labelled_actions .empty chain.actions]
  exact List.mem_map.mpr ⟨_, mem_stepsOf.mp among, rfl⟩

/-- The quests that are made for a state are about its entities. -/
theorem makeQuests_names {rng : Rng} {quests : List Quest} (indexed : s.Indexed) (fixed : options.fixed = Binding.fixed)
    (made : (makeQuests s options rng).1 = .ok (chain, quests)) : ∀ quest ∈ quests, quest.Filled ∧
      ∀ event ∈ quest.wins ++ quest.fails, ∀ fact, event.Tells fact → ∀ e ∈ fact.arguments, s.Names e := by
  obtain ⟨-, rfl, filled⟩ := makeQuests_eq_ok made
  obtain ⟨found, search, made⟩ := bind_eq_ok_iff.mp made
  obtain ⟨parts, -, same⟩ := bind_eq_ok_iff.mp made
  cases same
  obtain ⟨moves, admissible, -, rfl, -⟩ := Forward.search_meets search
  obtain ⟨-, -, actions⟩ := admissible.names indexed fixed
  intro quest member
  obtain ⟨part, listed, rfl⟩ := List.mem_map.mp member
  refine ⟨⟨.inl (by simp [Quest.toTake]), by simpa [Quest.toTake] using filled part listed⟩, ?_⟩
  intro event among fact tells e argument
  cases List.mem_singleton.mp among
  rcases tells with ⟨action, taken, side⟩ | none
  · have on : action ∈ (Forward.chainOf s moves).actions := Chain.mem_actions_of_part listed taken
    exact actions action (List.mem_reverse.mp on) e (Action.mem_entities.mpr ⟨fact, side, argument⟩)
  · simp at none

end Quests

section Dressing

variable {α β : Type}

theorem Random.mem_mapM {draw : α → Random β} {R : α → β → Prop} (each : ∀ x rng, R x (draw x rng).1) (xs : List α)
    (rng : Rng) : ∀ y ∈ (xs.mapM draw rng).1, ∃ x ∈ xs, R x y := by
  induction xs generalizing rng with
  | nil =>
    intro y member
    rw [List.mapM_nil] at member
    cases member
  | cons x xs ih =>
    rw [List.mapM_cons]
    intro y member
    rcases List.mem_cons.mp member with rfl | later
    · exact ⟨x, List.mem_cons_self, each x rng⟩
    · obtain ⟨z, among, holds⟩ := ih _ y later
      exact ⟨z, List.mem_cons_of_mem x among, holds⟩

theorem Naming.mem_mapM {give : α → Naming β} {R : α → β → Prop} (each : ∀ x used rng, R x ((give x).run used rng).1.1)
    (xs : List α) (used : SortedSet String) (rng : Rng) :
    ∀ y ∈ ((xs.mapM give).run used rng).1.1, ∃ x ∈ xs, R x y := by
  induction xs generalizing used rng with
  | nil =>
    intro y member
    rw [List.mapM_nil] at member
    cases member
  | cons x xs ih =>
    rw [List.mapM_cons]
    intro y member
    rcases List.mem_cons.mp member with rfl | later
    · exact ⟨x, List.mem_cons_self, each x used rng⟩
    · obtain ⟨z, among, holds⟩ := ih _ _ y later
      exact ⟨z, List.mem_cons_of_mem x among, holds⟩

variable {game : Game} {walkthrough : List Action} {rng : Rng}

/-- What the player is told is filed under the entities that it is about. -/
theorem Game.filed_dressed {key : String} {info : EntityInfo}
    (found : (game.dressed walkthrough rng).1.infos[key]? = some info) : ∃ e ∈ game.world.state.entities,
      e.name = key ∧ e.name = info.id ∧ e.type = info.type := by
  obtain ⟨e, named, filed⟩ := Naming.mem_mapM
    (R := fun e (entry : String × EntityInfo) => e.name = entry.1 ∧ e.name = entry.2.id ∧ e.type = entry.2.type)
    (fun entity used rng => ⟨rfl, rfl, rfl⟩) game.named ∅ rng (key, info) (SortedMap.mem_of_eq_some found)
  exact ⟨e, (List.mem_filter.mp named).1, filed⟩

theorem Game.exists_of_mem_dressed {quest : Quest} (member : quest ∈ (game.dressed walkthrough rng).1.quests) :
    ∃ original ∈ game.quests, quest.wins = original.wins ∧ quest.fails = original.fails :=
  Random.mem_mapM (R := fun original (quest : Quest) => quest.wins = original.wins ∧ quest.fails = original.fails)
    (fun _ _ => ⟨rfl, rfl⟩) game.quests _ quest member

/-- Names and descriptions keep a game recordable. -/
theorem Game.Recordable.dressed (recordable : game.Recordable) : (game.dressed walkthrough rng).1.Recordable where
  coherent := recordable.coherent
  charted := recordable.charted
  named := recordable.named
  filed key info found := by
    obtain ⟨e, known, filed⟩ := Game.filed_dressed found
    exact ⟨e, known, filed⟩
  filled quest member := by
    obtain ⟨original, among, wins, fails⟩ := Game.exists_of_mem_dressed member
    obtain ⟨some, events⟩ := recordable.filled original among
    rw [← wins, ← fails] at some events
    exact ⟨some, events⟩
  known quest member := by
    obtain ⟨original, among, wins, fails⟩ := Game.exists_of_mem_dressed member
    rw [wins, fails]
    exact recordable.known original among

end Dressing

section Making

variable {options : GameOptions} {streams : Streams} {game : Game}

/-- A game is made of a map, things, quests and names, each drawn from a source of its own. -/
theorem makeGameFrom_eq_ok (made : makeGameFrom options streams = .ok game) :
    ∃ (forMap forThings forQuests forNames : Rng) (w v : World) (chain : Chain) (quests : List Quest),
      (makeMap options.kb options.generation.rooms forMap).1 = .ok w ∧
      v = (w.populate options.generation.objects (some options.generation.weights) forThings).1.world ∧
      (makeQuests v.state options.chainOptions forQuests).1 = .ok (chain, quests) ∧
      ∃ metadata, game = { ((Game.of v quests).dressed chain.actions forNames).1 with metadata } := by
  obtain ⟨w, map, made⟩ := bind_eq_ok_iff.mp made
  dsimp only at made
  split at made
  next => cases made
  next =>
    obtain ⟨_, -, made⟩ := bind_eq_ok_iff.mp made
    obtain ⟨⟨chain, quests⟩, found, made⟩ := bind_eq_ok_iff.mp made
    cases made
    exact ⟨_, _, _, _, w, _, chain, quests, map, rfl, found, _, rfl⟩

/-- A game is made from the sources that the options give, or else from those of a seed drawn later. -/
theorem exists_source (made : makeGame options = .ok game) : ∃ streams, makeGameFrom options streams = .ok game ∧
    (streams = .ofSeeds options.seed options.seeds ∨ ∃ root, streams = .ofRoot root) := by
  have again {times : Nat} {root : Streams} {fault : ChainFault}
      (made : makeGameAgain options times root fault = .ok game) :
      ∃ seed, makeGameFrom options (.ofRoot seed) = .ok game := by
    induction times generalizing root fault with
    | zero => cases made
    | succ times ih =>
      rw [makeGameAgain] at made
      dsimp only at made
      split at made
      next => exact ih made
      next => exact ⟨_, made⟩
  rw [makeGame] at made
  split at made
  next =>
    obtain ⟨seed, later⟩ := again made
    exact ⟨.ofRoot seed, later, .inr ⟨seed, rfl⟩⟩
  next => exact ⟨_, made, .inl rfl⟩

theorem exists_makeGameFrom (made : makeGame options = .ok game) :
    ∃ streams, makeGameFrom options streams = .ok game :=
  (exists_source made).imp fun _ => And.left

theorem makeGame_of_first (made : makeGameFrom options (.ofSeeds options.seed options.seeds) = .ok game) :
    makeGame options = .ok game := by
  rw [makeGame]
  simp only [made]

end Making

/-- A map as drawn leads each way to one room, and names are given to its rooms and doors in order. -/
theorem Draft.Charts.furnished {draft : Draft} {s : State} (charts : draft.Charts s) : World.Furnished s where
  unambiguous direction room a b holdsA holdsB := by
    rw [charts.facts] at holdsA holdsB
    obtain ⟨cell, here, there⟩ := (charts.sound.drawn _ holdsA).exists_cell
    cases there.symm.trans (charts.sound.step here holdsB)
    rfl
  hinged a door b c linkB linkC :=
    charts.sound.hinged a door b c ((charts.facts _).mp linkB) ((charts.facts _).mp linkC)
  uneaten fact holds := charts.sound.predicate_ne ((charts.facts fact).mp holds) (by simp)
  coined e known := by
    obtain ⟨fact, member, mentioned⟩ := charts.mentioned known
    rcases charts.sound.mentioned member mentioned with rfl | ⟨cell, here⟩ | ⟨minted, -⟩
    · exact .inl rfl
    · exact .inr (.inr (charts.sound.minted cell e here).coined)
    · exact .inr (.inr minted.coined)

/-- A generated map can be completed no further, and play on it can begin. -/
theorem makeMap_charted {count : Nat} {rng : Rng} {w : World} (made : (makeMap knowledge count rng).1 = .ok w) :
    World.Coherent w ∧ World.Furnished w.state ∧ Accepted w := by
  rw [makeMap] at made
  split at made
  next => cases made
  next =>
    obtain ⟨sound, -⟩ := Draft.sound_start.1.extendTimes (count - 1) rng
    obtain ⟨same, added, depicts⟩ := sound.exists_addFacts
    cases added.symm.trans made
    have charts := depicts.charts
    have blank : World.Coherent ((Draft.start knowledge).extendTimes (count - 1) rng).1.world :=
      World.coherent_empty.congr sound.blank sound.unplaced
    refine ⟨blank.addFacts added, charts.furnished, charts.built, charts.core, ?_, charts.check⟩
    intro x inX y inY
    obtain ⟨f, holdsF, mentionedX⟩ := charts.mentioned inX
    obtain ⟨g, holdsG, mentionedY⟩ := charts.mentioned inY
    exact charts.sound.named holdsF holdsG mentionedX mentionedY

theorem Core.Accepted.populate {w : World} (accepted : Accepted w) (count : Nat) (weights : Option Weights)
    (rng : Rng) :
    Accepted (w.populate count weights rng).1.world := by
  rw [World.populate]
  split
  next => exact accepted
  next =>
    obtain ⟨new, -, populates⟩ := accepted.populates (weights.getD World.usualWeights) count [] rng
    exact populates.accepted

/-- What holds of the world of a generated game. -/
theorem makeGameFrom_world {options : GameOptions} {streams : Streams} {game : Game} (core : options.kb = knowledge)
    (made : makeGameFrom options streams = .ok game) :
    World.Coherent game.world ∧ World.Furnished game.world.state ∧ Accepted game.world := by
  obtain ⟨forMap, forThings, forQuests, forNames, w, v, chain, quests, map, populated, -, metadata, rfl⟩ :=
    makeGameFrom_eq_ok made
  rw [core] at map
  obtain ⟨coherent, furnished, accepted⟩ := makeMap_charted map
  have world : World.Coherent v ∧ World.Furnished v.state ∧ Accepted v := by
    rw [populated]
    exact ⟨coherent.populate _ _ _, furnished.populate accepted.built _ _ _, accepted.populate _ _ _⟩
  exact world

theorem recordable_of_makeGameFrom {options : GameOptions} {streams : Streams} {game : Game}
    (core : options.kb = knowledge) (made : makeGameFrom options streams = .ok game) : game.Recordable := by
  obtain ⟨coherent, furnished, accepted⟩ := makeGameFrom_world core made
  obtain ⟨forMap, forThings, forQuests, forNames, w, v, chain, quests, map, populated, found, metadata, rfl⟩ :=
    makeGameFrom_eq_ok made
  have after : World.Coherent v := coherent
  have names := makeQuests_names after.built.indexed rfl found
  have plain : (Game.of v quests).Recordable := {
    coherent := after
    charted := after.charted furnished.unambiguous
    named := accepted.named
    filed := by simp [Game.of]
    filled := fun quest member => (names quest member).1
    known := fun quest member => (names quest member).2 }
  have dressed : ((Game.of v quests).dressed chain.actions forNames).1.Recordable := plain.dressed
  exact ⟨dressed.coherent, dressed.charted, dressed.named, dressed.filed, dressed.filled, dressed.known⟩

/-- A generated game survives its record: there is nothing wrong with the record, and the game that it describes has the
same facts, quests, names and data. -/
theorem generated_record {options : GameOptions} {game : Game} (core : options.kb = knowledge)
    (made : makeGame options = .ok game ∨ ∃ streams, makeGameFrom options streams = .ok game) :
    game.record.problems = [] ∧ ∃ again, Game.ofRecord knowledge game.record = .ok again ∧
      again.world.facts = game.world.facts ∧ again.quests = game.quests ∧ again.infos = game.infos ∧
      again.metadata = game.metadata ∧ again.extras = game.extras ∧ (again == game) = true := by
  obtain ⟨streams, made⟩ := made.elim exists_makeGameFrom id
  have recordable := recordable_of_makeGameFrom core made
  obtain ⟨again, read, state, rest⟩ := recordable.exists_ofRecord
  exact ⟨recordable.problems_eq_nil, again, read, by rw [World.facts, state, World.facts], rest⟩

/-- The chain for a game, if the search for it has just one way to go. -/
def directChain (options : GameOptions) (streams : Streams) (steps : Nat) : Option Chain :=
  let mapped := streams.draw "map" (makeMap options.kb options.generation.rooms)
  mapped.1.toOption.bind fun world =>
    let populated := mapped.2.draw "objects"
      (world.populate options.generation.objects (some options.generation.weights))
    if populated.1.fault = none then
      let chain := options.chainOptions.forQuests (populated.2.draw "quest" Random.word64).1
      Search.descend (Forward.strategy chain) steps ⟨populated.1.world.state, [], .empty⟩ chain.rng
    else none

theorem exists_game_of_directChain {options : GameOptions} {streams : Streams} {steps : Nat} {chain : Chain}
    (core : options.kb = knowledge) (way : directChain options streams steps = some chain)
    (room : steps < options.chaining.maxNodes) (filled : ∀ part ∈ chain.splitByBreadth, part ≠ []) :
    ∃ game, makeGameFrom options streams = .ok game := by
  obtain ⟨w, made, way⟩ := Option.bind_eq_some_iff.mp way
  have map : (streams.draw "map" (makeMap options.kb options.generation.rooms)).1 = .ok w := by
    generalize (streams.draw "map" (makeMap options.kb options.generation.rooms)).1 = mapped at made
    cases mapped with
    | error => cases made
    | ok => rw [Option.some.inj made]
  obtain ⟨done, way⟩ := Option.ite_none_right_eq_some.mp way
  obtain ⟨-, -, accepted⟩ := makeMap_charted (core ▸ map)
  have valid (rng : Rng) :=
    (accepted.populate options.generation.objects (some options.generation.weights) rng).valid
  have found := Search.fromRoot_of_descend way room
  have quests := Quest.mapM_ofActions_eq_ok_iff.mpr ⟨rfl, filled⟩
  cases outcome : makeGameFrom options streams with
  | ok game => exact ⟨game, rfl⟩
  | error error =>
    rcases bind_eq_error_iff.mp outcome with wrong | ⟨_, same, outcome⟩
    · cases map.symm.trans wrong
    cases map.symm.trans same
    dsimp only at outcome
    split at outcome
    next fault => cases fault.symm.trans done
    next =>
      rcases bind_eq_error_iff.mp outcome with wrong | ⟨_, -, outcome⟩
      · cases (valid _).symm.trans wrong
      rcases bind_eq_error_iff.mp outcome with wrong | ⟨_, -, outcome⟩
      · rcases bind_eq_error_iff.mp wrong with wrong | ⟨_, same, wrong⟩
        · cases found.symm.trans wrong
        cases found.symm.trans same
        rcases bind_eq_error_iff.mp wrong with wrong | ⟨_, -, wrong⟩
        · cases quests.symm.trans wrong
        · cases wrong
      · cases outcome

/-- For two rooms and a quest of two steps. -/
def smallOptions : GameOptions :=
  { GameOptions.usual knowledge 0 with generation := ⟨2, 0, 2, 1, World.usualWeights⟩ }

theorem generated_record_small : smallOptions.kb = knowledge ∧ ∃ game, makeGame smallOptions = .ok game ∧
    game.record.problems = [] ∧ ∃ again, Game.ofRecord knowledge game.record = .ok again ∧
      again.world.facts = game.world.facts ∧ again.quests = game.quests ∧ again.infos = game.infos ∧
      again.metadata = game.metadata ∧ again.extras = game.extras ∧ (again == game) = true := by
  have evaluated : (directChain smallOptions (.ofSeeds smallOptions.seed smallOptions.seeds) 2).any (fun chain =>
      ∀ part ∈ chain.splitByBreadth, part ≠ []) = true := by decide +kernel
  obtain ⟨chain, way, filled⟩ := (Option.any_eq_true ..).mp evaluated
  obtain ⟨game, made⟩ := exists_game_of_directChain rfl way (by decide) (of_decide_eq_true filled)
  have whole := makeGame_of_first made
  exact ⟨rfl, game, whole, generated_record rfl (.inl whole)⟩

end Adventure
