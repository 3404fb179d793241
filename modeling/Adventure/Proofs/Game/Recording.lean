import Adventure.Game.Basic
import Adventure.Proofs.World.Completion

namespace Adventure

theorem Action.action_record (action : Action) : action.record.action = action := by
  obtain ⟨name, before, after, template⟩ := action
  simp only [Action.record, ActionRecord.action, Action.of, SortedSet.of_toList]

namespace Event

/-- The facts that an event speaks of. -/
def Tells (event : Event) (fact : Fact) : Prop :=
  (∃ action ∈ event.actions, fact ∈ action.before ∨ fact ∈ action.after) ∨ fact ∈ event.conditions

theorem event_record {event : Event} (filled : event.actions ≠ [] ∨ event.conditions.toList ≠ [])
    (naming : String → String) :
    (event.record naming).event = .ok event := by
  obtain ⟨actions, conditions⟩ := event
  have same : (actions.map Action.record).map ActionRecord.action = actions := by
    rw [List.map_map]
    exact (List.map_congr_left fun action _ => action.action_record).trans (List.map_id _)
  rw [Event.record, EventRecord.event, same, Event.of, if_neg, SortedSet.of_toList]
  simpa [Classical.or_iff_not_imp_left] using filled

end Event

theorem mapM_eq_ok_of_map {ε α β : Type} {read : β → Except ε α} {write : α → β} {xs : List α}
    (back : ∀ x ∈ xs, read (write x) = .ok x) : (xs.map write).mapM read = .ok xs := by
  induction xs with
  | nil => rfl
  | cons x xs ih =>
    obtain ⟨here, others⟩ := List.forall_mem_cons.mp back
    rw [List.map_cons, List.mapM_cons, here, ih others]
    rfl

namespace Quest

/-- A quest with events, each with something to be observed. -/
structure Filled (quest : Quest) : Prop where
  some : quest.wins ≠ [] ∨ quest.fails ≠ []
  events : ∀ event ∈ quest.wins ++ quest.fails, event.actions ≠ [] ∨ event.conditions.toList ≠ []

theorem quest_record {quest : Quest} (filled : quest.Filled) (naming : String → String) :
    (quest.record naming).quest = .ok quest := by
  have wins : (quest.wins.map (Event.record naming)).mapM EventRecord.event = .ok quest.wins :=
    mapM_eq_ok_of_map fun event member =>
      Event.event_record (filled.events event (List.mem_append_left _ member)) naming
  have fails : (quest.fails.map (Event.record naming)).mapM EventRecord.event = .ok quest.fails :=
    mapM_eq_ok_of_map fun event member =>
      Event.event_record (filled.events event (List.mem_append_right _ member)) naming
  refine bind_eq_ok_iff.mpr ⟨_, wins, bind_eq_ok_iff.mpr ⟨_, fails, ?_⟩⟩
  rw [Quest.of, if_neg]
  · rfl
  · simpa [Classical.or_iff_not_imp_left] using filled.some

end Quest

namespace GameRecord

variable {types : SortedMap String String} {known : SortedSet String} {es : List Entity}

/-- Where no name has two types, none clashes, and each name gets its type. -/
theorem entityTypes_spec (agree : ∀ e ∈ es, ∀ type, types[e.name]? = some type → type = e.type)
    (alike : ∀ x ∈ es, ∀ y ∈ es, x.name = y.name → x.type = y.type) :
    (entityTypes types es).2 = [] ∧ (∀ e ∈ es, (entityTypes types es).1[e.name]? = some e.type) ∧
    ∀ (name : String) type, types[name]? = some type → (entityTypes types es).1[name]? = some type := by
  induction es generalizing types with
  | nil => exact ⟨rfl, by simp, fun name type here => here⟩
  | cons e es ih =>
    obtain ⟨here, others⟩ := List.forall_mem_cons.mp agree
    have alikeRest : ∀ x ∈ es, ∀ y ∈ es, x.name = y.name → x.type = y.type := fun x inX y inY =>
      alike x (List.mem_cons_of_mem e inX) y (List.mem_cons_of_mem e inY)
    rw [entityTypes]
    split
    next absent =>
      have entered : ∀ x ∈ es, ∀ type, (types.insert e.name e.type)[x.name]? = some type → type = x.type := by
        intro x member type found
        rcases SortedMap.eq_or_of_insert found with ⟨same, rfl⟩ | old
        · exact alike e List.mem_cons_self x (List.mem_cons_of_mem e member) same
        · exact others x member type old
      obtain ⟨none, all, kept⟩ := ih entered alikeRest
      refine ⟨none, List.forall_mem_cons.mpr ⟨kept _ _ Std.ExtTreeMap.getElem?_insert_self, all⟩, ?_⟩
      intro name type found
      refine kept name type ?_
      rw [Std.ExtTreeMap.getElem?_insert, if_neg, found]
      rw [Std.LawfulEqOrd.compare_eq_iff_eq]
      rintro rfl
      rw [absent] at found
      cases found
    next type present =>
      cases here type present
      obtain ⟨none, all, kept⟩ := ih others alikeRest
      simp only [if_true]
      exact ⟨none, List.forall_mem_cons.mpr ⟨kept _ _ present, all⟩, kept⟩

theorem checkEntity_eq_nil {site : Site} {name : String} (member : name ∈ known) : checkEntity known site name = [] :=
  if_pos (Std.ExtTreeSet.contains_iff_mem.mpr member)

theorem factProblems_eq_nil {site : String → Site} {fact : Fact} (names : ∀ e ∈ fact.arguments, e.name ∈ known) :
    factProblems known site fact = [] :=
  List.flatMap_eq_nil_iff.mpr fun e member => checkEntity_eq_nil (names e member)

theorem eventProblems_eq_nil {event : Event} {naming : String → String} {quest : Nat}
    (filled : event.actions ≠ [] ∨ event.conditions.toList ≠ [])
    (names : ∀ fact, event.Tells fact → ∀ e ∈ fact.arguments, e.name ∈ known) :
    eventProblems known quest (event.record naming) = [] := by
  have empty : ((event.record naming).actions.isEmpty && (event.record naming).conditions.isEmpty) = false := by
    simpa [Event.record, Classical.or_iff_not_imp_left] using filled
  rw [eventProblems, empty]
  simp only [Event.record, List.length_map, beq_self_eq_true, Bool.or_true, if_true, Bool.false_eq_true, if_false,
    List.append_eq_nil_iff, true_and, List.flatMap_eq_nil_iff]
  constructor
  · intro record member fact listed
    obtain ⟨action, among, rfl⟩ := List.mem_map.mp member
    refine factProblems_eq_nil (names fact (.inl ⟨action, among, ?_⟩))
    simpa [Action.record] using listed
  · intro fact listed
    exact factProblems_eq_nil (names fact (.inr (Std.ExtTreeSet.mem_toList.mp listed)))

theorem questProblems_eq_nil {quest : Quest} {naming : String → String} {number : Nat} (filled : quest.Filled)
    (names : ∀ event ∈ quest.wins ++ quest.fails, ∀ fact, event.Tells fact → ∀ e ∈ fact.arguments, e.name ∈ known) :
    questProblems known (quest.record naming) number = [] := by
  have empty : ((quest.record naming).wins.isEmpty && (quest.record naming).fails.isEmpty) = false := by
    simpa [Quest.record, Classical.or_iff_not_imp_left] using filled.some
  rw [questProblems, empty]
  simp only [Quest.record, Bool.false_eq_true, if_false, List.nil_append, ← List.map_append,
    List.flatMap_eq_nil_iff, List.mem_map, forall_exists_index, and_imp, forall_apply_eq_imp_iff₂]
  exact fun event member => eventProblems_eq_nil (filled.events event member) (names event member)

/-- The types that a record gives to the names in it. -/
def typeTable (record : GameRecord) : SortedMap String String :=
  (entityTypes ∅ (record.world.flatMap Fact.arguments)).1

/-- The names that a record may use. -/
def knownNames (record : GameRecord) : SortedSet String := SortedSet.of (record.typeTable.keys ++ alwaysKnown)

theorem problems_eq_nil {record : GameRecord} (based : Text.trim record.kbId ≠ "")
    (clashless : (entityTypes ∅ (record.world.flatMap Fact.arguments)).2 = [])
    (infos : ∀ (key : String) info, record.infos[key]? = some info →
      infoProblems record.typeTable record.knownNames key info = [])
    (quests : ∀ quest ∈ record.quests, ∀ number, questProblems record.knownNames quest number = []) :
    record.problems = [] := by
  rw [problems, if_neg based]
  change [] ++ (entityTypes ∅ (record.world.flatMap Fact.arguments)).2 ++
    (record.infos.toList.flatMap fun entry => infoProblems record.typeTable record.knownNames entry.1 entry.2) ++
    (record.quests.zipIdx.flatMap fun entry => questProblems record.knownNames entry.1 entry.2) = []
  rw [clashless, List.append_eq_nil_iff, List.flatMap_eq_nil_iff]
  refine ⟨List.flatMap_eq_nil_iff.mpr fun entry member => ?_, fun entry member => ?_⟩
  · exact infos entry.1 entry.2 (Std.ExtTreeMap.mem_toList_iff_getElem?_eq_some.mp member)
  · exact quests entry.1 (List.fst_mem_of_mem_zipIdx member) entry.2

theorem infoProblems_eq_nil {e : Entity} {info : EntityInfo} (typed : types[e.name]? = some e.type)
    (listed : e.name ∈ known) (id : e.name = info.id) (type : e.type = info.type) :
    infoProblems types known e.name info = [] := by
  rw [infoProblems, if_pos id, checkEntity_eq_nil listed, typed]
  simp [type]

end GameRecord

namespace Game

open Adventure.Core

/-- A game that its record tells all about: the map is complete, no name stands for two entities, what the player is
told is filed under the entities it is about, and the quests are about entities that there are. -/
structure Recordable (game : Game) : Prop where
  coherent : World.Coherent game.world
  charted : World.Charted game.world
  named : ∀ x ∈ game.world.state.entities, ∀ y ∈ game.world.state.entities, x.name = y.name → x = y
  filed : ∀ (key : String) info, game.infos[key]? = some info →
    ∃ e ∈ game.world.state.entities, e.name = key ∧ e.name = info.id ∧ e.type = info.type
  filled : ∀ quest ∈ game.quests, quest.Filled
  known : ∀ quest ∈ game.quests, ∀ event ∈ quest.wins ++ quest.fails, ∀ fact, event.Tells fact →
    ∀ e ∈ fact.arguments, e ∈ game.world.state.entities ∨ e.name ∈ GameRecord.alwaysKnown

variable {game : Game}

theorem Recordable.problems_eq_nil (recordable : game.Recordable) : game.record.problems = [] := by
  have indexed := recordable.coherent.built.indexed
  have mentioned {e : Entity} : e ∈ game.world.facts.flatMap Fact.arguments ↔ e ∈ game.world.state.entities := by
    simp only [List.mem_flatMap, World.facts, Std.ExtTreeSet.mem_toList, indexed.mem_entities]
  have alike : ∀ x ∈ game.world.facts.flatMap Fact.arguments, ∀ y ∈ game.world.facts.flatMap Fact.arguments,
      x.name = y.name → x.type = y.type := by
    intro x inX y inY same
    rw [recordable.named x (mentioned.mp inX) y (mentioned.mp inY) same]
  have fresh : ∀ e ∈ game.world.facts.flatMap Fact.arguments, ∀ type,
      (∅ : SortedMap String String)[e.name]? = some type → type = e.type := by simp
  obtain ⟨clashless, typed, -⟩ := GameRecord.entityTypes_spec fresh alike
  have known {e : Entity} (there : e ∈ game.world.state.entities ∨ e.name ∈ GameRecord.alwaysKnown) :
      e.name ∈ game.record.knownNames := by
    rw [GameRecord.knownNames, SortedSet.mem_of, List.mem_append]
    refine there.imp_left fun listed => ?_
    exact Std.ExtTreeMap.mem_keys.mpr (SortedMap.mem_iff.mpr ⟨_, typed e (mentioned.mpr listed)⟩)
  have based : Text.trim game.record.kbId ≠ "" := by
    have id : game.record.kbId = "core" := by
      rw [Game.record, Game.kb, World.kb, recordable.coherent.core]
      rfl
    rw [id]
    decide
  refine GameRecord.problems_eq_nil based clashless (fun key info found => ?_) fun record member number => ?_
  · obtain ⟨e, listed, rfl, id, type⟩ := recordable.filed key info found
    exact GameRecord.infoProblems_eq_nil (typed e (mentioned.mpr listed)) (known (.inl listed)) id type
  · obtain ⟨quest, among, rfl⟩ := List.mem_map.mp member
    exact GameRecord.questProblems_eq_nil (recordable.filled quest among) fun event listed fact tells e argument =>
      known (recordable.known quest among event listed fact tells e argument)

theorem beq_of_parts {again : Game} (state : again.world.state = game.world.state) (quests : again.quests = game.quests)
    (infos : again.infos = game.infos) (metadata : again.metadata = game.metadata)
    (extras : again.extras = game.extras) : (again == game) = true := by
  obtain ⟨world, _, _, _, _⟩ := again
  obtain ⟨other, _, _, _, _⟩ := game
  cases quests
  cases infos
  cases metadata
  cases extras
  have worlds : (world == other) = true := by
    change (world.state.facts == other.state.facts) = true
    rw [state]
    exact beq_self_eq_true _
  change (world == other && (_ && (_ && (_ && _)))) = true
  simp [worlds]

/-- A game that its record tells all about can be made from the record again. -/
theorem Recordable.exists_ofRecord (recordable : game.Recordable) :
    ∃ again, Game.ofRecord knowledge game.record = .ok again ∧ again.world.state = game.world.state ∧
      again.quests = game.quests ∧ again.infos = game.infos ∧ again.metadata = game.metadata ∧
      again.extras = game.extras ∧ (again == game) = true := by
  obtain ⟨world, made, state⟩ := recordable.coherent.exists_again recordable.charted
  have quests : (game.quests.map (Quest.record game.nameOf)).mapM QuestRecord.quest = .ok game.quests :=
    mapM_eq_ok_of_map fun quest member => Quest.quest_record (recordable.filled quest member) _
  refine ⟨⟨world, game.quests, game.infos, game.metadata, game.extras⟩, ?_, state, rfl, rfl, rfl, rfl,
    beq_of_parts state rfl rfl rfl rfl⟩
  have clean : game.record.problems.isEmpty = true := by rw [recordable.problems_eq_nil]; rfl
  rw [Game.ofRecord, clean]
  exact bind_eq_ok_iff.mpr ⟨world, made, bind_eq_ok_iff.mpr ⟨_, quests, rfl⟩⟩

end Game

end Adventure
