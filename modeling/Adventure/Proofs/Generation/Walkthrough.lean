import Adventure.Generation.Quests
import Adventure.Proofs.Chain.Admissible
import Adventure.Proofs.Chain.Retracing
import Adventure.Proofs.Play.Verdicts

namespace Adventure

/-- A quest to take actions in order. -/
def Quest.toTake (actions : List Action) : Quest := ⟨[⟨actions, ∅⟩], [], 1, none⟩

namespace Quest

variable {s : State} {moves : Moves} {tracker : Tracker} {quests : List Quest}

theorem ofActions_eq_ok_iff {actions : List Action} {quest : Quest} :
    Quest.ofActions actions = .ok quest ↔ actions ≠ [] ∧ quest = toTake actions := by
  cases actions with
  | nil => simp [Quest.ofActions, Event.of, bind, Except.bind]
  | cons action rest =>
    have made : Quest.ofActions (action :: rest) = .ok (toTake (action :: rest)) := rfl
    rw [made]
    simp [eq_comm]

theorem mapM_ofActions_eq_ok_iff {parts : List (List Action)} : parts.mapM Quest.ofActions = .ok quests ↔
    quests = parts.map toTake ∧ ∀ part ∈ parts, part ≠ [] := by
  induction parts generalizing quests with
  | nil => simp [pure, Except.pure, eq_comm]
  | cons part parts ih =>
    simp only [List.mapM_cons, bind_eq_ok_iff, ofActions_eq_ok_iff, ih]
    constructor
    · rintro ⟨_, ⟨filled, rfl⟩, _, ⟨rfl, all⟩, made⟩
      cases made
      exact ⟨rfl, List.forall_mem_cons.mpr ⟨filled, all⟩⟩
    · rintro ⟨rfl, all⟩
      obtain ⟨filled, others⟩ := List.forall_mem_cons.mp all
      exact ⟨_, ⟨filled, rfl⟩, _, ⟨rfl, others⟩, rfl⟩

/-- A quest that cannot be failed is completed once one of its events has occurred. -/
theorem Stands.completed_iff {quest : Quest} (stands : quest.Stands s moves tracker) (unfailing : quest.fails = []) :
    tracker.status = .completed ↔ ∃ point, point <:+ moves ∧ ∃ event ∈ quest.wins, event.Occurs s point := by
  cases stands with
  | pending stays undecided =>
    refine ⟨nofun, ?_⟩
    rintro ⟨point, older, event, member, occurs⟩
    have decided : quest.Decided s point := ⟨event, List.mem_append_left _ member, occurs⟩
    by_cases same : point = moves
    · exact absurd (same ▸ decided) undecided
    · exact absurd decided (stays point older same)
  | failed _ _ fails => simp [unfailing] at fails
  | completed older _ wins => exact ⟨fun _ => ⟨_, older, wins⟩, fun _ => rfl⟩

theorem occurs_toTake_iff {actions : List Action} : (∃ event ∈ (toTake actions).wins, event.Occurs s moves) ↔
    Event.retraced actions (moves.map Prod.fst).reverse = actions.length := by
  simp [toTake, Event.Occurs, Event.pointer_eq_retraced]

end Quest

/-- A quest to take the actions of a subgoal is completed by all actions exactly if at some point those of the subgoal
all stand. -/
theorem Quest.Stands.completed_iff_retraced {s : State} {moves : Moves} {tracker : Tracker} {number : Nat}
    {steps : List (Nat × Action)} (stands : (Quest.toTake (stepsOf number steps)).Stands s moves tracker)
    (taken : (moves.map Prod.fst).reverse = steps.map Prod.snd) :
    tracker.status = .completed ↔ Retraced number steps := by
  simp only [stands.completed_iff rfl, Quest.occurs_toTake_iff]
  constructor
  · rintro ⟨point, ⟨newer, rfl⟩, all⟩
    rw [List.map_append, List.reverse_append] at taken
    obtain ⟨earlier, later, whole, first, -⟩ := List.map_eq_append_iff.mp taken.symm
    refine ⟨earlier, later, whole, ?_⟩
    rw [standing, first]
    exact all
  · rintro ⟨earlier, later, whole, all⟩
    rw [whole, List.map_append, List.reverse_eq_iff, List.reverse_append] at taken
    obtain ⟨newer, point, rfl, -, first⟩ := List.map_eq_append_iff.mp taken
    refine ⟨point, ⟨newer, rfl⟩, ?_⟩
    rw [first, List.reverse_reverse]
    exact all

namespace Progression

variable {p : Progression} {s : State} {moves : Moves} {quests : List Quest}

/-- A game in which actions are taken one after the other, and none fails a quest. -/
inductive Walks (p : Progression) : List Action → Progression → Prop
  | start : Walks p [] p
  | next {actions : List Action} {q r : Progression} {action : Action} {completed : List Nat} : Walks p actions q →
      q.update action = .ok (.applied completed [], r) → Walks p (actions ++ [action]) r

theorem unfailed_of_stands {trackers : List Tracker}
    (stands : List.Forall₂ (fun quest tracker => quest.Stands s moves tracker) quests trackers)
    (unfailing : ∀ quest ∈ quests, quest.fails = []) : Unfailed trackers := by
  intro tracker member failed
  obtain ⟨number, here⟩ := List.mem_iff_getElem?.mp member
  obtain ⟨quest, found, stands⟩ := exists_of_forall₂ stands here
  have none := unfailing quest (List.mem_of_getElem? found)
  cases stands with
  | pending | completed => cases failed
  | failed _ _ fails => simp [none] at fails

/-- Where no quest can be failed, moves can be made in a game as they can be made without one. -/
theorem exists_walks (taken : moves.Taken s) (unfailing : ∀ quest ∈ quests, quest.fails = [])
    (options : PolicyOptions) : ∃ final, (Progression.start s quests options).Walks (moves.map Prod.fst).reverse final ∧
      final.quests = quests ∧ final.Follows s moves := by
  induction taken with
  | start => exact ⟨_, .start, rfl, .start s quests options⟩
  | @next moves action t taken applied ih =>
    obtain ⟨p, walks, same, follows⟩ := ih
    rw [← follows.state] at applied
    have unfailed : Unfailed (p.moved action t).trackers :=
      unfailed_of_stands (follows.move t action).stands (same ▸ unfailing)
    have run := update_eq_ok_iff.mpr (.inr ⟨t, applied, rfl, rfl⟩)
    rw [newly_failed_of_unfailed unfailed] at run
    rw [List.map_cons, List.reverse_cons]
    exact ⟨_, .next walks run, same, follows.move t action⟩

theorem won_iff_completed (winnable : ∀ quest ∈ p.quests, quest.wins ≠ [])
    (length : p.quests.length = p.trackers.length) :
    p.won = true ↔ ∀ tracker ∈ p.trackers, tracker.status = .completed := by
  rw [won_iff]
  constructor
  · rintro ⟨-, won⟩ tracker member
    obtain ⟨number, inside, rfl⟩ := List.getElem_of_mem member
    have place : number < (p.quests.zip p.trackers).length := by
      rw [List.length_zip]
      omega
    have paired := List.getElem_mem place
    rw [List.getElem_zip] at paired
    exact won _ _ paired (winnable _ (List.getElem_mem _))
  · intro all
    refine ⟨fun tracker member failed => ?_, fun quest tracker paired _ => all tracker (List.of_mem_zip paired).2⟩
    cases (all tracker member).symm.trans failed

end Progression

section Generation

variable {s : State} {options : ChainOptions} {rng : Rng} {chain : Chain} {quests : List Quest}

theorem makeQuests_eq_ok (made : (makeQuests s options rng).1 = .ok (chain, quests)) :
    (∃ moves, Moves.Taken s moves ∧ chain.actions = (moves.map Prod.fst).reverse) ∧
    quests = chain.splitByBreadth.map Quest.toTake ∧ ∀ part ∈ chain.splitByBreadth, part ≠ [] := by
  obtain ⟨found, search, made⟩ := bind_eq_ok_iff.mp made
  obtain ⟨split, parts, made⟩ := bind_eq_ok_iff.mp made
  cases made
  exact ⟨Forward.search_taken search, Quest.mapM_ofActions_eq_ok_iff.mp parts⟩

theorem getElem?_toTake {number : Nat} {quest : Quest}
    (found : (chain.splitByBreadth.map Quest.toTake)[number]? = some quest) :
    stepsOf number chain.labelled ∈ chain.splitByBreadth ∧ quest = Quest.toTake (stepsOf number chain.labelled) := by
  rw [Chain.splitByBreadth_eq] at found ⊢
  simp only [List.map_map, List.getElem?_map, Option.map_eq_some_iff, List.getElem?_eq_some_iff,
    List.getElem_range] at found
  obtain ⟨_, ⟨inside, rfl⟩, rfl⟩ := found
  rw [List.length_range] at inside
  exact ⟨List.mem_map.mpr ⟨number, List.mem_range.mpr inside, rfl⟩, rfl⟩

/-- The actions of a generated chain can be taken in turn with the quests that were made from it, and each quest is
completed on the way exactly if at some point the actions of its subgoal all stand. -/
theorem exists_walkthrough (made : (makeQuests s options rng).1 = .ok (chain, quests)) (policy : PolicyOptions) :
    ∃ final, (Progression.start s quests policy).Walks chain.actions final ∧
      final.trackers.length = quests.length ∧
      (final.won = true ↔ ∀ tracker ∈ final.trackers, tracker.status = .completed) ∧
      ∀ number tracker, final.trackers[number]? = some tracker →
        stepsOf number chain.labelled ≠ [] ∧ (tracker.status = .completed ↔ Retraced number chain.labelled) := by
  obtain ⟨⟨moves, taken, actions⟩, rfl, filled⟩ := makeQuests_eq_ok made
  have unfailing : ∀ quest ∈ chain.splitByBreadth.map Quest.toTake, quest.fails = [] := by simp [Quest.toTake]
  have winnable : ∀ quest ∈ chain.splitByBreadth.map Quest.toTake, quest.wins ≠ [] := by simp [Quest.toTake]
  obtain ⟨final, walks, same, -, stands, -, -⟩ := Progression.exists_walks taken unfailing policy
  rw [← actions] at walks
  refine ⟨final, walks, ?_, Progression.won_iff_completed (same ▸ winnable) stands.length_eq, ?_⟩
  · rw [← stands.length_eq, same]
  · intro number tracker here
    obtain ⟨quest, found, stands⟩ := exists_of_forall₂ stands here
    rw [same] at found
    obtain ⟨member, rfl⟩ := getElem?_toTake found
    refine ⟨filled _ member, stands.completed_iff_retraced ?_⟩
    rw [← actions, Chain.labelled, Dependencies.labelled_actions]

/-- The actions of a generated chain can be taken in turn, and none of them fails a quest that was made from the chain.
Each quest is completed on the way exactly if at some point the actions of its subgoal all stand. They do if the
subgoal is undisturbed, and if it has its actions for itself, only then. -/
theorem makeQuests_walkthrough (made : (makeQuests s options rng).1 = .ok (chain, quests)) (policy : PolicyOptions) :
    ∃ final, (Progression.start s quests policy).Walks chain.actions final ∧
      final.trackers.length = quests.length ∧
      (final.won = true ↔ ∀ tracker ∈ final.trackers, tracker.status = .completed) ∧
      ∀ number tracker, final.trackers[number]? = some tracker →
        (tracker.status = .completed ↔ Retraced number chain.labelled) ∧
        (Undisturbed number chain.labelled → tracker.status = .completed) ∧
        (Separate number chain.labelled → tracker.status = .completed → Undisturbed number chain.labelled) := by
  obtain ⟨final, walks, length, won, completed⟩ := exists_walkthrough made policy
  refine ⟨final, walks, length, won, fun number tracker here => ?_⟩
  obtain ⟨served, completed⟩ := completed number tracker here
  refine ⟨completed, fun undisturbed => completed.mpr (undisturbed.retraced served), ?_⟩
  exact fun separate done => separate.undisturbed (completed.mp done)

end Generation

/-- A hall with a closed chest and a key to the locked door of a cellar. -/
def workshopFacts : List Fact :=
  let hall : Entity := ⟨"hall", "r"⟩
  let cellar : Entity := ⟨"cellar", "r"⟩
  let chest : Entity := ⟨"chest", "c"⟩
  let key : Entity := ⟨"key", "k"⟩
  let door : Entity := ⟨"door", "d"⟩
  [⟨"at", [⟨"P", "P"⟩, hall]⟩, ⟨"at", [chest, hall]⟩, ⟨"closed", [chest]⟩, ⟨"at", [key, hall]⟩, ⟨"match", [key, door]⟩,
    ⟨"link", [hall, door, cellar]⟩, ⟨"link", [cellar, door, hall]⟩, ⟨"locked", [door]⟩]

def workshop : State := (State.empty Core.knowledge).insertAll workshopFacts

theorem workshop_built : workshop.Built :=
  .addFacts (.empty Core.knowledge) (rfl : (State.empty Core.knowledge).addFacts workshopFacts = .ok workshop)

/-- For a chain of one action of each of some rules, with up to two subgoals. -/
def workshopOptions (rules : List String) : ChainOptions :=
  { ChainOptions.usual with
    minDepth := rules.length
    maxDepth := rules.length
    maxBreadth := 2
    rulesPerDepth := rules.map fun rule => [rule] }

/-- The chain of rules each of which has just one action. -/
def workshopChain (rules : List String) : Option Chain :=
  let options := (workshopOptions rules).forQuests (Random.word64 (.ofSeed 0)).1
  Search.descend (Forward.strategy options) rules.length ⟨workshop, [], .empty⟩ options.rng

theorem makeQuests_workshop {rules : List String} {chain : Chain} (way : workshopChain rules = some chain)
    (room : rules.length < 10000) (filled : ∀ part ∈ chain.splitByBreadth, part ≠ []) :
    (makeQuests workshop (workshopOptions rules) (.ofSeed 0)).1 =
      .ok (chain, chain.splitByBreadth.map Quest.toTake) := by
  have found : Chain.find workshop ((workshopOptions rules).forQuests (Random.word64 (.ofSeed 0)).1) = .ok chain :=
    Search.fromRoot_of_descend way room
  exact bind_eq_ok_iff.mpr ⟨chain, found,
    bind_eq_ok_iff.mpr ⟨_, Quest.mapM_ofActions_eq_ok_iff.mpr ⟨rfl, filled⟩, rfl⟩⟩

/-- The key is put away, for the chest, before the door was opened with it. That undoes taking it, so the quest about
the door is back at its beginning and the last action does not complete it. -/
theorem workshop_unfinished : workshop.Built ∧ ∃ chain quests final,
    (makeQuests workshop (workshopOptions ["open/c", "take", "unlock/d", "insert", "open/d"]) (.ofSeed 0)).1 =
      .ok (chain, quests) ∧
    chain.actions.map Action.command =
      ["open chest", "take key", "unlock door with key", "insert key into chest", "open door"] ∧
    (Progression.start workshop quests .usual).Walks chain.actions final ∧
    (∃ tracker ∈ final.trackers, tracker.status ≠ .completed) ∧ final.won = false := by
  have evaluated : (workshopChain ["open/c", "take", "unlock/d", "insert", "open/d"]).any (fun chain =>
      (∀ part ∈ chain.splitByBreadth, part ≠ []) ∧ chain.splitByBreadth.length = 2 ∧
      chain.actions.map Action.command =
        ["open chest", "take key", "unlock door with key", "insert key into chest", "open door"] ∧
      Separate 1 chain.labelled ∧ ¬ Undisturbed 1 chain.labelled) = true := by decide +kernel
  obtain ⟨chain, way, holds⟩ := (Option.any_eq_true ..).mp evaluated
  obtain ⟨filled, two, commands, separate, disturbed⟩ := of_decide_eq_true holds
  have made := makeQuests_workshop way (by decide) filled
  obtain ⟨final, walks, length, won, completed⟩ := exists_walkthrough made .usual
  rw [List.length_map, two] at length
  have second : final.trackers[1]? = some (final.trackers[1]) := List.getElem?_eq_getElem _
  have unfinished : (final.trackers[1]).status ≠ .completed := fun done =>
    disturbed (separate.undisturbed ((completed 1 _ second).2.mp done))
  refine ⟨workshop_built, chain, _, final, made, commands, walks, ⟨_, List.getElem_mem _, unfinished⟩, ?_⟩
  rw [← Bool.not_eq_true, won]
  exact fun all => unfinished (all _ (List.getElem_mem _))

/-- The other way round the door is open when the key is put away. -/
theorem makeQuests_walkthrough_workshop : ∃ chain quests,
    (makeQuests workshop (workshopOptions ["open/c", "take", "unlock/d", "open/d", "insert"]) (.ofSeed 0)).1 =
      .ok (chain, quests) ∧
    chain.actions.map Action.command =
      ["open chest", "take key", "unlock door with key", "open door", "insert key into chest"] ∧
    quests.length = 2 ∧ Undisturbed 0 chain.labelled ∧ Undisturbed 1 chain.labelled ∧
    ∃ final, (Progression.start workshop quests .usual).Walks chain.actions final ∧ final.won = true := by
  have evaluated : (workshopChain ["open/c", "take", "unlock/d", "open/d", "insert"]).any (fun chain =>
      (∀ part ∈ chain.splitByBreadth, part ≠ []) ∧ chain.splitByBreadth.length = 2 ∧
      chain.actions.map Action.command =
        ["open chest", "take key", "unlock door with key", "open door", "insert key into chest"] ∧
      Undisturbed 0 chain.labelled ∧ Undisturbed 1 chain.labelled) = true := by decide +kernel
  obtain ⟨chain, way, holds⟩ := (Option.any_eq_true ..).mp evaluated
  obtain ⟨filled, two, commands, first, second⟩ := of_decide_eq_true holds
  have made := makeQuests_workshop way (by decide) filled
  obtain ⟨final, walks, length, won, completed⟩ := makeQuests_walkthrough made .usual
  rw [List.length_map, two] at length
  refine ⟨chain, _, made, commands, (List.length_map _).trans two, first, second, final, walks, won.mpr ?_⟩
  intro tracker member
  obtain ⟨number, inside, rfl⟩ := List.getElem_of_mem member
  have here : final.trackers[number]? = some (final.trackers[number]) := List.getElem?_eq_getElem inside
  rw [length] at inside
  match number with
  | 0 => exact (completed 0 _ here).2.1 first
  | 1 => exact (completed 1 _ here).2.1 second

end Adventure
