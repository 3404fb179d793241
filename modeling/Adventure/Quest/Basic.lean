import Adventure.Error
import Adventure.Record.Game

namespace Adventure

/-- Something to be observed: actions taken in order, facts that hold, or both. -/
structure Event where
  actions : List Action
  conditions : FactSet
deriving DecidableEq

namespace Event

def of (actions : List Action) (conditions : List Fact) : Except Error Event :=
  if actions.isEmpty && conditions.isEmpty then .error (.invalidQuest .emptyEvent)
  else .ok ⟨actions, SortedSet.of conditions⟩

def isSequence (event : Event) : Bool := !event.actions.isEmpty

/-- The facts that have to hold for the event to come about. -/
def requirement (event : Event) : FactSet :=
  event.actions.getLast?.elim event.conditions fun last => event.conditions.union last.before

/-- The facts that hold right after the event. -/
def target (event : Event) : FactSet :=
  event.actions.getLast?.elim event.conditions fun last => event.conditions.union last.after

end Event

/-- What the player is to bring about, what has to be avoided, and what it is worth. -/
structure Quest where
  wins : List Event
  fails : List Event
  reward : Int32
  description : Option String
deriving DecidableEq

namespace Quest

def of (wins fails : List Event) (reward : Int32) (description : Option String) : Except Error Quest :=
  if wins.isEmpty && fails.isEmpty then .error (.invalidQuest .noEvents)
  else .ok ⟨wins, fails, reward, description⟩

/-- A quest to take actions in order, worth one point. -/
def ofActions (actions : List Action) : Except Error Quest := do
  Quest.of [← Event.of actions []] [] 1 none

def winnable (quest : Quest) : Bool := !quest.wins.isEmpty

/-- What can be scored: the rewards of the quests that can be won. -/
def maxScore (quests : List Quest) : Int :=
  (quests.filter winnable).foldr (fun quest rest => quest.reward.toInt + rest) 0

end Quest

def ActionRecord.action (record : ActionRecord) : Action :=
  Action.of record.name record.before record.after record.template

def Action.record (action : Action) : ActionRecord :=
  ⟨action.name, action.before.toList, action.after.toList, action.template⟩

def EventRecord.event (record : EventRecord) : Except Error Event :=
  Event.of (record.actions.map ActionRecord.action) record.conditions

/-- The record of an event, with commands that name entities by `naming`. -/
def Event.record (naming : String → String) (event : Event) : EventRecord :=
  ⟨event.actions.map Action.record, event.conditions.toList, event.actions.map (Action.commandWith naming)⟩

def QuestRecord.quest (record : QuestRecord) : Except Error Quest := do
  Quest.of (← record.wins.mapM EventRecord.event) (← record.fails.mapM EventRecord.event) record.reward
    record.description

def Quest.record (naming : String → String) (quest : Quest) : QuestRecord :=
  ⟨quest.wins.map (Event.record naming), quest.fails.map (Event.record naming), quest.reward, quest.description⟩

end Adventure
