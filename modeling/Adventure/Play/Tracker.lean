import Adventure.Quest.Basic
import Adventure.State.Basic

namespace Adventure

/-- How a quest stands. -/
inductive Status where
  | pending
  | completed
  | failed
deriving DecidableEq, Hashable

/-- A quest under way: its status, and how many actions of each event have been taken. -/
structure Tracker where
  status : Status
  wins : List Nat
  fails : List Nat
deriving DecidableEq, Hashable

namespace Event

/-- The conditions of an event hold. -/
def holdsIn (event : Event) (s : State) : Bool := event.conditions.subset s.facts

/-- An event comes about once its actions are taken and its conditions hold. -/
def fires (event : Event) (pointer : Nat) (s : State) : Bool :=
  pointer == event.actions.length && event.holdsIn s

/-- The first of some actions that added a fact which another one takes away. -/
def undoneAt (steps : List Action) (action : Action) : Option Nat :=
  steps.findIdx? fun step => step.added.any (action.removed.contains ·)

/-- Where an event stands after an action that led to a state. The expected action moves it on; for the last one
the conditions have to hold too. An action that undoes an earlier step takes it back to that step. All else
leaves it. -/
def advance (event : Event) (pointer : Nat) (action : Action) (s : State) : Nat :=
  if event.actions[pointer]? = some action then
    if pointer + 1 ≠ event.actions.length ∨ event.holdsIn s then pointer + 1 else pointer
  else (undoneAt (event.actions.take pointer) action).getD pointer

/-- Where events stand after an action. -/
def advanceAll (action : Action) (s : State) : List Event → List Nat → List Nat
  | event :: events, pointer :: pointers => event.advance pointer action s :: advanceAll action s events pointers
  | _, pointers => pointers

/-- One of the events comes about. -/
def anyFires (events : List Event) (pointers : List Nat) (s : State) : Bool :=
  (events.zip pointers).any fun (event, pointer) => event.fires pointer s

end Event

namespace Tracker

def ofQuest (quest : Quest) : Tracker :=
  ⟨.pending, List.replicate quest.wins.length 0, List.replicate quest.fails.length 0⟩

/-- Decide a pending quest by the events that have come about. Failing goes before winning. -/
def settle (tracker : Tracker) (quest : Quest) (s : State) : Tracker :=
  if tracker.status ≠ .pending then tracker
  else if Event.anyFires quest.fails tracker.fails s then { tracker with status := .failed }
  else if Event.anyFires quest.wins tracker.wins s then { tracker with status := .completed }
  else tracker

/-- A pending quest after an action that led to a state. -/
def progress (tracker : Tracker) (quest : Quest) (action : Action) (s : State) : Tracker :=
  if tracker.status = .pending then
    settle { tracker with
      wins := Event.advanceAll action s quest.wins tracker.wins
      fails := Event.advanceAll action s quest.fails tracker.fails } quest s
  else tracker

/-- Quests after an action. -/
def progressAll (action : Action) (s : State) : List Quest → List Tracker → List Tracker
  | quest :: quests, tracker :: trackers => tracker.progress quest action s :: progressAll action s quests trackers
  | _, trackers => trackers

/-- How far a quest has come. -/
def advancement (tracker : Tracker) : Nat :=
  if tracker.status = .completed then 1000 else tracker.wins.max?.getD 0

def anyFailed (trackers : List Tracker) : Bool := trackers.any (·.status == .failed)

/-- Every quest that can be won is. -/
def allWon (quests : List Quest) (trackers : List Tracker) : Bool :=
  (quests.zip trackers).all fun (quest, tracker) => !quest.winnable || tracker.status == .completed

end Tracker

end Adventure
