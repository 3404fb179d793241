import Adventure.World.Population

namespace Adventure

/-- How the way between two rooms is closed off. -/
inductive Passage where
  | doorless
  | open
  | closed
  | locked
deriving DecidableEq

def Passage.all : List Passage := [.doorless, .open, .closed, .locked]

/-- The state of the door of a passage that has one. -/
def Passage.doorState : Passage → Option String
  | .doorless => none
  | .open => some "open"
  | .closed => some "closed"
  | .locked => some "locked"

/-- A map while it is drawn: where its rooms are, and the facts about them in the order in which they came. -/
structure Draft where
  world : World
  cells : SortedMap Cell Entity
  facts : List Fact

namespace Draft

/-- The player in a first room. -/
def start (kb : KnowledgeBase) : Draft :=
  let (room, world) := (World.empty kb).newEntity "r"
  ⟨world, SortedMap.of [(⟨0, 0⟩, room)], [⟨"at", [⟨"P", "P"⟩, room]⟩]⟩

/-- The ways out of the rooms that lead to no room yet. -/
def frontier (draft : Draft) : List (Cell × Direction) :=
  (draft.cells.keys.flatMap fun cell => Direction.all.map fun direction => (cell, direction)).filter
    fun (cell, direction) => !draft.cells.contains (cell.step direction)

def freeBetween (room target : Entity) : List Fact := [⟨"free", [room, target]⟩, ⟨"free", [target, room]⟩]

/-- Join two rooms by a passage. -/
def join (draft : Draft) (room target : Entity) (passage : Passage) : Draft :=
  match passage.doorState with
  | none => { draft with facts := draft.facts ++ freeBetween room target }
  | some state =>
    let (door, world) := draft.world.newEntity "d"
    let links : List Fact :=
      [⟨"link", [room, door, target]⟩, ⟨"link", [target, door, room]⟩, ⟨state, [door]⟩]
    let free := if passage = .open then freeBetween room target else []
    { draft with world, facts := draft.facts ++ links ++ free }

/-- Add a room in a random free place beside one that is there. -/
def extend (draft : Draft) : Random Draft := do
  match ← Random.choose draft.frontier with
  | none => return draft
  | some (cell, direction) =>
    match draft.cells[cell]? with
    | none => return draft
    | some old =>
      let (room, world) := draft.world.newEntity "r"
      let passage ← Random.choose Passage.all
      let placed : Draft :=
        ⟨world, draft.cells.insert (cell.step direction) room, draft.facts ++ [⟨direction.predicate, [room, old]⟩]⟩
      return placed.join old room (passage.getD .doorless)

def extendTimes : (count : Nat) → Draft → Random Draft
  | 0, draft => return draft
  | count + 1, draft => do extendTimes count (← draft.extend)

end Draft

/-- A map of a number of rooms with the player in the first. -/
def makeMap (kb : KnowledgeBase) (rooms : Nat) : Random (Except Error World) := do
  if rooms = 0 then return .error (.invalidWorld .emptyMap)
  else
    let draft ← (Draft.start kb).extendTimes (rooms - 1)
    return draft.world.addFacts draft.facts

end Adventure
