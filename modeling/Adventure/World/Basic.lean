import Adventure.Logic.FreshNames
import Adventure.World.Layout

namespace Adventure

/-- Where a thing is. -/
inductive Location where
  | room (id : String)
  | inventory
  | inside (holder : String)
  | onto (holder : String)
  | nowhere
deriving DecidableEq

structure Room where
  entity : Entity
  exits : SortedMap Direction String
  doors : SortedMap Direction String
  position : Option Cell
deriving DecidableEq

/-- Anything but a room, the player and the inventory, with the properties that hold of it alone. -/
structure Thing where
  entity : Entity
  location : Location
  properties : SortedSet String
deriving DecidableEq

def Room.id (room : Room) : String := room.entity.name

/-- The first direction in which a room lies. -/
def Room.exitTowards (room : Room) (target : String) : Option Direction :=
  (room.exits.toList.find? fun (_, other) => other == target).map Prod.fst

def Thing.id (thing : Thing) : String := thing.entity.name

def Thing.has (thing : Thing) (property : String) : Bool := thing.properties.contains property

/-- A state seen as a map with things in it. -/
structure World where
  state : State
  positions : Positions
  names : FreshNames

namespace World

instance : BEq World := ⟨fun w v => w.state == v.state⟩

def empty (kb : KnowledgeBase) : World := ⟨State.empty kb, ∅, FreshNames.empty⟩

def kb (world : World) : KnowledgeBase := world.state.kb

def facts (world : World) : List Fact := world.state.facts.toList

def descends (world : World) (entity : Entity) (type : String) : Bool :=
  world.kb.types.descends entity.type type

/-- Where a fact puts a thing. -/
def placement? (fact : Fact) : Option (String × Location) :=
  match fact.arguments with
  | [thing, place] =>
    match fact.predicate with
    | "at" => if thing.type = "P" then none else some (thing.name, .room place.name)
    | "in" => some (thing.name, if place.type = "I" then .inventory else .inside place.name)
    | "on" => some (thing.name, .onto place.name)
    | _ => none
  | _ => none

/-- Where things are; of two facts about one thing the later counts. -/
def locations (world : World) : SortedMap String Location := SortedMap.of (world.facts.filterMap placement?)

/-- The properties of things. -/
def propertyTable (world : World) : SortedMap String (SortedSet String) :=
  world.facts.foldl (fun table fact =>
    match fact.arguments with
    | [thing] => table.insert thing.name ((table.getD thing.name ∅).insert fact.predicate)
    | _ => table) ∅

/-- The things of the world by name. -/
def things (world : World) : SortedMap String Thing :=
  let locations := world.locations
  let properties := world.propertyTable
  SortedMap.of ((world.state.entities.filter fun entity =>
    !world.descends entity "r" && !world.descends entity "P" && !world.descends entity "I").map fun entity =>
      (entity.name, ⟨entity, locations.getD entity.name .nowhere, properties.getD entity.name ∅⟩))

def thingList (world : World) : List Thing := world.things.values

/-- The door of a fact, with the rooms it joins. -/
def link? (fact : Fact) : Option (Entity × Entity × Entity) :=
  match fact.predicate, fact.arguments with
  | "link", [room, door, target] => some (room, door, target)
  | _, _ => none

/-- A room with the doors on its exits; of two doors for one exit the later counts. -/
def Room.withDoors (room : Room) (links : List (Entity × Entity × Entity)) : Room :=
  { room with
    doors := SortedMap.of (links.filterMap fun (origin, door, target) =>
      if origin.name = room.id then (room.exitTowards target.name).map (·, door.name) else none) }

/-- The rooms of the world by name. -/
def rooms (world : World) : SortedMap String Room :=
  let exits := Exits.ofFacts world.facts
  let links := world.facts.filterMap link?
  SortedMap.of ((world.state.entitiesOf "r").map fun entity =>
    (entity.name, Room.withDoors ⟨entity, exits.of entity.name, ∅, world.positions[entity.name]?⟩ links))

def roomList (world : World) : List Room := world.rooms.values

/-- The name of the place that the last fact about the player gives. -/
def playerPlace (world : World) : Option String :=
  (world.facts.filterMap fun fact =>
    match fact.predicate, fact.arguments with
    | "at", [thing, place] => if thing.type = "P" then some place.name else none
    | _, _ => none).getLast?

def playerRoom (world : World) : Option Room := world.playerPlace.bind (world.rooms[·]?)

def inventory (world : World) : List Thing := world.thingList.filter (·.location == .inventory)

end World

end Adventure
