import Adventure.State.Basic

namespace Adventure

/-- The rooms that the exits of each room lead to, all by name. -/
abbrev Exits := SortedMap String (SortedMap Direction String)

/-- The cells of the rooms that are placed. -/
abbrev Positions := SortedMap String Cell

namespace Exits

/-- The exits of a room. -/
def of (exits : Exits) (room : String) : SortedMap Direction String := exits.getD room ∅

def add (exits : Exits) (room : String) (direction : Direction) (target : String) : Exits :=
  exits.insert room ((exits.of room).insert direction target)

/-- The direction of a fact, the room that lies there, and the room it is seen from. -/
def direction? (fact : Fact) : Option (Direction × Entity × Entity) :=
  match fact.arguments with
  | [target, room] => (Direction.ofPredicate? fact.predicate).map (·, target, room)
  | _ => none

/-- The exits that facts state; of two for one direction the later fact counts. -/
def ofFacts (facts : List Fact) : Exits :=
  (facts.filterMap direction?).foldl
    (fun exits (direction, target, room) => exits.add room.name direction target.name) ∅

/-- An exit that leads nowhere yet. -/
def isFree (exits : Exits) (room : String) (direction : Direction) : Bool :=
  !(exits.of room).contains direction

/-- Two rooms can be joined if an exit of the first and the opposite one of the second are free. -/
def pairFree (exits : Exits) (room target : String) (direction : Direction) : Bool :=
  exits.isFree room direction && exits.isFree target direction.opposite

def leadsTo (exits : Exits) (room target : String) : Bool :=
  (exits.of room).any fun _ other => other == target

end Exits

namespace Positions

def occupied (positions : Positions) (cell : Cell) : Bool := positions.any fun _ taken => taken == cell

/-- A free cell east of all rooms. -/
def eastEnd (positions : Positions) : Cell :=
  match positions.values with
  | [] => ⟨0, 0⟩
  | cell :: rest => ⟨rest.foldl (fun x other => max x other.x) cell.x + 2, 0⟩

/-- Place the rooms that exits lead to, unless they are placed or their cell is taken, and list them. -/
def spread (positions : Positions) (origin : Cell) : List (Direction × String) → Positions × List String
  | [] => (positions, [])
  | (direction, room) :: rest =>
    let cell := origin.step direction
    if positions.contains room || positions.occupied cell then spread positions origin rest
    else
      let (positions, placed) := spread (positions.insert room cell) origin rest
      (positions, room :: placed)

/-- Place rooms around those in a queue, nearest first. -/
def grow (exits : Exits) : (fuel : Nat) → (queue : List String) → Positions → Positions
  | 0, _, positions => positions
  | _ + 1, [], positions => positions
  | fuel + 1, room :: queue, positions =>
    match positions[room]? with
    | none => grow exits fuel queue positions
    | some origin =>
      let (positions, placed) := spread positions origin (exits.of room).toList
      grow exits fuel (queue ++ placed) positions

/-- The number of rooms a queue can ever hold: those placed, and one for each exit. -/
def growth (exits : Exits) (positions : Positions) : Nat :=
  exits.values.foldr (fun ways rest => ways.size + rest) positions.size

end Positions

/-- The room that the player is said to be in. A placement without a thing, or of the player without a place,
is refused. -/
def playerRoomIn : List Fact → Except Error (Option String)
  | [] => .ok none
  | fact :: rest =>
    match fact.arguments with
    | [] => .error (.shortPlacement fact)
    | [thing] => if thing.type = "P" then .error (.shortPlacement fact) else playerRoomIn rest
    | thing :: room :: _ => if thing.type = "P" then .ok (some room.name) else playerRoomIn rest

namespace State

def roomNames (s : State) : List String := (s.entitiesOf "r").map Entity.name

/-- Place the rooms that exits lead to from those placed. The first room to be placed is the player's, or the
first by name. Rooms whose cell is taken stay off the map. -/
def layout (s : State) (exits : Exits) (positions : Positions) : Except Error Positions := do
  match s.roomNames with
  | [] => return positions
  | first :: _ =>
    let positions ←
      if positions.isEmpty then do
        let start ← playerRoomIn (s.factsNamed "at")
        pure ((∅ : Positions).insert (start.getD first) ⟨0, 0⟩)
      else pure positions
    return Positions.grow exits (Positions.growth exits positions) positions.keys positions

end State

/-- Try to place a room beside a placed one that it is to be joined with. -/
def placeBeside (exits : Exits) (positions : Positions) (room target : String) (cell : Cell) :
    Option (Direction × Positions) :=
  Direction.all.findSome? fun direction =>
    let beside := cell.step direction.opposite
    if exits.pairFree room target direction && !positions.occupied beside then
      some (direction, positions.insert room beside)
    else none

/-- Try to join a placed room with one that is placed next to it, or that a free cell next to it can take. -/
def placeNext (exits : Exits) (positions : Positions) (room target : String) (cell : Cell) :
    Option (Direction × Positions) :=
  Direction.all.findSome? fun direction =>
    if exits.pairFree room target direction then
      let next := cell.step direction
      match positions[target]? with
      | some taken => if taken = next then some (direction, positions) else none
      | none => if positions.occupied next then none else some (direction, positions.insert target next)
    else none

/-- A direction on which to join a room with another: one that keeps the map flat, else any that is free on
both sides. -/
def chooseExit (exits : Exits) (positions : Positions) (room target : String) :
    Except Error (Direction × Positions) :=
  let beside := if positions.contains room then none
    else positions[target]?.bind (placeBeside exits positions room target)
  match beside with
  | some found => .ok found
  | none =>
    let positions :=
      if positions.contains room || positions.contains target then positions
      else positions.insert room positions.eastEnd
    match positions[room]?.bind (placeNext exits positions room target) with
    | some found => .ok found
    | none =>
      match Direction.all.find? (exits.pairFree room target) with
      | some direction => .ok (direction, positions)
      | none => .error (.noFreeExit room target)

end Adventure
