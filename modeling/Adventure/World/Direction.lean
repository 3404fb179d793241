import Adventure.Sorted

namespace Adventure

/-- The directions an exit can take, in the order in which free exits are tried. -/
inductive Direction where
  | north
  | south
  | east
  | west
deriving DecidableEq

namespace Direction

def all : List Direction := [north, south, east, west]

def opposite : Direction → Direction
  | north => south
  | south => north
  | east => west
  | west => east

def name : Direction → String
  | north => "north"
  | south => "south"
  | east => "east"
  | west => "west"

/-- The predicate that says of two rooms that the first lies in this direction from the second. -/
def predicate (direction : Direction) : String := direction.name ++ "_of"

def ofPredicate? (predicate : String) : Option Direction :=
  all.find? fun direction => direction.predicate == predicate

def rank : Direction → Nat
  | north => 0
  | south => 1
  | east => 2
  | west => 3

instance : Ord Direction := ⟨compareOn rank⟩

instance : Std.TransOrd Direction := inferInstanceAs (Std.TransCmp (compareOn rank))

instance : Std.LawfulEqOrd Direction where
  eq_of_compare {a b} equal := by
    have same : a.rank = b.rank := Std.LawfulEqOrd.eq_of_compare equal
    cases a <;> cases b <;> simp_all [rank]

end Direction

/-- A place on the map, counted in steps east and north of the first room. -/
structure Cell where
  x : Int
  y : Int
deriving DecidableEq

def compareCells : Cell → Cell → Ordering := comparePair Cell.x Cell.y

instance : Ord Cell := ⟨compareCells⟩

instance : Std.TransOrd Cell := inferInstanceAs (Std.TransCmp (comparePair Cell.x Cell.y))

instance : Std.LawfulEqOrd Cell where
  eq_of_compare {a b} equal := by
    obtain ⟨x, y⟩ := comparePair_eq (show compareCells a b = .eq from equal)
    cases a; cases b; simp_all

/-- The cell one step away. -/
def Cell.step (cell : Cell) : Direction → Cell
  | .north => ⟨cell.x, cell.y + 1⟩
  | .south => ⟨cell.x, cell.y - 1⟩
  | .east => ⟨cell.x + 1, cell.y⟩
  | .west => ⟨cell.x - 1, cell.y⟩

end Adventure
