import Adventure.Knowledge.Basic

namespace Adventure.Core

/-! The world of rooms, doors, containers, supporters, keys and food. -/

def player : Placeholder := ⟨"P", "P"⟩
def inventory : Placeholder := ⟨"I", "I"⟩
def thing : Placeholder := ⟨"t", "t"⟩
def room : Placeholder := ⟨"r", "r"⟩
def otherRoom : Placeholder := ⟨"r'", "r"⟩
def door : Placeholder := ⟨"d", "d"⟩
def otherDoor : Placeholder := ⟨"d'", "d"⟩
def container : Placeholder := ⟨"c", "c"⟩
def otherContainer : Placeholder := ⟨"c'", "c"⟩
def supporter : Placeholder := ⟨"s", "s"⟩
def otherSupporter : Placeholder := ⟨"s'", "s"⟩
def object : Placeholder := ⟨"o", "o"⟩
def key : Placeholder := ⟨"k", "k"⟩
def otherKey : Placeholder := ⟨"k'", "k"⟩
def food : Placeholder := ⟨"f", "f"⟩

def locatedAt (item place : Placeholder) : Pattern := ⟨"at", [item, place]⟩
def inside (item holder : Placeholder) : Pattern := ⟨"in", [item, holder]⟩
def onTop (item holder : Placeholder) : Pattern := ⟨"on", [item, holder]⟩
def opened (item : Placeholder) : Pattern := ⟨"open", [item]⟩
def closed (item : Placeholder) : Pattern := ⟨"closed", [item]⟩
def locked (item : Placeholder) : Pattern := ⟨"locked", [item]⟩
def matching (key lock : Placeholder) : Pattern := ⟨"match", [key, lock]⟩
def link (a door b : Placeholder) : Pattern := ⟨"link", [a, door, b]⟩
def free (a b : Placeholder) : Pattern := ⟨"free", [a, b]⟩
def northOf (a b : Placeholder) : Pattern := ⟨"north_of", [a, b]⟩
def southOf (a b : Placeholder) : Pattern := ⟨"south_of", [a, b]⟩
def eastOf (a b : Placeholder) : Pattern := ⟨"east_of", [a, b]⟩
def westOf (a b : Placeholder) : Pattern := ⟨"west_of", [a, b]⟩
def eaten (item : Placeholder) : Pattern := ⟨"eaten", [item]⟩

/-- A condition of a rule, which keeps the fact or uses it up. -/
structure Need where
  pattern : Pattern
  kept : Bool

def keep (pattern : Pattern) : Need := ⟨pattern, true⟩
def use (pattern : Pattern) : Need := ⟨pattern, false⟩

/-- After a rule its kept conditions hold and, after them, its results. -/
def rule (name : String) (needs : List Need) (results : List Pattern) (command : String) : Rule where
  name := name
  before := needs.map Need.pattern
  after := (needs.filter Need.kept).map Need.pattern ++ results
  template := some command
  observational := false

/-- A rule that keeps all its conditions and changes nothing. -/
def observation (name : String) (needs : List Pattern) (command : String) : Rule where
  name := name
  before := needs
  after := needs
  template := some command
  observational := true

/-- Walk to the room that `towards` places beyond an open passage. -/
def walk (name : String) (towards : Placeholder → Placeholder → Pattern) (command : String) : Rule :=
  rule name
    [use (locatedAt player room), keep (towards otherRoom room), keep (free room otherRoom),
      keep (free otherRoom room)]
    [locatedAt player otherRoom] command

def goNorth : Rule := walk "go/north" northOf "go north"
def goSouth : Rule := walk "go/south" southOf "go south"
def goEast : Rule := walk "go/east" eastOf "go east"
def goWest : Rule := walk "go/west" westOf "go west"

/-- The player stands beside a door between two rooms. -/
def besideDoor : List Need :=
  [keep (locatedAt player room), keep (link room door otherRoom), keep (link otherRoom door room)]

def holdsKey (lock : Placeholder) : List Need :=
  [keep (inside key inventory), keep (matching key lock)]

def openDoor : Rule :=
  rule "open/d" (besideDoor ++ [use (closed door)])
    [opened door, free room otherRoom, free otherRoom room] "open \x7bd\x7d"

def closeDoor : Rule :=
  rule "close/d" (besideDoor ++ [use (opened door), use (free room otherRoom), use (free otherRoom room)])
    [closed door] "close \x7bd\x7d"

def lockDoor : Rule :=
  rule "lock/d" (besideDoor ++ holdsKey door ++ [use (closed door)]) [locked door]
    "lock \x7bd\x7d with \x7bk\x7d"

def unlockDoor : Rule :=
  rule "unlock/d" (besideDoor ++ holdsKey door ++ [use (locked door)]) [closed door]
    "unlock \x7bd\x7d with \x7bk\x7d"

/-- The player is in one room with something. -/
def beside (item : Placeholder) : List Need :=
  [keep (locatedAt player room), keep (locatedAt item room)]

def openContainer : Rule :=
  rule "open/c" (beside container ++ [use (closed container)]) [opened container] "open \x7bc\x7d"

def closeContainer : Rule :=
  rule "close/c" (beside container ++ [use (opened container)]) [closed container] "close \x7bc\x7d"

def lockContainer : Rule :=
  rule "lock/c" (beside container ++ holdsKey container ++ [use (closed container)]) [locked container]
    "lock \x7bc\x7d with \x7bk\x7d"

def unlockContainer : Rule :=
  rule "unlock/c" (beside container ++ holdsKey container ++ [use (locked container)]) [closed container]
    "unlock \x7bc\x7d with \x7bk\x7d"

def take : Rule :=
  rule "take" [keep (locatedAt player room), use (locatedAt object room)] [inside object inventory]
    "take \x7bo\x7d"

def drop : Rule :=
  rule "drop" [keep (locatedAt player room), use (inside object inventory)] [locatedAt object room]
    "drop \x7bo\x7d"

def takeFromContainer : Rule :=
  rule "take/c" (beside container ++ [keep (opened container), use (inside object container)])
    [inside object inventory] "take \x7bo\x7d from \x7bc\x7d"

def insert : Rule :=
  rule "insert" (beside container ++ [keep (opened container), use (inside object inventory)])
    [inside object container] "insert \x7bo\x7d into \x7bc\x7d"

def takeFromSupporter : Rule :=
  rule "take/s" (beside supporter ++ [use (onTop object supporter)]) [inside object inventory]
    "take \x7bo\x7d from \x7bs\x7d"

def put : Rule :=
  rule "put" (beside supporter ++ [use (inside object inventory)]) [onTop object supporter]
    "put \x7bo\x7d on \x7bs\x7d"

def eat : Rule :=
  rule "eat" [use (inside food inventory)] [eaten food] "eat \x7bf\x7d"

def look : Rule := observation "look" [locatedAt player room] "look"
def takeStock : Rule := observation "inventory" [locatedAt player room] "inventory"

def examineThing : Rule :=
  observation "examine/t" [locatedAt player room, locatedAt thing room] "examine \x7bt\x7d"

def examineHeld : Rule := observation "examine/I" [inside object inventory] "examine \x7bo\x7d"

def rules : List Rule :=
  [goNorth, goSouth, goEast, goWest, openDoor, closeDoor, lockDoor, unlockDoor, openContainer, closeContainer,
    lockContainer, unlockContainer, take, drop, takeFromContainer, insert, takeFromSupporter, put, eat, look,
    takeStock, examineThing, examineHeld]

def constraints : List Constraint :=
  [⟨"c/open-closed", [opened container, closed container]⟩,
    ⟨"c/open-locked", [opened container, locked container]⟩,
    ⟨"c/closed-locked", [closed container, locked container]⟩,
    ⟨"d/open-closed", [opened door, closed door]⟩,
    ⟨"d/open-locked", [opened door, locked door]⟩,
    ⟨"d/closed-locked", [closed door, locked door]⟩,
    ⟨"o/held-and-in", [inside object inventory, inside object container]⟩,
    ⟨"o/held-and-on", [inside object inventory, onTop object supporter]⟩,
    ⟨"o/held-and-at", [inside object inventory, locatedAt object room]⟩,
    ⟨"o/in-and-at", [inside object container, locatedAt object room]⟩,
    ⟨"o/on-and-at", [onTop object supporter, locatedAt object room]⟩,
    ⟨"o/in-and-on", [inside object container, onTop object supporter]⟩,
    ⟨"o/two-containers", [inside object container, inside object otherContainer]⟩,
    ⟨"o/two-supporters", [onTop object supporter, onTop object otherSupporter]⟩,
    ⟨"t/two-rooms", [locatedAt thing room, locatedAt thing otherRoom]⟩,
    ⟨"P/two-rooms", [locatedAt player room, locatedAt player otherRoom]⟩,
    ⟨"f/eaten-and-held", [eaten food, inside food inventory]⟩,
    ⟨"k/two-containers", [matching key container, matching key otherContainer]⟩,
    ⟨"k/two-doors", [matching key door, matching key otherDoor]⟩,
    ⟨"k/container-door", [matching key container, matching key door]⟩,
    ⟨"c/two-keys", [matching key container, matching otherKey container]⟩,
    ⟨"d/two-keys", [matching key door, matching otherKey door]⟩]

def typeDeclarations : List TypeDeclaration :=
  [⟨"P", []⟩, ⟨"I", []⟩, ⟨"t", []⟩, ⟨"r", []⟩, ⟨"d", ["t"]⟩, ⟨"c", ["t"]⟩, ⟨"s", ["t"]⟩, ⟨"o", ["t"]⟩,
    ⟨"k", ["o"]⟩, ⟨"f", ["o"]⟩]

def signatures : List Signature :=
  [⟨"at", ["P", "r"]⟩, ⟨"at", ["t", "r"]⟩, ⟨"in", ["o", "I"]⟩, ⟨"in", ["o", "c"]⟩, ⟨"on", ["o", "s"]⟩,
    ⟨"open", ["c"]⟩, ⟨"closed", ["c"]⟩, ⟨"locked", ["c"]⟩, ⟨"open", ["d"]⟩, ⟨"closed", ["d"]⟩, ⟨"locked", ["d"]⟩,
    ⟨"match", ["k", "c"]⟩, ⟨"match", ["k", "d"]⟩, ⟨"link", ["r", "d", "r"]⟩, ⟨"free", ["r", "r"]⟩,
    ⟨"north_of", ["r", "r"]⟩, ⟨"south_of", ["r", "r"]⟩, ⟨"east_of", ["r", "r"]⟩, ⟨"west_of", ["r", "r"]⟩,
    ⟨"eaten", ["f"]⟩]

def inverses : List InversePair :=
  [⟨"go/north", "go/south"⟩, ⟨"go/east", "go/west"⟩, ⟨"open/d", "close/d"⟩, ⟨"lock/d", "unlock/d"⟩,
    ⟨"open/c", "close/c"⟩, ⟨"lock/c", "unlock/c"⟩, ⟨"take", "drop"⟩, ⟨"take/c", "insert"⟩, ⟨"take/s", "put"⟩]

def hints : List Hint :=
  [⟨"r", "room"⟩, ⟨"d", "door"⟩, ⟨"c", "chest"⟩, ⟨"s", "table"⟩, ⟨"o", "thing"⟩, ⟨"k", "key"⟩, ⟨"f", "food"⟩]

def declarations : KnowledgeRecord where
  id := "core"
  types := typeDeclarations
  predicates := signatures
  rules := rules.map (⟨·, none⟩)
  constraints := constraints
  inverses := inverses
  hints := hints

def types : TypeHierarchy := .declared (typeDeclarations.map fun type => (type.name, type.parents))

def knowledge : KnowledgeBase := .build declarations types

end Adventure.Core
