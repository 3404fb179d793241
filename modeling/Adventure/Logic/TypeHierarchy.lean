import Adventure.Logic.Walk

namespace Adventure

/-- The parents of each declared type. -/
abbrev Parents := SortedMap String (List String)

namespace Parents

def of (parents : Parents) (type : String) : List String :=
  parents.getD type []

/-- How many parents the types have together. -/
def count (parents : Parents) : Nat := (parents.toList.flatMap Prod.snd).length

/-- Whether parents lead from one of some types to a type, or it is one of them. The parents of a type wait once, so
there are no more names to look at than types to begin with and parents. -/
def leadsTo (parents : Parents) (turn : Turn) (starts : List String) (goal : String) : Bool :=
  search parents.of turn goal (starts.length + parents.count) (turn.join [] starts) ∅

end Parents

/-- The children of each declared type. -/
abbrev Children := SortedMap String (SortedSet String)

namespace Children

def of (children : Children) (type : String) : SortedSet String :=
  children.getD type ∅

/-- All children, once for each of their parents. -/
def all (children : Children) : List String := children.toList.flatMap fun entry => entry.2.toList

end Children

/-- Named types with their parents, in the order in which these were declared, and their children. -/
structure TypeHierarchy where
  parents : Parents
  children : Children

namespace TypeHierarchy

def empty : TypeHierarchy := ⟨∅, ∅⟩

def contains (types : TypeHierarchy) (type : String) : Bool := types.parents.contains type

def names (types : TypeHierarchy) : List String := types.parents.keys

def parentsOf (types : TypeHierarchy) (type : String) : List String := types.parents.of type

def childrenOf (types : TypeHierarchy) (type : String) : List String := (types.children.of type).toList

def declare (types : TypeHierarchy) (type : String) : TypeHierarchy :=
  ⟨types.parents.insertIfNew type [], types.children.insertIfNew type ∅⟩

/-- Make a declared type a parent of `child`, unless it is one already, and `child` one of its children. -/
def link (types : TypeHierarchy) (child parent : String) : Option TypeHierarchy :=
  if types.contains parent then
    let known := types.parentsOf child
    some {
      parents := if known.contains parent then types.parents else types.parents.insert child (known ++ [parent])
      children := types.children.insert parent ((types.children.of parent).insert child) }
  else none

/-- Link parents in turn. An undeclared one ends the work and is returned; those before it stay linked. -/
def linkAll (types : TypeHierarchy) (child : String) : List String → TypeHierarchy × Option String
  | [] => (types, none)
  | parent :: rest =>
    match types.link child parent with
    | none => (types, some parent)
    | some linked => linked.linkAll child rest

/-- Declare a type with parents declared before. The hierarchy keeps the type, and the parents before the
first undeclared one, which is returned. -/
def add (types : TypeHierarchy) (type : String) (parents : List String) : TypeHierarchy × Option String :=
  (types.declare type).linkAll type parents

/-- Link the parents of each declaration in turn, up to the first undeclared one. -/
def linkDeclarations (types : TypeHierarchy) : List (String × List String) → Except String TypeHierarchy
  | [] => .ok types
  | (type, above) :: rest =>
    match types.linkAll type above with
    | (linked, none) => linkDeclarations linked rest
    | (_, some unknown) => .error unknown

/-- The hierarchy of a list of declarations, where a parent may come after its child. An undeclared parent
is the error. -/
def ofDeclarations (declarations : List (String × List String)) : Except String TypeHierarchy :=
  linkDeclarations (declarations.foldl (fun types entry => types.declare entry.1) empty) declarations

/-- The hierarchy of declarations that declare each parent they name. -/
def declared (declarations : List (String × List String)) : TypeHierarchy :=
  (ofDeclarations declarations).toOption.getD empty

/-- A type descends from itself and from those that its parents lead to. -/
def descends (types : TypeHierarchy) (type ancestor : String) : Bool :=
  type == ancestor || types.parents.leadsTo .queue (types.parentsOf type) ancestor

/-- The proper ancestors of a type, nearest first. -/
def ancestors (types : TypeHierarchy) (type : String) : List String :=
  climb types.parentsOf ((types.parentsOf type).length + types.parents.count) (types.parentsOf type) []

/-- The proper descendants of a type, by name. -/
def subtypes (types : TypeHierarchy) (type : String) : List String :=
  (collect types.childrenOf (types.children.all.length + 1) [type] ∅).toList

end TypeHierarchy

end Adventure
