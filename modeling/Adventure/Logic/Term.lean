import Adventure.Sorted

namespace Adventure

/-- A thing of the world: a room, a door, an object, the player. -/
structure Entity where
  name : String
  type : String
deriving DecidableEq, Hashable

instance : Ord Entity := ⟨comparePair Entity.name Entity.type⟩

instance : Std.TransOrd Entity := inferInstanceAs (Std.TransCmp (comparePair Entity.name Entity.type))

instance : Std.LawfulEqOrd Entity where
  eq_of_compare {a b} equal := by
    obtain ⟨name, type⟩ := comparePair_eq (show comparePair Entity.name Entity.type a b = .eq from equal)
    cases a; cases b; simp_all

/-- A typed variable of a rule. Variables of one name and different types are different. -/
structure Placeholder where
  name : String
  type : String
deriving DecidableEq, Hashable

instance : Ord Placeholder := ⟨comparePair Placeholder.name Placeholder.type⟩

instance : Std.TransOrd Placeholder :=
  inferInstanceAs (Std.TransCmp (comparePair Placeholder.name Placeholder.type))

instance : Std.LawfulEqOrd Placeholder where
  eq_of_compare {a b} equal := by
    obtain ⟨name, type⟩ := comparePair_eq (show comparePair Placeholder.name Placeholder.type a b = .eq from equal)
    cases a; cases b; simp_all

/-- The declared form of a predicate: its name and the types of its arguments. -/
structure Signature where
  predicate : String
  types : List String
deriving DecidableEq, Hashable

instance : Ord Signature := ⟨comparePair Signature.predicate Signature.types⟩

instance : Std.TransOrd Signature :=
  inferInstanceAs (Std.TransCmp (comparePair Signature.predicate Signature.types))

instance : Std.LawfulEqOrd Signature where
  eq_of_compare {a b} equal := by
    obtain ⟨name, types⟩ := comparePair_eq (show comparePair Signature.predicate Signature.types a b = .eq from equal)
    cases a; cases b; simp_all

/-- A statement about entities that a state may hold. -/
structure Fact where
  predicate : String
  arguments : List Entity
deriving DecidableEq, Hashable

instance : Ord Fact := ⟨comparePair Fact.predicate Fact.arguments⟩

instance : Std.TransOrd Fact := inferInstanceAs (Std.TransCmp (comparePair Fact.predicate Fact.arguments))

instance : Std.LawfulEqOrd Fact where
  eq_of_compare {a b} equal := by
    obtain ⟨name, arguments⟩ := comparePair_eq (show comparePair Fact.predicate Fact.arguments a b = .eq from equal)
    cases a; cases b; simp_all

/-- A fact over placeholders. -/
structure Pattern where
  predicate : String
  parameters : List Placeholder
deriving DecidableEq, Hashable

abbrev FactSet := SortedSet Fact

/-- `name(a, b, c)`. -/
def applied (name : String) (arguments : List String) : String :=
  name ++ "(" ++ ", ".intercalate arguments ++ ")"

def Signature.text (signature : Signature) : String :=
  applied signature.predicate signature.types

def Fact.text (fact : Fact) : String :=
  applied fact.predicate (fact.arguments.map Entity.name)

def Pattern.text (pattern : Pattern) : String :=
  applied pattern.predicate (pattern.parameters.map Placeholder.name)

def Fact.signature (fact : Fact) : Signature :=
  ⟨fact.predicate, fact.arguments.map Entity.type⟩

def Fact.mentions (fact : Fact) (entity : Entity) : Bool :=
  fact.arguments.contains entity

end Adventure
