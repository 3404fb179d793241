import Adventure.Logic.Term
import Adventure.Logic.TypeHierarchy

namespace Adventure

/-- What the placeholders of a rule stand for. -/
abbrev Binding := SortedMap Placeholder Entity

namespace Binding

/-- The player and the inventory, which every rule names by themselves. -/
def fixed : Binding :=
  SortedMap.of [(⟨"P", "P"⟩, ⟨"P", "P"⟩), (⟨"I", "I"⟩, ⟨"I", "I"⟩)]

def uses (binding : Binding) (entity : Entity) : Bool :=
  binding.any fun _ bound => bound == entity

/-- Let a placeholder stand for an entity of a descending type. A placeholder keeps what it stands for, and
no entity is taken twice. -/
def bind (types : TypeHierarchy) (binding : Binding) (placeholder : Placeholder) (entity : Entity) :
    Option Binding :=
  if types.descends entity.type placeholder.type then
    match binding[placeholder]? with
    | some bound => if bound = entity then some binding else none
    | none => if binding.uses entity then none else some (binding.insert placeholder entity)
  else none

/-- Bind placeholders to entities one by one; their numbers have to agree. -/
def bindAll (types : TypeHierarchy) : Binding → List Placeholder → List Entity → Option Binding
  | binding, [], [] => some binding
  | binding, placeholder :: placeholders, entity :: entities =>
    match binding.bind types placeholder entity with
    | some extended => bindAll types extended placeholders entities
    | none => none
  | _, _, _ => none

end Binding

namespace Pattern

/-- The extension of a binding under which the pattern is the fact. -/
def unify (types : TypeHierarchy) (pattern : Pattern) (fact : Fact) (binding : Binding) : Option Binding :=
  if pattern.predicate = fact.predicate then
    binding.bindAll types pattern.parameters fact.arguments
  else none

/-- The fact a pattern stands for, if all its placeholders are bound. -/
def ground (pattern : Pattern) (binding : Binding) : Option Fact :=
  (pattern.parameters.mapM fun placeholder => binding[placeholder]?).map (⟨pattern.predicate, ·⟩)

end Pattern

end Adventure
