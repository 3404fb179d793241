import Adventure.Document
import Adventure.Logic.Term

namespace Adventure

open Readable

variable {ν : Type}

def texts? [Readable ν] : ν → Option (List String) := listOf? text?

def texts [Writable ν] (values : List String) : ν := Writable.list (values.map Writable.text)

def optionalText [Writable ν] (value : Option String) : ν := Writable.option (value.map Writable.text)

/-- A name and a type, in a record of a kind. -/
def typedName? [Readable ν] (kind : String) (value : ν) : Option (String × String) := do
  let fields ← recordOf? kind ["name", "type"] value
  return (← required fields "name" text?, ← required fields "type" text?)

def typedName [Writable ν] (name type : String) : ν :=
  Writable.record [("name", Writable.text name), ("type", Writable.text type)]

def Entity.read? [Readable ν] (value : ν) : Option Entity :=
  (typedName? "VariableDef" value).map fun (name, type) => ⟨name, type⟩

def Entity.write [Writable ν] (entity : Entity) : ν := typedName entity.name entity.type

def Placeholder.read? [Readable ν] (value : ν) : Option Placeholder :=
  (typedName? "PlaceholderDef" value).map fun (name, type) => ⟨name, type⟩

def Placeholder.write [Writable ν] (placeholder : Placeholder) : ν := typedName placeholder.name placeholder.type

/-- A name with arguments, in a record of a kind. -/
def application? {α : Type} [Readable ν] (kind : String) (argument? : ν → Option α) (value : ν) :
    Option (String × List α) := do
  let fields ← recordOf? kind ["name", "arguments"] value
  return (← required fields "name" text?, ← defaulted fields "arguments" [] (listOf? argument?))

def application [Writable ν] (name : String) (arguments : List ν) : ν :=
  Writable.record [("name", Writable.text name), ("arguments", Writable.list arguments)]

def Fact.read? [Readable ν] (value : ν) : Option Fact :=
  (application? "PropositionDef" Entity.read? value).map fun (name, arguments) => ⟨name, arguments⟩

def Fact.write [Writable ν] (fact : Fact) : ν := application fact.predicate (fact.arguments.map Entity.write)

def Pattern.read? [Readable ν] (value : ν) : Option Pattern :=
  (application? "PatternDef" Placeholder.read? value).map fun (name, parameters) => ⟨name, parameters⟩

def Pattern.write [Writable ν] (pattern : Pattern) : ν :=
  application pattern.predicate (pattern.parameters.map Placeholder.write)

end Adventure
