import Adventure.Logic.Term

namespace Adventure

/-- A name and a type as one word. -/
def label (name type : String) : String := name ++ ":" ++ type

/-- The name and the type of a word, divided by the last colon. -/
def ofLabel? (word : String) : Option (String × String) :=
  let back := word.toList.reverse
  match back.dropWhile (· != ':') with
  | [] => none
  | _ :: name => some (String.ofList name.reverse, String.ofList (back.takeWhile (· != ':')).reverse)

def Entity.label (entity : Entity) : String := Adventure.label entity.name entity.type

/-- A word without a colon is an entity that has its type for a name. -/
def Entity.ofLabel (word : String) : Entity :=
  match ofLabel? word with
  | some (name, type) => ⟨name, type⟩
  | none => ⟨word, word⟩

def Placeholder.label (placeholder : Placeholder) : String := Adventure.label placeholder.name placeholder.type

/-- A word without a colon is a placeholder of the type that it names, less the primes at its end. -/
def Placeholder.ofLabel (word : String) : Placeholder :=
  match ofLabel? word with
  | some (name, type) => ⟨name, type⟩
  | none => ⟨word, String.ofList (word.toList.reverse.dropWhile (· == '\'')).reverse⟩

end Adventure
