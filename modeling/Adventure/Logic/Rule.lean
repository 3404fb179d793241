import Adventure.Error
import Adventure.Logic.Action
import Adventure.Logic.Binding

namespace Adventure

/-- A change of the world over placeholders. Observational rules describe and are never planned with. -/
structure Rule where
  name : String
  before : List Pattern
  after : List Pattern
  template : Option String
  observational : Bool
deriving DecidableEq

namespace Rule

/-- The placeholders of a rule, in order of first appearance. -/
def placeholders (rule : Rule) : List Placeholder :=
  distinct ((rule.before ++ rule.after).flatMap Pattern.parameters)

/-- The placeholders that only the result of a rule mentions. -/
def resultOnly (rule : Rule) : List Placeholder :=
  rule.placeholders.filter (!(rule.before.flatMap Pattern.parameters).contains ·)

/-- The patterns of the facts that a rule makes true. -/
def addedPatterns (rule : Rule) : List Pattern :=
  rule.after.filter (!rule.before.contains ·)

def groundAll (rule : Rule) (binding : Binding) (patterns : List Pattern) : Except Error (List Fact) :=
  patterns.mapM fun pattern =>
    match pattern.ground binding with
    | some fact => .ok fact
    | none =>
      let missing := pattern.parameters.find? (!binding.contains ·)
      .error (.unbound rule.name ((missing.map Placeholder.name).getD ""))

/-- The entity that a placeholder name stands for; of two placeholders with that name the last counts. -/
def named (binding : Binding) (name : String) : Option Entity :=
  binding.foldl (fun found placeholder entity => if placeholder.name == name then some entity else found) none

/-- A command template whose slots name entities in place of placeholders. -/
def fillTemplate (binding : Binding) (template : String) : String :=
  Template.render (fun name => Template.slot ((named binding name).elim name Entity.name)) template

/-- The action of a rule whose placeholders are all bound. -/
def instantiate (rule : Rule) (binding : Binding) : Except Error Action := do
  let before ← rule.groundAll binding rule.before
  let after ← rule.groundAll binding rule.after
  return Action.of rule.name before after (rule.template.map (fillTemplate binding))

/-- The extensions of a binding that make each pattern one of the facts. -/
def unifyAll (types : TypeHierarchy) (facts : List Fact) : List Pattern → Binding → List Binding
  | [], binding => [binding]
  | pattern :: rest, binding =>
    facts.flatMap fun fact =>
      match pattern.unify types fact binding with
      | some extended => unifyAll types facts rest extended
      | none => []

/-- A binding under which the rule is the action. -/
def matchAction (types : TypeHierarchy) (rule : Rule) (action : Action) : Option Binding :=
  if action.name = rule.name then
    (unifyAll types action.before.toList rule.before ∅).findSome? fun partly =>
      (unifyAll types action.after.toList rule.after partly).find? fun binding =>
        match rule.instantiate binding with
        | .ok found => found == action
        | .error _ => false
  else none

def side (patterns : List Pattern) : String := " & ".intercalate (patterns.map Pattern.text)

def text (rule : Rule) : String := rule.name ++ " :: " ++ side rule.before ++ " -> " ++ side rule.after

end Rule

end Adventure
