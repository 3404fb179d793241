import Adventure.Logic.Term
import Adventure.Logic.Template

namespace Adventure

/-- A change of the world: the facts it needs and the facts that hold after it. A fact on both sides is
kept. The template is the command with a slot for each entity it names. -/
structure Action where
  name : String
  before : FactSet
  after : FactSet
  template : Option String
deriving DecidableEq

namespace Action

def compareActions : Action → Action → Ordering :=
  compareLex (comparePair Action.name fun action => action.before.toList)
    (comparePair (fun action => action.after.toList) Action.template)

instance : Ord Action := ⟨compareActions⟩

instance : Std.TransOrd Action :=
  inferInstanceAs (Std.TransCmp (compareLex (comparePair Action.name fun action => action.before.toList)
    (comparePair (fun action => action.after.toList) Action.template)))

instance : Std.LawfulEqOrd Action where
  eq_of_compare {a b} equal := by
    have both := Ordering.then_eq_eq.mp (show compareActions a b = .eq from equal)
    obtain ⟨name, before⟩ := comparePair_eq both.1
    obtain ⟨after, template⟩ := comparePair_eq both.2
    have sameBefore := Std.ExtTreeSet.toList_inj.mp before
    have sameAfter := Std.ExtTreeSet.toList_inj.mp after
    cases a; cases b; simp_all

def of (name : String) (before after : List Fact) (template : Option String) : Action :=
  ⟨name, SortedSet.of before, SortedSet.of after, template⟩

/-- The facts that an action makes true. -/
def added (action : Action) : FactSet := action.after.filter (!action.before.contains ·)

/-- The facts that an action makes false. -/
def removed (action : Action) : FactSet := action.before.filter (!action.after.contains ·)

/-- An action that changes nothing. -/
def idle (action : Action) : Bool := action.added.isEmpty && action.removed.isEmpty

def entities (action : Action) : SortedSet Entity :=
  SortedSet.of ((action.before.toList ++ action.after.toList).flatMap Fact.arguments)

/-- The command of an action with its entities named by `naming`; without a template, its own name. -/
def commandWith (naming : String → String) (action : Action) : String :=
  match action.template with
  | some template => Template.render naming template
  | none => action.name

def command (action : Action) : String := action.commandWith id

end Action

end Adventure
