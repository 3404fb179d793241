import Adventure.Sorted

namespace Adventure

/-- What a record refers to by name. -/
inductive Referent where
  | type
  | predicate
  | placeholder
  | rule
  | constraint
  | entity
deriving DecidableEq

def Referent.text : Referent → String
  | .type => "type"
  | .predicate => "predicate"
  | .placeholder => "placeholder"
  | .rule => "rule"
  | .constraint => "constraint"
  | .entity => "entity"

/-- The owner of a list of patterns. -/
inductive PatternOwner where
  | rule (name : String)
  | constraint (name : String)
deriving DecidableEq

def PatternOwner.text : PatternOwner → String
  | .rule name => "rule '" ++ name ++ "'"
  | .constraint name => "constraint '" ++ name ++ "'"

/-- Where a record refers to something. -/
inductive Site where
  | parents (type : String)
  | declaration (predicate : String)
  | patterns (owner : PatternOwner)
  | placeholder (owner : PatternOwner) (name : String)
  | command (rule : String)
  | inverse (rule partner : String)
  | hint
  | infos
  | action (quest : Nat) (name predicate : String)
  | condition (quest : Nat) (predicate : String)
deriving DecidableEq

def Site.text : Site → String
  | .parents type => "parent of type '" ++ type ++ "'"
  | .declaration predicate => "predicate '" ++ predicate ++ "'"
  | .patterns owner => owner.text
  | .placeholder owner name => owner.text ++ ": placeholder '" ++ name ++ "'"
  | .command rule => "rule '" ++ rule ++ "' command template"
  | .inverse rule partner => "inverse '" ++ rule ++ " :: " ++ partner ++ "'"
  | .hint => "surface hint"
  | .infos => "entity info table"
  | .action quest name predicate => s!"quest #{quest} action '" ++ name ++ "': " ++ predicate
  | .condition quest predicate => s!"quest #{quest} condition: " ++ predicate

/-- A value that a record may not have. -/
inductive BadValue where
  | missingKnowledgeBase
  | clashingTypes (entity first second : String)
  | misfiledInfo (key id : String)
  | infoType (key recorded world : String)
  | questWithoutEvents (quest : Nat)
  | emptyEvent (quest : Nat)
  | commandCount (quest commands actions : Nat)
  | cyclicType (name : String)
  | emptyConstraint (name : String)
deriving DecidableEq

def BadValue.text : BadValue → String
  | .missingKnowledgeBase => "game kb_id missing"
  | .clashingTypes entity first second =>
    "entity '" ++ entity ++ "' used with types '" ++ first ++ "' and '" ++ second ++ "'"
  | .misfiledInfo key id => "info key '" ++ key ++ "' does not match its id '" ++ id ++ "'"
  | .infoType key recorded world =>
    "info '" ++ key ++ "' has type '" ++ recorded ++ "' but the world says '" ++ world ++ "'"
  | .questWithoutEvents quest => s!"quest #{quest}: no win or fail events"
  | .emptyEvent quest => s!"quest #{quest}: empty event"
  | .commandCount quest commands actions => s!"quest #{quest}: {commands} commands for {actions} actions"
  | .cyclicType name => "type '" ++ name ++ "' is its own ancestor"
  | .emptyConstraint name => "constraint '" ++ name ++ "': empty pattern"

/-- Why a record is not well formed. -/
inductive Problem where
  | duplicate (kind : Referent) (id : String)
  | missing (kind : Referent) (id : String) (site : Site)
  | invalid (value : BadValue)
deriving DecidableEq

def Problem.message : Problem → String
  | .duplicate kind id => "duplicate " ++ kind.text ++ " id '" ++ id ++ "'"
  | .missing kind id site => "missing " ++ kind.text ++ " '" ++ id ++ "' (" ++ site.text ++ ")"
  | .invalid value => "invalid value (" ++ value.text ++ ")"

def Problem.messages (problems : List Problem) : String :=
  "; ".intercalate (problems.map Problem.message)

end Adventure
