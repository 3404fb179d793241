import Adventure.Record.Knowledge

namespace Adventure.Script

/-- A pattern in a rule; a preserved one stands on both sides of it. -/
structure Literal where
  preserved : Bool
  pattern : Pattern
deriving DecidableEq

/-- A rule as it is written, with the line of its first word. -/
structure RuleStatement where
  observational : Bool
  name : String
  before : List Literal
  after : List Literal
  command : Option String
  line : Nat
deriving DecidableEq

/-- A statement of the rule language. -/
inductive Statement where
  | name (id : String)
  | type (declared : TypeDeclaration)
  | predicate (declared : Signature)
  | rule (written : RuleStatement)
  | constraint (id : String) (literals : List Literal)
  | inverse (pair : InversePair)
  | hint (given : Hint)
deriving DecidableEq

def preservedPatterns (literals : List Literal) : List Pattern :=
  (literals.filter Literal.preserved).map Literal.pattern

def RuleStatement.declaration (written : RuleStatement) : RuleDeclaration where
  rule :=
    { name := written.name
      before := written.before.map Literal.pattern ++ preservedPatterns written.after
      after := preservedPatterns written.before ++ written.after.map Literal.pattern
      template := written.command
      observational := written.observational }
  line := some written.line

/-- The declarations with those of one more statement. -/
def Statement.declare (record : KnowledgeRecord) : Statement → KnowledgeRecord
  | .name id => { record with id }
  | .type declared => { record with types := record.types ++ [declared] }
  | .predicate declared => { record with predicates := record.predicates ++ [declared] }
  | .rule written => { record with rules := record.rules ++ [written.declaration] }
  | .constraint id literals =>
    { record with constraints := record.constraints ++ [⟨id, literals.map Literal.pattern⟩] }
  | .inverse pair => { record with inverses := record.inverses ++ [pair] }
  | .hint given => { record with hints := record.hints ++ [given] }

/-- The declarations of a list of statements. -/
def declarations (statements : List Statement) : KnowledgeRecord :=
  statements.foldl Statement.declare KnowledgeRecord.empty

end Adventure.Script
