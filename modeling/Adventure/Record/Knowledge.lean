import Adventure.Logic.Rule

namespace Adventure

structure TypeDeclaration where
  name : String
  parents : List String
deriving DecidableEq

/-- A rule with the line of the text it was read from. -/
structure RuleDeclaration where
  rule : Rule
  line : Option Nat
deriving DecidableEq

/-- Patterns that must never hold together. -/
structure Constraint where
  name : String
  patterns : List Pattern
deriving DecidableEq

/-- Two rules that undo each other. -/
structure InversePair where
  rule : String
  inverse : String
deriving DecidableEq

/-- A word for the things of a type. -/
structure Hint where
  type : String
  text : String
deriving DecidableEq

/-- The declarations of a knowledge base, in the order in which they are made. -/
structure KnowledgeRecord where
  id : String
  types : List TypeDeclaration
  predicates : List Signature
  rules : List RuleDeclaration
  constraints : List Constraint
  inverses : List InversePair
  hints : List Hint
deriving DecidableEq

namespace KnowledgeRecord

def empty : KnowledgeRecord := ⟨"", [], [], [], [], [], []⟩

/-- A problem for each name that an earlier one repeats. -/
def duplicatesFrom (kind : Referent) (seen : SortedSet String) : List String → List Problem
  | [] => []
  | id :: rest =>
    if seen.contains id then .duplicate kind id :: duplicatesFrom kind seen rest
    else duplicatesFrom kind (seen.insert id) rest

def duplicates (kind : Referent) (ids : List String) : List Problem := duplicatesFrom kind ∅ ids

/-- A problem if `id` is not among the known names. -/
def checkReference (kind : Referent) (known : SortedSet String) (site : Site) (id : String) : List Problem :=
  if known.contains id then [] else [.missing kind id site]

/-- The declared parents; of two declarations of one type the later counts. -/
def parentTable (types : List TypeDeclaration) : Parents :=
  SortedMap.of (types.map fun type => (type.name, type.parents))

/-- The first declared type that its own parents lead back to. -/
def cyclicType (types : List TypeDeclaration) : Option String :=
  let table := parentTable types
  (types.find? fun type => table.leadsTo .stack type.parents type.name).map TypeDeclaration.name

def patternProblems (record : KnowledgeRecord) (types : SortedSet String) (owner : PatternOwner)
    (pattern : Pattern) : List Problem :=
  (pattern.parameters.flatMap fun placeholder =>
    checkReference .type types (.placeholder owner placeholder.name) placeholder.type) ++
  if record.predicates.any fun declared =>
      declared.predicate == pattern.predicate && declared.types.length == pattern.parameters.length then []
  else [.missing .predicate (pattern.predicate ++ s!"/{pattern.parameters.length}") (.patterns owner)]

def ruleProblems (record : KnowledgeRecord) (types : SortedSet String) (rule : Rule) : List Problem :=
  let patterns := rule.before ++ rule.after
  let names := (patterns.flatMap Pattern.parameters).map Placeholder.name
  patterns.flatMap (record.patternProblems types (.rule rule.name)) ++
  (rule.template.elim [] Template.slots).flatMap fun slot =>
    if names.contains slot then [] else [.missing .placeholder slot (.command rule.name)]

def constraintProblems (record : KnowledgeRecord) (types : SortedSet String) (constraint : Constraint) :
    List Problem :=
  (if constraint.patterns.isEmpty then [.invalid (.emptyConstraint constraint.name)] else []) ++
  constraint.patterns.flatMap (record.patternProblems types (.constraint constraint.name))

/-- Everything that keeps the declarations from making a knowledge base: names declared twice or never,
types above themselves, undeclared predicates, command slots without a placeholder, empty constraints. -/
def problems (record : KnowledgeRecord) : List Problem :=
  let typeNames := record.types.map TypeDeclaration.name
  let ruleNames := record.rules.map (·.rule.name)
  let types := SortedSet.of typeNames
  let rules := SortedSet.of ruleNames
  duplicates .type typeNames ++ duplicates .rule ruleNames ++
  duplicates .constraint (record.constraints.map Constraint.name) ++
  (record.types.flatMap fun type => type.parents.flatMap (checkReference .type types (.parents type.name))) ++
  (cyclicType record.types).elim [] (fun name => [.invalid (.cyclicType name)]) ++
  (record.predicates.flatMap fun declared =>
    declared.types.flatMap (checkReference .type types (.declaration declared.predicate))) ++
  (record.rules.flatMap fun declared => record.ruleProblems types declared.rule) ++
  record.constraints.flatMap (record.constraintProblems types) ++
  (record.inverses.flatMap fun pair =>
    [pair.rule, pair.inverse].flatMap (checkReference .rule rules (.inverse pair.rule pair.inverse))) ++
  record.hints.flatMap fun hint => checkReference .type types .hint hint.type

end KnowledgeRecord

end Adventure
