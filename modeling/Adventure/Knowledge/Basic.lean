import Adventure.Record.Knowledge

namespace Adventure

/-- The types, predicates, rules and constraints of a kind of world. -/
structure KnowledgeBase where
  id : String
  types : TypeHierarchy
  signatures : List Signature
  rules : List Rule
  constraints : List Constraint
  inverses : SortedMap String String
  hints : SortedMap String String

namespace KnowledgeBase

/-- Record each pair in both orders; of two pairs with a rule in common the later counts. -/
def inverseTable (pairs : List InversePair) : SortedMap String String :=
  SortedMap.of (pairs.flatMap fun pair => [(pair.rule, pair.inverse), (pair.inverse, pair.rule)])

/-- The knowledge base of declarations over a hierarchy made of their types. -/
def build (record : KnowledgeRecord) (types : TypeHierarchy) : KnowledgeBase where
  id := record.id
  types := types
  signatures := record.predicates
  rules := record.rules.map RuleDeclaration.rule
  constraints := record.constraints
  inverses := inverseTable record.inverses
  hints := SortedMap.of (record.hints.map fun hint => (hint.type, hint.text))

/-- The knowledge base of well-formed declarations. -/
def ofRecord (record : KnowledgeRecord) : Except Error KnowledgeBase :=
  match record.problems with
  | [] =>
    match TypeHierarchy.ofDeclarations (record.types.map fun type => (type.name, type.parents)) with
    | .ok types => .ok (build record types)
    | .error unknown => .error (.unknownType unknown)
  | problems => .error (.invalidRules problems)

/-- The rule of a name; of two rules with one name the later counts. -/
def rule? (kb : KnowledgeBase) (name : String) : Option Rule :=
  kb.rules.findRev? fun rule => rule.name == name

def rule (kb : KnowledgeBase) (name : String) : Except Error Rule :=
  match kb.rule? name with
  | some rule => .ok rule
  | none => .error (.unknownRule name)

/-- The rules to plan with. -/
def chainingRules (kb : KnowledgeBase) : List Rule :=
  kb.rules.filter (!·.observational)

/-- The rule that undoes a rule. -/
def inverseRule (kb : KnowledgeBase) (name : String) : Option Rule :=
  (kb.inverses[name]?).bind kb.rule?

/-- The word for a type, or for its nearest ancestor that has one. -/
def hint (kb : KnowledgeBase) (type : String) : Option String :=
  (type :: kb.types.ancestors type).findSome? (kb.hints[·]?)

def signaturesOf (kb : KnowledgeBase) (predicate : String) (arity : Nat) : List Signature :=
  kb.signatures.filter fun declared => declared.predicate == predicate && declared.types.length == arity

/-- The arguments have types that descend from those of a declaration. -/
def fits (kb : KnowledgeBase) (declared : Signature) (fact : Fact) : Bool :=
  (declared.types.zip fact.arguments).all fun (type, entity) => kb.types.descends entity.type type

/-- Why a fact cannot be stated, if it cannot. -/
def factFault (kb : KnowledgeBase) (fact : Fact) : Option FactFault :=
  match fact.arguments.find? (!kb.types.contains ·.type) with
  | some entity => some (.unknownType entity)
  | none =>
    match kb.signaturesOf fact.predicate fact.arguments.length with
    | [] => some (.undeclared fact.predicate fact.arguments.length)
    | declared => if declared.any (kb.fits · fact) then none else some (.misfit declared)

/-- A fact can be stated if its types are known and fit a declaration of its predicate. -/
def checkFact (kb : KnowledgeBase) (fact : Fact) : Except Error Unit :=
  match kb.factFault fact with
  | none => .ok ()
  | some fault => .error (.invalidFact fact fault)

/-- The knowledge base with only some rules. An inverse pair stays if both its rules do. -/
def withRules (kb : KnowledgeBase) (names : List String) : Except Error KnowledgeBase := do
  let rules ← names.mapM kb.rule
  return { kb with
    rules
    inverses := kb.inverses.filter fun rule inverse => names.contains rule && names.contains inverse }

end KnowledgeBase

end Adventure
