import Adventure.Record.Knowledge
import Adventure.Record.TermNotation

namespace Adventure

open Readable

variable {ν : Type}

def TypeDeclaration.read? [Readable ν] (value : ν) : Option TypeDeclaration := do
  let fields ← recordOf? "TypeDef" ["name", "parents"] value
  return ⟨← required fields "name" text?, ← defaulted fields "parents" [] texts?⟩

def TypeDeclaration.write [Writable ν] (declared : TypeDeclaration) : ν :=
  Writable.record [("name", Writable.text declared.name), ("parents", texts declared.parents)]

def Signature.read? [Readable ν] (value : ν) : Option Signature := do
  let fields ← recordOf? "SignatureDef" ["name", "types"] value
  return ⟨← required fields "name" text?, ← defaulted fields "types" [] texts?⟩

def Signature.write [Writable ν] (signature : Signature) : ν :=
  Writable.record [("name", Writable.text signature.predicate), ("types", texts signature.types)]

def RuleDeclaration.read? [Readable ν] (value : ν) : Option RuleDeclaration := do
  let fields ←
    recordOf? "RuleDef" ["name", "preconditions", "postconditions", "command", "observational", "line"] value
  let name ← required fields "name" text?
  let before ← defaulted fields "preconditions" [] (listOf? Pattern.read?)
  let after ← defaulted fields "postconditions" [] (listOf? Pattern.read?)
  let template ← defaulted fields "command" none (optionOf? text?)
  let observational ← defaulted fields "observational" false flag?
  let line ← defaulted fields "line" none (optionOf? size?)
  return ⟨⟨name, before, after, template, observational⟩, line⟩

def RuleDeclaration.write [Writable ν] (declared : RuleDeclaration) : ν :=
  Writable.record [
    ("name", Writable.text declared.rule.name),
    ("preconditions", Writable.list (declared.rule.before.map Pattern.write)),
    ("postconditions", Writable.list (declared.rule.after.map Pattern.write)),
    ("command", optionalText declared.rule.template),
    ("observational", Writable.flag declared.rule.observational),
    ("line", Writable.option (declared.line.map fun line => Writable.int line))]

def Constraint.read? [Readable ν] (value : ν) : Option Constraint := do
  let fields ← recordOf? "ConstraintDef" ["name", "pattern"] value
  return ⟨← required fields "name" text?, ← defaulted fields "pattern" [] (listOf? Pattern.read?)⟩

def Constraint.write [Writable ν] (constraint : Constraint) : ν :=
  Writable.record [
    ("name", Writable.text constraint.name),
    ("pattern", Writable.list (constraint.patterns.map Pattern.write))]

def InversePair.read? [Readable ν] (value : ν) : Option InversePair := do
  let fields ← recordOf? "InverseDef" ["rule", "inverse"] value
  return ⟨← required fields "rule" text?, ← required fields "inverse" text?⟩

def InversePair.write [Writable ν] (pair : InversePair) : ν :=
  Writable.record [("rule", Writable.text pair.rule), ("inverse", Writable.text pair.inverse)]

def Hint.read? [Readable ν] (value : ν) : Option Hint := do
  let fields ← recordOf? "HintDef" ["type", "text"] value
  return ⟨← required fields "type" text?, ← required fields "text" text?⟩

def Hint.write [Writable ν] (hint : Hint) : ν :=
  Writable.record [("type", Writable.text hint.type), ("text", Writable.text hint.text)]

namespace KnowledgeRecord

/-- Only the name of a knowledge base has to be given. -/
def read? [Readable ν] (value : ν) : Option KnowledgeRecord := do
  let fields ←
    recordOf? "KnowledgeBaseDef" ["id", "types", "predicates", "rules", "constraints", "inverses", "hints"] value
  let id ← required fields "id" text?
  let types ← defaulted fields "types" [] (listOf? TypeDeclaration.read?)
  let predicates ← defaulted fields "predicates" [] (listOf? Signature.read?)
  let rules ← defaulted fields "rules" [] (listOf? RuleDeclaration.read?)
  let constraints ← defaulted fields "constraints" [] (listOf? Constraint.read?)
  let inverses ← defaulted fields "inverses" [] (listOf? InversePair.read?)
  let hints ← defaulted fields "hints" [] (listOf? Hint.read?)
  return ⟨id, types, predicates, rules, constraints, inverses, hints⟩

def write [Writable ν] (record : KnowledgeRecord) : ν :=
  Writable.record [
    ("id", Writable.text record.id),
    ("types", Writable.list (record.types.map TypeDeclaration.write)),
    ("predicates", Writable.list (record.predicates.map Signature.write)),
    ("rules", Writable.list (record.rules.map RuleDeclaration.write)),
    ("constraints", Writable.list (record.constraints.map Constraint.write)),
    ("inverses", Writable.list (record.inverses.map InversePair.write)),
    ("hints", Writable.list (record.hints.map Hint.write))]

end KnowledgeRecord

end Adventure
