import Adventure.Proofs.Matching.Unification
import Adventure.Record.GameNotation
import Adventure.Record.KnowledgeNotation

namespace Adventure

open Readable

/-- What is written as values of one format is read from those of another, as which they come. An option is there for
texts and numbers only, since a format may write one that is not there like a value of its own. -/
structure Conveys {ω ν : Type} [Writable ω] [Readable ν] (come : ω → ν) : Prop where
  text : ∀ value, text? (come (Writable.text value)) = some value
  int : ∀ kind value, int? kind (come (Writable.int value)) = some value
  flag : ∀ value, flag? (come (Writable.flag value)) = some value
  absent : option? (come (Writable.option none)) = some none
  someText : ∀ value,
    option? (come (Writable.option (some (Writable.text value)))) = some (some (come (Writable.text value)))
  someInt : ∀ value,
    option? (come (Writable.option (some (Writable.int value)))) = some (some (come (Writable.int value)))
  list : ∀ items, list? (come (Writable.list items)) = some (items.map come)
  kind : ∀ kind fields, isKind kind (come (Writable.record fields)) = true
  fields : ∀ names fields, fields.map Prod.fst = names → names.Nodup →
    fields? names (come (Writable.record fields)) = some (fields.map fun field => (field.1, come field.2))

/-- The fields that a record knows are those of its names, if no two of them have one name. -/
theorem known_eq_some_iff {ν : Type} [Readable ν] {names : List String} {given fields : List (String × ν)} :
    known names given = some fields ↔
      (given.filter fun field => names.contains field.1) = fields ∧ (fields.map Prod.fst).Nodup := by
  induction given generalizing fields with
  | nil => cases fields <;> simp [known]
  | cons field rest ih =>
    obtain ⟨name, value⟩ := field
    by_cases own : name ∈ names <;>
      simp only [known, Option.bind_eq_bind, Option.bind_eq_some_iff, ih, List.contains_iff_mem, own, List.filter_cons,
        if_true, if_false]
    · constructor
      · rintro ⟨others, ⟨rfl, different⟩, taken⟩
        split at taken
        next => cases taken
        next fresh =>
          cases taken
          exact ⟨rfl, List.nodup_cons.mpr ⟨fresh, different⟩⟩
      · rintro ⟨rfl, different⟩
        obtain ⟨fresh, others⟩ := List.nodup_cons.mp different
        exact ⟨_, ⟨rfl, others⟩, if_neg fresh⟩
    · constructor
      · rintro ⟨others, here, ⟨⟩⟩
        exact here
      · exact fun here => ⟨fields, here, rfl⟩

theorem contains_of_named {ν : Type} {names : List String} {fields : List (String × ν)}
    (named : fields.map Prod.fst = names) : ∀ field ∈ fields, names.contains field.1 = true :=
  fun _ member => List.contains_iff_mem.mpr (named ▸ List.mem_map_of_mem member)

theorem known_of_named {ν : Type} [Readable ν] {names : List String} {fields : List (String × ν)}
    (named : fields.map Prod.fst = names) (different : names.Nodup) : known names fields = some fields := by
  rw [known_eq_some_iff, named]
  exact ⟨List.filter_eq_self.mpr (contains_of_named named), different⟩

theorem mapM_map_eq_some {α β : Type} {read : β → Option α} {write : α → β} {xs : List α}
    (back : ∀ x ∈ xs, read (write x) = some x) : (xs.map write).mapM read = some xs := by
  rw [mapM_eq_some_iff, List.map_map]
  exact List.map_congr_left back

namespace Conveys

variable {ω ν : Type} [Writable ω] [Readable ν] {come : ω → ν}

theorem recordOf (conveys : Conveys come) (kind : String) {names : List String} {fields : List (String × ω)}
    (named : fields.map Prod.fst = names) (different : names.Nodup) :
    recordOf? kind names (come (Writable.record fields)) = some (fields.map fun field => (field.1, come field.2)) := by
  rw [recordOf?, conveys.kind, if_pos rfl, conveys.fields names fields named different]

theorem listOf (conveys : Conveys come) {α : Type} {read : ν → Option α} {write : α → ω} {xs : List α}
    (back : ∀ x ∈ xs, read (come (write x)) = some x) :
    listOf? read (come (Writable.list (xs.map write))) = some xs := by
  rw [listOf?, conveys.list, List.map_map]
  exact mapM_map_eq_some back

theorem texts (conveys : Conveys come) (values : List String) : texts? (come (texts values)) = some values :=
  conveys.listOf fun value _ => conveys.text value

theorem optionOf_none (conveys : Conveys come) {α : Type} (read : ν → Option α) :
    optionOf? read (come (Writable.option none)) = some none := by
  simp [optionOf?, conveys.absent]

theorem optionalText (conveys : Conveys come) (value : Option String) :
    optionOf? text? (come (optionalText value)) = some value := by
  cases value with
  | none => exact conveys.optionOf_none text?
  | some text => simp [optionOf?, Adventure.optionalText, conveys.someText, conveys.text]

theorem integer (conveys : Conveys come) {kind : IntegerKind} {n : Int} (fits : kind.holds n = true) :
    integer? kind (come (Writable.int n)) = some n := by
  simp [integer?, conveys.int, fits]

theorem word32 (conveys : Conveys come) (value : UInt32) :
    word32? (come (Writable.int value.toNat)) = some value := by
  have fits : IntegerKind.word32.holds value.toNat = true := by
    have := value.toNat_lt
    simp [IntegerKind.holds, IntegerKind.word32]
    omega
  simp [word32?, conveys.integer fits]

theorem word64 (conveys : Conveys come) (value : UInt64) :
    word64? (come (Writable.int value.toNat)) = some value := by
  have fits : IntegerKind.word64.holds value.toNat = true := by
    have := value.toNat_lt
    simp [IntegerKind.holds, IntegerKind.word64]
    omega
  simp [word64?, conveys.integer fits]

theorem int32 (conveys : Conveys come) (value : Int32) : int32? (come (Writable.int value.toInt)) = some value := by
  have fits : IntegerKind.int32.holds value.toInt = true := decide_eq_true ⟨value.le_toInt, value.toInt_lt⟩
  simp [int32?, conveys.integer fits]

theorem entity (conveys : Conveys come) (entity : Entity) : Entity.read? (come entity.write) = some entity := by
  simp [Entity.read?, Entity.write, typedName?, typedName, conveys.recordOf, required, List.lookup_cons, conveys.text]

theorem fact (conveys : Conveys come) (fact : Fact) : Fact.read? (come fact.write) = some fact := by
  simp [Fact.read?, Fact.write, application?, application, conveys.recordOf, required, defaulted, List.lookup_cons,
    conveys.text, conveys.listOf fun e _ => conveys.entity e]

theorem facts (conveys : Conveys come) (facts : List Fact) :
    listOf? Fact.read? (come (Writable.list (facts.map Fact.write))) = some facts :=
  conveys.listOf fun fact _ => conveys.fact fact

theorem action (conveys : Conveys come) (action : ActionRecord) :
    ActionRecord.read? (come action.write) = some action := by
  simp [ActionRecord.read?, ActionRecord.write, conveys.fields, required, defaulted, List.lookup_cons, conveys.text,
    conveys.facts, conveys.optionalText]

theorem event (conveys : Conveys come) (event : EventRecord) : EventRecord.read? (come event.write) = some event := by
  simp [EventRecord.read?, EventRecord.write, conveys.fields, defaulted, List.lookup_cons,
    conveys.listOf fun action _ => conveys.action action, conveys.facts, conveys.texts]

theorem quest (conveys : Conveys come) (quest : QuestRecord) : QuestRecord.read? (come quest.write) = some quest := by
  simp [QuestRecord.read?, QuestRecord.write, conveys.fields, defaulted, List.lookup_cons,
    conveys.listOf fun event _ => conveys.event event, conveys.int32, conveys.optionalText]

theorem info (conveys : Conveys come) (info : EntityInfo) : EntityInfo.read? (come info.write) = some info := by
  simp [EntityInfo.read?, EntityInfo.write, conveys.fields, required, defaulted, List.lookup_cons, conveys.text,
    conveys.optionalText, conveys.texts]

theorem placeholder (conveys : Conveys come) (placeholder : Placeholder) :
    Placeholder.read? (come placeholder.write) = some placeholder := by
  simp [Placeholder.read?, Placeholder.write, typedName?, typedName, conveys.recordOf, required, List.lookup_cons,
    conveys.text]

theorem pattern (conveys : Conveys come) (pattern : Pattern) : Pattern.read? (come pattern.write) = some pattern := by
  simp [Pattern.read?, Pattern.write, application?, application, conveys.recordOf, required, defaulted,
    List.lookup_cons, conveys.text, conveys.listOf fun p _ => conveys.placeholder p]

theorem patterns (conveys : Conveys come) (patterns : List Pattern) :
    listOf? Pattern.read? (come (Writable.list (patterns.map Pattern.write))) = some patterns :=
  conveys.listOf fun pattern _ => conveys.pattern pattern

theorem type (conveys : Conveys come) (declared : TypeDeclaration) :
    TypeDeclaration.read? (come declared.write) = some declared := by
  simp [TypeDeclaration.read?, TypeDeclaration.write, conveys.recordOf, required, defaulted, List.lookup_cons,
    conveys.text, conveys.texts]

theorem signature (conveys : Conveys come) (signature : Signature) :
    Signature.read? (come signature.write) = some signature := by
  simp [Signature.read?, Signature.write, conveys.recordOf, required, defaulted, List.lookup_cons, conveys.text,
    conveys.texts]

theorem someSize (conveys : Conveys come) {n : Nat} (fits : n < Nat.pow 2 64) :
    optionOf? size? (come (Writable.option (some (Writable.int n)))) = some (some n) := by
  have held : IntegerKind.word64.holds n = true := by
    simp [IntegerKind.holds, IntegerKind.word64] at fits ⊢
    omega
  simp [optionOf?, conveys.someInt, size?, conveys.integer held]

theorem rule (conveys : Conveys come) {declared : RuleDeclaration} (fits : ∀ n ∈ declared.line, n < Nat.pow 2 64) :
    RuleDeclaration.read? (come declared.write) = some declared := by
  obtain ⟨rule, line⟩ := declared
  cases line with
  | none =>
    simp [RuleDeclaration.read?, RuleDeclaration.write, conveys.recordOf, required, defaulted, List.lookup_cons,
      conveys.text, conveys.patterns, conveys.optionalText, conveys.flag, conveys.optionOf_none]
  | some n =>
    simp [RuleDeclaration.read?, RuleDeclaration.write, conveys.recordOf, required, defaulted, List.lookup_cons,
      conveys.text, conveys.patterns, conveys.optionalText, conveys.flag, conveys.someSize (fits n rfl)]

theorem constraint (conveys : Conveys come) (constraint : Constraint) :
    Constraint.read? (come constraint.write) = some constraint := by
  simp [Constraint.read?, Constraint.write, conveys.recordOf, required, defaulted, List.lookup_cons, conveys.text,
    conveys.patterns]

theorem inverse (conveys : Conveys come) (pair : InversePair) : InversePair.read? (come pair.write) = some pair := by
  simp [InversePair.read?, InversePair.write, conveys.recordOf, required, List.lookup_cons, conveys.text]

theorem hint (conveys : Conveys come) (hint : Hint) : Hint.read? (come hint.write) = some hint := by
  simp [Hint.read?, Hint.write, conveys.recordOf, required, List.lookup_cons, conveys.text]

/-- Declarations are read as they were written, if 64 bits hold the numbers of their lines. -/
theorem knowledge (conveys : Conveys come) {record : KnowledgeRecord}
    (fits : ∀ declared ∈ record.rules, ∀ n ∈ declared.line, n < Nat.pow 2 64) :
    KnowledgeRecord.read? (come record.write) = some record := by
  simp [KnowledgeRecord.read?, KnowledgeRecord.write, conveys.recordOf, required, defaulted, List.lookup_cons,
    conveys.text, conveys.listOf fun type _ => conveys.type type,
    conveys.listOf fun signature _ => conveys.signature signature,
    conveys.listOf fun declared member => conveys.rule (fits declared member),
    conveys.listOf fun constraint _ => conveys.constraint constraint,
    conveys.listOf fun pair _ => conveys.inverse pair, conveys.listOf fun hint _ => conveys.hint hint]

end Conveys

end Adventure
