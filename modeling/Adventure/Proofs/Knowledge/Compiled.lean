import Adventure.Knowledge.Compiled
import Adventure.Proofs.Knowledge.Accepted
import Adventure.Proofs.Record.Notation
import Adventure.Proofs.Ron.Reading
import Adventure.Proofs.Script.Yields

namespace Adventure

namespace Ron

/-- What is written in this notation is read from it as it stands, under the usual rules. -/
theorem conveys : Conveys fun value : Ron => (⟨Rules.usual, value⟩ : Part) where
  text _ := rfl
  int _ _ := rfl
  flag _ := rfl
  absent := rfl
  someText _ := rfl
  someInt _ := rfl
  list _ := rfl
  kind _ _ := rfl
  fields _ _ named different := known_of_named (by rw [List.map_map]; exact named) different

theorem Plain.mono {depth more : Nat} {value : Ron} (plain : Plain depth value) (deeper : depth ≤ more) :
    Plain more value := by
  induction plain generalizing more with
  | text value => exact .text value
  | flag value => exact .flag value
  | number fits => exact .number fits
  | absent => exact .absent
  | present _ ih =>
    obtain ⟨more, rfl⟩ := Nat.exists_eq_add_of_le' (Nat.le_trans (Nat.le_add_left 1 _) deeper)
    exact .present (ih (Nat.le_of_add_le_add_right deeper))
  | list _ ih =>
    obtain ⟨more, rfl⟩ := Nat.exists_eq_add_of_le' (Nat.le_trans (Nat.le_add_left 2 _) deeper)
    exact .list fun item member => ih item member (Nat.le_of_add_le_add_right deeper)
  | record filled named _ ih =>
    obtain ⟨more, rfl⟩ := Nat.exists_eq_add_of_le' (Nat.le_trans (Nat.le_add_left 2 _) deeper)
    exact .record filled named fun field member => ih field member (Nat.le_of_add_le_add_right deeper)

section Written

variable {depth : Nat}

theorem plain_list {α : Type} {write : α → Ron} {xs : List α} (all : ∀ x ∈ xs, Plain depth (write x)) :
    Plain (depth + 2) (Writable.list (xs.map write)) := by
  refine .list fun item member => ?_
  obtain ⟨x, listed, rfl⟩ := List.mem_map.mp member
  exact all x listed

theorem plain_texts (values : List String) : Plain 2 (texts values) :=
  plain_list fun value _ => .text value

theorem plain_optionalText (value : Option String) : Plain 1 (optionalText value) := by
  cases value with
  | none => exact .absent
  | some text => exact .present (.text text)

/-- Fields with which a record is written. -/
def PlainFields (depth : Nat) (fields : List (String × Ron)) : Prop :=
  ∀ field ∈ fields, Token.isName field.1 = true ∧ Plain depth field.2

theorem PlainFields.nil : PlainFields depth [] := List.forall_mem_nil _

theorem PlainFields.cons {name : String} {value : Ron} {fields : List (String × Ron)} (named : Token.isName name = true)
    (plain : Plain depth value) (others : PlainFields depth fields) : PlainFields depth ((name, value) :: fields) :=
  List.forall_mem_cons.mpr ⟨⟨named, plain⟩, others⟩

theorem plain_record {first : String × Ron} {others : List (String × Ron)}
    (all : PlainFields depth (first :: others)) : Plain (depth + 2) (Writable.record (first :: others)) :=
  .record (List.cons_ne_nil _ _) (fun field member => (all field member).1) fun field member => (all field member).2

theorem plain_textPair {a b x y : String} (first : Token.isName a = true) (second : Token.isName b = true) :
    Plain 2 (Writable.record [(a, Writable.text x), (b, Writable.text y)]) :=
  plain_record <| .cons first (.text x) <| .cons second (.text y) .nil

theorem plain_pattern (pattern : Pattern) : Plain 6 pattern.write :=
  plain_record <|
    .cons (by decide) (.text pattern.predicate) <|
    .cons (by decide) (plain_list fun _ _ => plain_textPair (by decide) (by decide)) .nil

theorem plain_patterns (patterns : List Pattern) : Plain 8 (Writable.list (patterns.map Pattern.write)) :=
  plain_list fun pattern _ => plain_pattern pattern

theorem plain_type (type : TypeDeclaration) : Plain 4 type.write :=
  plain_record <| .cons (by decide) (.text type.name) <| .cons (by decide) (plain_texts type.parents) .nil

theorem plain_signature (signature : Signature) : Plain 4 signature.write :=
  plain_record <| .cons (by decide) (.text signature.predicate) <| .cons (by decide) (plain_texts signature.types) .nil

theorem plain_line {line : Option Nat} (fits : ∀ n ∈ line, n < Nat.pow 2 64) :
    Plain 1 (Writable.option (line.map fun n => Writable.int n)) := by
  cases line with
  | none => exact .absent
  | some n => exact .present (.number (fits n rfl))

theorem plain_rule {declared : RuleDeclaration} (fits : ∀ n ∈ declared.line, n < Nat.pow 2 64) :
    Plain 10 declared.write :=
  plain_record <|
    .cons (by decide) (.text declared.rule.name) <|
    .cons (by decide) (plain_patterns declared.rule.before) <|
    .cons (by decide) (plain_patterns declared.rule.after) <|
    .cons (by decide) ((plain_optionalText declared.rule.template).mono (by decide)) <|
    .cons (by decide) (.flag declared.rule.observational) <|
    .cons (by decide) ((plain_line fits).mono (by decide)) .nil

theorem plain_constraint (constraint : Constraint) : Plain 10 constraint.write :=
  plain_record <|
    .cons (by decide) (.text constraint.name) <| .cons (by decide) (plain_patterns constraint.patterns) .nil

/-- Declarations are written as plain values. Rules hold patterns, and these hold placeholders: with the lists there are
seven containers in one another, each of which counts twice. -/
theorem plain_knowledge {record : KnowledgeRecord}
    (fits : ∀ declared ∈ record.rules, ∀ n ∈ declared.line, n < Nat.pow 2 64) : Plain 14 record.write :=
  plain_record <|
    .cons (by decide) (.text record.id) <|
    .cons (by decide) ((plain_list fun type _ => plain_type type).mono (by decide)) <|
    .cons (by decide) ((plain_list fun signature _ => plain_signature signature).mono (by decide)) <|
    .cons (by decide) (plain_list fun declared member => plain_rule (fits declared member)) <|
    .cons (by decide) (plain_list fun constraint _ => plain_constraint constraint) <|
    .cons (by decide) ((plain_list fun _ _ => plain_textPair (by decide) (by decide)).mono (by decide)) <|
    .cons (by decide) ((plain_list fun _ _ => plain_textPair (by decide) (by decide)).mono (by decide)) .nil

end Written

end Ron

/-- A compiled knowledge base is read back as it was, if 64 bits hold the numbers of its lines. -/
theorem KnowledgeRecord.ofCompiled?_compiled {record : KnowledgeRecord}
    (fits : ∀ declared ∈ record.rules, ∀ n ∈ declared.line, n < Nat.pow 2 64) :
    KnowledgeRecord.ofCompiled? record.compiled = some record := by
  have read : Ron.ofText? record.compiled = some ⟨Ron.Rules.usual, record.write⟩ :=
    Ron.ofText?_toText ((Ron.plain_knowledge fits).mono (by decide))
  rw [ofCompiled?, read, Option.bind_some]
  exact Ron.conveys.knowledge fits

namespace Script

/-- The line of a rule is one of the text's. -/
def Timely (lines : Nat) : Statement → Prop
  | .rule written => written.line ≤ lines + 1
  | _ => True

theorem ruleStatement_yields (lines : Nat) : Yields (ruleStatement lines) (Timely lines) := by
  unfold ruleStatement
  refine .after fun before => ?_
  iterate 9 refine .after fun _ => ?_
  refine .pure ?_
  show lines - newlines before + 1 ≤ lines + 1
  omega

theorem timely_of_read {source : String} {statements : List Statement} (read : read? source = some statements) :
    ∀ statement ∈ statements, Timely (newlines source.toList) statement := by
  refine Yields.read (.statement (ruleStatement_yields _) fun statement none => ?_) read
  cases statement with
  | rule => cases none
  | _ => trivial

theorem compile_eq_ok_iff {source : String} {record : KnowledgeRecord} : compile source = .ok record ↔
    (∃ statements, read? source = some statements ∧ declared statements = record) ∧ record.problems = [] := by
  rw [compile, parse]
  cases read? source with
  | none => simp
  | some statements =>
    simp only [declarations_eq, Option.some.injEq, exists_eq_left']
    cases problems : (declared statements).problems with
    | nil =>
      constructor
      · rintro ⟨⟩
        exact ⟨rfl, problems⟩
      · rintro ⟨rfl, -⟩
        rfl
    | cons =>
      constructor
      · rintro ⟨⟩
      · rintro ⟨rfl, flawless⟩
        simp [flawless] at problems

/-- The rules of a compiled text are numbered with its lines. -/
theorem line_lt_of_compile {source : String} {record : KnowledgeRecord} (compiles : compile source = .ok record)
    (held : source.length < Nat.pow 2 63) :
    ∀ declared ∈ record.rules, ∀ n ∈ declared.line, n < Nat.pow 2 64 := by
  obtain ⟨⟨statements, read, rfl⟩, -⟩ := compile_eq_ok_iff.mp compiles
  have few : newlines source.toList ≤ source.length := List.count_le_length
  intro rule member n here
  obtain ⟨statement, listed, declares⟩ := List.mem_filterMap.mp member
  have timely := timely_of_read read statement listed
  cases statement with
  | rule written =>
    cases declares
    cases here
    have line : written.line ≤ newlines source.toList + 1 := timely
    have double : Nat.pow 2 64 = 2 * Nat.pow 2 63 := rfl
    omega
  | _ => cases declares

end Script

/-- What a text compiles to is read back as it was, and the knowledge base that is made of it is the one that the
text makes, if the text is no longer than a machine of 64 bits can hold. -/
theorem KnowledgeBase.ofFile_compiled {source : String} {record : KnowledgeRecord}
    (compiles : Script.compile source = .ok record) (held : source.length < Nat.pow 2 63) :
    KnowledgeRecord.ofCompiled? record.compiled = some record ∧
      ∃ kb, ofText source = .ok kb ∧ ofFile "ron" record.compiled = .ok kb ∧
        ∀ extension, extension ≠ "ron" → ofFile extension source = .ok kb := by
  have back := KnowledgeRecord.ofCompiled?_compiled (Script.line_lt_of_compile compiles held)
  obtain ⟨-, flawless⟩ := Script.compile_eq_ok_iff.mp compiles
  obtain ⟨kb, made⟩ := exists_ofRecord flawless
  have loaded : ofText source = .ok kb := by rw [ofText, compiles]; exact made
  refine ⟨back, kb, loaded, ?_, ?_⟩
  · rw [ofFile, if_pos rfl, back]
    simp [made, Except.mapError]
  · intro extension other
    rw [ofFile, if_neg other, loaded]
    rfl

/-- A text with quotes, a backslash, a line end, letters of other alphabets and a character that does not show. -/
def KnowledgeBase.foreignText : String :=
  "name \"déjà\\\\vu\"; type o; predicate at(o);\nrule x/1 :: at(o) -> => \"say \\\"\u200b\x7bo\x7d\\n'\\\"\";"

def KnowledgeBase.foreignStatements : List Script.Statement :=
  [.name "déjà\\vu", .type ⟨"o", []⟩, .predicate ⟨"at", ["o"]⟩,
    .rule ⟨false, "x/1", [⟨false, ⟨"at", [⟨"o", "o"⟩]⟩⟩], [], some "say \"\u200b\x7bo\x7d\n'\"", 2⟩]

theorem KnowledgeBase.ofFile_compiled_foreign :
    ∃ record, Script.compile foreignText = .ok record ∧ foreignText.length < Nat.pow 2 63 ∧
      KnowledgeRecord.ofCompiled? record.compiled = some record ∧
      ∃ kb, ofText foreignText = .ok kb ∧ ofFile "ron" record.compiled = .ok kb ∧
        ofFile "twl" foreignText = .ok kb := by
  have read : Script.read? foreignText = some foreignStatements := by decide +kernel
  have compiles : Script.compile foreignText = .ok (Script.declared foreignStatements) :=
    Script.compile_eq_ok_iff.mpr ⟨⟨foreignStatements, read, rfl⟩, by decide +kernel⟩
  have held : foreignText.length < Nat.pow 2 63 := by decide +kernel
  obtain ⟨back, kb, fromText, fromCompiled, fromOther⟩ := ofFile_compiled compiles held
  exact ⟨_, compiles, held, back, kb, fromText, fromCompiled, fromOther "twl" (by decide)⟩

end Adventure
