import Adventure.Script.Text
import Adventure.Proofs.Script.Phrases

namespace Adventure.Script

def observeTokens (observational : Bool) : List Token := if observational then [.word "observe"] else []

def commandTokens : Option String → List Token
  | none => []
  | some text => [.mark "=>", .quoted text]

/-- The tokens of a statement. -/
inductive StatementTokens : Statement → List Token → Prop
  | name {id : String} : StatementTokens (.name id) [.word "name", .quoted id, .mark ";"]
  | type {name : String} :
      IsWord name.toList → StatementTokens (.type ⟨name, []⟩) [.word "type", .word name, .mark ";"]
  | subtype {name : String} {parents : List String} {tokens : List Token} :
      IsWord name.toList → ListTokens "," IdentifierTokens parents tokens →
      StatementTokens (.type ⟨name, parents⟩)
        (.word "type" :: .word name :: .mark ":" :: (tokens ++ [.mark ";"]))
  | predicate {name : String} {types : List String} {tokens : List Token} :
      IsWord name.toList → OptionalTokens (ListTokens "," IdentifierTokens) types tokens →
      StatementTokens (.predicate ⟨name, types⟩)
        (.word "predicate" :: .word name :: .mark "(" :: (tokens ++ [.mark ")", .mark ";"]))
  | rule {written : RuleStatement} {before after : List Token} :
      IsRuleName written.name.toList →
      OptionalTokens (ListTokens "&" LiteralTokens) written.before before →
      OptionalTokens (ListTokens "&" LiteralTokens) written.after after →
      StatementTokens (.rule written)
        (observeTokens written.observational ++ .word "rule" :: .word written.name :: .mark "::" ::
          (before ++ .mark "->" :: (after ++ (commandTokens written.command ++ [.mark ";"]))))
  | constraint {id : String} {literals : List Literal} {tokens : List Token} :
      IsRuleName id.toList → ListTokens "&" LiteralTokens literals tokens →
      StatementTokens (.constraint id literals)
        (.word "constraint" :: .word id :: .mark "::" :: (tokens ++ [.mark ";"]))
  | inverse {rule inverse : String} :
      IsRuleName rule.toList → IsRuleName inverse.toList →
      StatementTokens (.inverse ⟨rule, inverse⟩)
        [.word "inverse", .word rule, .mark "::", .word inverse, .mark ";"]
  | hint {type text : String} :
      IsWord type.toList →
      StatementTokens (.hint ⟨type, text⟩) [.word "hint", .word type, .quoted text, .mark ";"]

/-- The line of a rule is that of its first token, where `chars` begins in the source. -/
def Statement.Placed (source chars : List Char) : Statement → Prop
  | .rule written => ∃ above, source = above ++ chars ∧ written.line = above.count '\n' + 1
  | _ => True

/-- The characters at the end of the source write the statements. -/
inductive Writes (source : List Char) : List Statement → List Char → Prop
  | done {chars : List Char} : Ending chars → Writes source [] chars
  | cons {statement : Statement} {statements : List Statement} {tokens : List Token} {gap chars rest : List Char} :
      Gap gap → bare chars → StatementTokens statement tokens → Layout tokens chars rest →
      statement.Placed source chars → Writes source statements rest →
      Writes source (statement :: statements) (gap ++ chars)

section

variable {chars rest : List Char}

/-- A side of a rule ends at an arrow or with the rule. -/
theorem side_reads {literals : List Literal} {tokens : List Token} {c : Char}
    (written : OptionalTokens (ListTokens "&" LiteralTokens) literals tokens) (laid : Layout tokens chars rest)
    (start : upcoming rest = some c) (ends : c = '-' ∨ c = '=' ∨ c = ';') :
    ∃ read, maybe (next conjunction) chars = some (read, rest) ∧ read.getD [] = literals := by
  obtain ⟨noDollar, noAnd, noWord⟩ : c ≠ '$' ∧ c ≠ '&' ∧ isWordStart c = false := by
    rcases ends with rfl | rfl | rfl <;> decide
  refine reads_conjunction.optional written laid ⟨trivial, ?_⟩ (separated_fails (literal_fails ?_ ?_))
  · simp [start, noAnd]
  · simp [start, noDollar]
  · simp [start, noWord]

theorem command_reads {command : Option String} (laid : Layout (commandTokens command) chars rest)
    (start : upcoming rest = some ';') :
    maybe (do mark "=>"; next quoted) chars = some (command, rest) := by
  cases command with
  | none =>
    cases laid
    exact maybe_fails (bind_fails (mark_fails (by rw [start]; decide) rfl))
  | some text =>
    obtain ⟨_, arrow, text⟩ := laid.cons
    exact maybe_reads ((bind_reads (arrow.reads_mark rfl)).trans text.reads_quoted)

theorem command_start {command : Option String} (laid : Layout (commandTokens command ++ [.mark ";"]) chars rest) :
    ∃ c, (c = '-' ∨ c = '=' ∨ c = ';') ∧ upcoming chars = some c := by
  cases command with
  | none => exact ⟨';', .inr (.inr rfl), laid.upcoming rfl rfl⟩
  | some text => exact ⟨'=', .inr (.inl rfl), laid.upcoming rfl rfl⟩

theorem nameStatement_reads {id : String} (laid : Layout [.word "name", .quoted id, .mark ";"] chars rest) :
    next nameStatement chars = some (.name id, rest) := by
  obtain ⟨_, word, laid⟩ := laid.cons
  obtain ⟨_, id, last⟩ := laid.cons
  rw [nameStatement, next_bind_reads (word.reads_keyword rfl), bind_reads id.reads_quoted,
    bind_reads (last.reads_mark rfl)]
  rfl

theorem typeStatement_reads {name : String} (fits : IsWord name.toList)
    (laid : Layout [.word "type", .word name, .mark ";"] chars rest) :
    next typeStatement chars = some (.type ⟨name, []⟩, rest) := by
  obtain ⟨_, word, laid⟩ := laid.cons
  obtain ⟨named, name, last⟩ := laid.cons
  have start : upcoming named = some ';' := last.upcoming rfl rfl
  have childless : (do mark ":"; next typeList) named = none := bind_fails (mark_fails (by rw [start]; decide) rfl)
  rw [typeStatement, next_bind_reads (word.reads_keyword rfl), bind_reads (name.reads_identifier fits),
    bind_reads (maybe_fails childless), bind_reads (last.reads_mark rfl)]
  rfl

theorem subtypeStatement_reads {name : String} {parents : List String} {tokens : List Token}
    (fits : IsWord name.toList) (listed : ListTokens "," IdentifierTokens parents tokens)
    (laid : Layout (.word "type" :: .word name :: .mark ":" :: (tokens ++ [.mark ";"])) chars rest) :
    next typeStatement chars = some (.type ⟨name, parents⟩, rest) := by
  obtain ⟨_, word, laid⟩ := laid.cons
  obtain ⟨_, name, laid⟩ := laid.cons
  obtain ⟨_, colon, laid⟩ := laid.cons
  obtain ⟨ended, types, last⟩ := laid.append
  have start : upcoming ended = some ';' := last.upcoming rfl rfl
  have types := reads_typeList listed types (by rw [start]; decide)
  have parents := (bind_reads (f := fun _ => next typeList) (colon.reads_mark rfl)).trans types
  rw [typeStatement, next_bind_reads (word.reads_keyword rfl), bind_reads (name.reads_identifier fits),
    bind_reads (maybe_reads parents), bind_reads (last.reads_mark rfl)]
  rfl

theorem predicateStatement_reads {name : String} {types : List String} {tokens : List Token}
    (fits : IsWord name.toList) (listed : OptionalTokens (ListTokens "," IdentifierTokens) types tokens)
    (laid : Layout (.word "predicate" :: .word name :: .mark "(" :: (tokens ++ [.mark ")", .mark ";"])) chars rest) :
    next predicateStatement chars = some (.predicate ⟨name, types⟩, rest) := by
  obtain ⟨_, word, laid⟩ := laid.cons
  obtain ⟨_, name, laid⟩ := laid.cons
  obtain ⟨_, opening, laid⟩ := laid.cons
  obtain ⟨closed, inside, laid⟩ := laid.append
  have start : upcoming closed = some ')' := laid.upcoming rfl rfl
  have absent : next typeList closed = none := separated_fails (identifier_fails (by rw [start]; rfl))
  obtain ⟨read, reading, shown⟩ := reads_typeList.optional listed inside (by rw [start]; decide) absent
  obtain ⟨_, closing, last⟩ := laid.cons
  rw [predicateStatement, next_bind_reads (word.reads_keyword rfl), bind_reads (name.reads_identifier fits),
    bind_reads (opening.reads_mark rfl), bind_reads reading, bind_reads (closing.reads_mark rfl),
    bind_reads (last.reads_mark rfl), shown]
  rfl

theorem constraintStatement_reads {id : String} {literals : List Literal} {tokens : List Token}
    (fits : IsRuleName id.toList) (listed : ListTokens "&" LiteralTokens literals tokens)
    (laid : Layout (.word "constraint" :: .word id :: .mark "::" :: (tokens ++ [.mark ";"])) chars rest) :
    next constraintStatement chars = some (.constraint id literals, rest) := by
  obtain ⟨_, word, laid⟩ := laid.cons
  obtain ⟨_, id, laid⟩ := laid.cons
  obtain ⟨_, colons, laid⟩ := laid.cons
  obtain ⟨ended, inside, last⟩ := laid.append
  have start : upcoming ended = some ';' := last.upcoming rfl rfl
  have literals := reads_conjunction listed inside (by rw [start]; decide)
  rw [constraintStatement, next_bind_reads (word.reads_keyword rfl), bind_reads (id.reads_ruleName fits),
    bind_reads (colons.reads_mark rfl), bind_reads literals, bind_reads (last.reads_mark rfl)]
  rfl

theorem inverseStatement_reads {rule inverse : String} (fits : IsRuleName rule.toList)
    (fitsInverse : IsRuleName inverse.toList)
    (laid : Layout [.word "inverse", .word rule, .mark "::", .word inverse, .mark ";"] chars rest) :
    next inverseStatement chars = some (.inverse ⟨rule, inverse⟩, rest) := by
  obtain ⟨_, word, laid⟩ := laid.cons
  obtain ⟨_, rule, laid⟩ := laid.cons
  obtain ⟨_, colons, laid⟩ := laid.cons
  obtain ⟨_, inverse, last⟩ := laid.cons
  rw [inverseStatement, next_bind_reads (word.reads_keyword rfl), bind_reads (rule.reads_ruleName fits),
    bind_reads (colons.reads_mark rfl), bind_reads (inverse.reads_ruleName fitsInverse),
    bind_reads (last.reads_mark rfl)]
  rfl

theorem hintStatement_reads {type text : String} (fits : IsWord type.toList)
    (laid : Layout [.word "hint", .word type, .quoted text, .mark ";"] chars rest) :
    next hintStatement chars = some (.hint ⟨type, text⟩, rest) := by
  obtain ⟨_, word, laid⟩ := laid.cons
  obtain ⟨_, type, laid⟩ := laid.cons
  obtain ⟨_, text, last⟩ := laid.cons
  rw [hintStatement, next_bind_reads (word.reads_keyword rfl), bind_reads (type.reads_identifier fits),
    bind_reads text.reads_quoted, bind_reads (last.reads_mark rfl)]
  rfl

/-- A rule that stands on the line, from the keyword on that every rule has. -/
def unmarkedRule (line : Nat) (observational : Option Unit) : Reader Statement := do
  next (keyword "rule")
  let name ← next ruleName
  mark "::"
  let before ← maybe (next conjunction)
  mark "->"
  let after ← maybe (next conjunction)
  let command ← maybe do
    mark "=>"
    next quoted
  mark ";"
  return .rule ⟨observational.isSome, name, before.getD [], after.getD [], command, line⟩

theorem ruleStatement_eq (lines : Nat) (chars : List Char) :
    ruleStatement lines chars =
      (maybe (keyword "observe") >>= unmarkedRule (lines - newlines chars + 1)) chars := by
  have got : (get : Reader (List Char)) chars = some (chars, chars) := rfl
  rw [ruleStatement, bind_reads got]
  unfold unmarkedRule
  rfl

theorem unmarkedRule_reads {written : RuleStatement} {before after : List Token} {observational : Option Unit}
    (fits : IsRuleName written.name.toList)
    (writtenBefore : OptionalTokens (ListTokens "&" LiteralTokens) written.before before)
    (writtenAfter : OptionalTokens (ListTokens "&" LiteralTokens) written.after after)
    (observed : observational.isSome = written.observational)
    (laid : Layout (.word "rule" :: .word written.name :: .mark "::" ::
      (before ++ .mark "->" :: (after ++ (commandTokens written.command ++ [.mark ";"])))) chars rest) :
    unmarkedRule written.line observational chars = some (.rule written, rest) := by
  obtain ⟨_, word, laid⟩ := laid.cons
  obtain ⟨_, name, laid⟩ := laid.cons
  obtain ⟨_, colons, laid⟩ := laid.cons
  obtain ⟨_, insideBefore, laid⟩ := laid.append
  obtain ⟨readBefore, readingBefore, shownBefore⟩ :=
    side_reads writtenBefore insideBefore (laid.upcoming rfl rfl) (.inl rfl)
  obtain ⟨_, arrow, laid⟩ := laid.cons
  obtain ⟨_, insideAfter, laid⟩ := laid.append
  obtain ⟨c, ends, start⟩ := command_start laid
  obtain ⟨readAfter, readingAfter, shownAfter⟩ := side_reads writtenAfter insideAfter start ends
  obtain ⟨_, command, last⟩ := laid.append
  have command := command_reads command (last.upcoming rfl rfl)
  rw [unmarkedRule, bind_reads (word.reads_keyword rfl), bind_reads (name.reads_ruleName fits),
    bind_reads (colons.reads_mark rfl), bind_reads readingBefore, bind_reads (arrow.reads_mark rfl),
    bind_reads readingAfter, bind_reads command, bind_reads (last.reads_mark rfl), shownBefore, shownAfter, observed]
  rfl

theorem ruleStatement_reads {written : RuleStatement} {before after : List Token} {lines : Nat}
    (fits : IsRuleName written.name.toList)
    (writtenBefore : OptionalTokens (ListTokens "&" LiteralTokens) written.before before)
    (writtenAfter : OptionalTokens (ListTokens "&" LiteralTokens) written.after after)
    (line : written.line = lines - newlines (skipFrom false chars) + 1)
    (laid : Layout (observeTokens written.observational ++ .word "rule" :: .word written.name :: .mark "::" ::
      (before ++ .mark "->" :: (after ++ (commandTokens written.command ++ [.mark ";"])))) chars rest) :
    next (ruleStatement lines) chars = some (.rule written, rest) := by
  -- the line is counted where the first keyword stands, after the blanks
  change ruleStatement lines (skipFrom false chars) = _
  rw [ruleStatement_eq, ← line]
  change next (maybe (keyword "observe") >>= unmarkedRule written.line) chars = _
  cases observed : written.observational with
  | false =>
    rw [observed] at laid
    have start : upcoming chars = some 'r' := laid.upcoming rfl rfl
    have plain : next (keyword "observe") chars = none := keyword_fails (by rw [start]; decide) rfl
    rw [next_bind_reads (next_maybe_fails plain)]
    exact unmarkedRule_reads fits writtenBefore writtenAfter observed.symm (laid.skipped rfl rfl)
  | true =>
    rw [observed] at laid
    obtain ⟨_, observe, laid⟩ := laid.cons
    rw [next_bind_reads (next_maybe_reads (observe.reads_keyword rfl))]
    exact unmarkedRule_reads fits writtenBefore writtenAfter observed.symm laid

theorem ruleStatement_fails {lines : Nat} (noObserve : upcoming chars ≠ some 'o') (noRule : upcoming chars ≠ some 'r') :
    next (ruleStatement lines) chars = none := by
  have plain : next (keyword "observe") chars = none := keyword_fails noObserve rfl
  have failed : next (keyword "rule") (skipFrom false chars) = none := by
    rw [next_skipFrom]
    exact keyword_fails noRule rfl
  change ruleStatement lines (skipFrom false chars) = _
  rw [ruleStatement_eq]
  change next (maybe (keyword "observe") >>= unmarkedRule _) chars = _
  rw [next_bind_reads (next_maybe_fails plain)]
  exact bind_fails failed

/-- The reader for statements with the first letter. -/
def statementFrom (lines : Nat) : Option Char → Reader Statement
  | some 'n' => nameStatement
  | some 't' => typeStatement
  | some 'p' => predicateStatement
  | some 'o' => ruleStatement lines
  | some 'r' => ruleStatement lines
  | some 'c' => constraintStatement
  | some 'i' => inverseStatement
  | some 'h' => hintStatement
  | _ => failure

/-- No two kinds of statements begin with the same letter, so the first letter tells which reader can succeed. -/
theorem next_statement (lines : Nat) (chars : List Char) :
    next (statement lines) chars = next (statementFrom lines (upcoming chars)) chars := by
  have name (other : upcoming chars ≠ some 'n') : next nameStatement chars = none :=
    next_bind_fails (keyword_fails other rfl)
  have type (other : upcoming chars ≠ some 't') : next typeStatement chars = none :=
    next_bind_fails (keyword_fails other rfl)
  have predicate (other : upcoming chars ≠ some 'p') : next predicateStatement chars = none :=
    next_bind_fails (keyword_fails other rfl)
  have constraint (other : upcoming chars ≠ some 'c') : next constraintStatement chars = none :=
    next_bind_fails (keyword_fails other rfl)
  have inverse (other : upcoming chars ≠ some 'i') : next inverseStatement chars = none :=
    next_bind_fails (keyword_fails other rfl)
  have hint (other : upcoming chars ≠ some 'h') : next hintStatement chars = none :=
    next_bind_fails (keyword_fails other rfl)
  have rule (noObserve : upcoming chars ≠ some 'o') (noRule : upcoming chars ≠ some 'r') :
      next (ruleStatement lines) chars = none :=
    ruleStatement_fails noObserve noRule
  unfold statement statementFrom
  simp only [next_orElse]
  generalize upcoming chars = start at *
  split <;> simp (disch := first | decide | assumption) only [name, type, predicate, constraint, inverse, hint, rule,
    Option.none_or, Option.or_none]
  rfl

theorem StatementTokens.front {statement : Statement} {tokens : List Token}
    (written : StatementTokens statement tokens) :
    ∃ keyword others, tokens = .word keyword :: others ∧ bare keyword.toList := by
  cases written with
  | @rule written =>
    cases written.observational with
    | false => exact ⟨_, _, rfl, rfl⟩
    | true => exact ⟨_, _, rfl, rfl⟩
  | _ => exact ⟨_, _, rfl, rfl⟩

/-- Every layout of a statement is read. A rule has the line that the line ends before it tell. -/
theorem statement_reads {statement : Statement} {tokens : List Token} {lines : Nat}
    (written : StatementTokens statement tokens)
    (line : ∀ rule, statement = .rule rule → rule.line = lines - newlines (skipFrom false chars) + 1)
    (laid : Layout tokens chars rest) : next (Script.statement lines) chars = some (statement, rest) := by
  rw [next_statement]
  cases written with
  | name =>
    rw [(laid.upcoming rfl rfl : upcoming chars = some 'n')]
    exact nameStatement_reads laid
  | type fits =>
    rw [(laid.upcoming rfl rfl : upcoming chars = some 't')]
    exact typeStatement_reads fits laid
  | subtype fits listed =>
    rw [(laid.upcoming rfl rfl : upcoming chars = some 't')]
    exact subtypeStatement_reads fits listed laid
  | predicate fits listed =>
    rw [(laid.upcoming rfl rfl : upcoming chars = some 'p')]
    exact predicateStatement_reads fits listed laid
  | @rule written _ _ fits before after =>
    have read := ruleStatement_reads fits before after (line written rfl) laid
    cases observed : written.observational with
    | false =>
      rw [observed] at laid
      rw [(laid.upcoming rfl rfl : upcoming chars = some 'r')]
      exact read
    | true =>
      rw [observed] at laid
      rw [(laid.upcoming rfl rfl : upcoming chars = some 'o')]
      exact read
  | constraint fits listed =>
    rw [(laid.upcoming rfl rfl : upcoming chars = some 'c')]
    exact constraintStatement_reads fits listed laid
  | inverse fits fitsInverse =>
    rw [(laid.upcoming rfl rfl : upcoming chars = some 'i')]
    exact inverseStatement_reads fits fitsInverse laid
  | hint fits =>
    rw [(laid.upcoming rfl rfl : upcoming chars = some 'h')]
    exact hintStatement_reads fits laid

end

/-- The statements are read one after another, and then the text ends. -/
theorem Writes.run {source chars : List Char} {statements : List Statement} (writes : Writes source statements chars) :
    ∃ rest, Run (next (statement (newlines source))) chars statements rest ∧ Ending rest := by
  induction writes with
  | done ending => exact ⟨_, .done, ending⟩
  | @cons statement statements tokens gap chars rest blank front written laid placed _ ih =>
    obtain ⟨last, run, ending⟩ := ih
    refine ⟨last, .step ?_ ?_ run, ending⟩
    · change Script.statement (newlines source) (skipFrom false (gap ++ chars)) = _
      rw [blank.skipFrom]
      refine statement_reads written ?_ laid
      rintro rule rfl
      obtain ⟨above, rfl, line⟩ := placed
      rw [skipFrom_of_bare front, line]
      simp [newlines]
    · obtain ⟨keyword, others, rfl, visible⟩ := written.front
      have shorter := laid.length_lt rfl visible
      simp only [List.length_append]
      omega

theorem statement_fails {chars : List Char} {lines : Nat} (ending : Ending chars) :
    next (statement lines) chars = none := by
  have start : upcoming chars = none := by rw [upcoming, ending.skipFrom]; rfl
  rw [next_statement, start]
  rfl

theorem read?_of_writes {source : String} {statements : List Statement}
    (writes : Writes source.toList statements source.toList) : read? source = some statements := by
  obtain ⟨rest, run, ending⟩ := writes.run
  simp [read?, many_reads run (statement_fails ending), ending.skipFrom]

def Statement.name? : Statement → Option String
  | .name id => some id
  | _ => none

def Statement.type? : Statement → Option TypeDeclaration
  | .type declared => some declared
  | _ => none

def Statement.predicate? : Statement → Option Signature
  | .predicate declared => some declared
  | _ => none

/-- The rule of a statement. A preserved literal stands on both sides. -/
def Statement.rule? : Statement → Option RuleDeclaration
  | .rule written => some
    { rule :=
        { name := written.name
          before := written.before.map Literal.pattern ++
            (written.after.filter Literal.preserved).map Literal.pattern
          after := (written.before.filter Literal.preserved).map Literal.pattern ++
            written.after.map Literal.pattern
          template := written.command
          observational := written.observational }
      line := some written.line }
  | _ => none

def Statement.constraint? : Statement → Option Constraint
  | .constraint id literals => some ⟨id, literals.map Literal.pattern⟩
  | _ => none

def Statement.inverse? : Statement → Option InversePair
  | .inverse pair => some pair
  | _ => none

def Statement.hint? : Statement → Option Hint
  | .hint given => some given
  | _ => none

/-- What statements declare, kind by kind: the last of the names, and all the rest in order. -/
def declared (statements : List Statement) : KnowledgeRecord where
  id := (statements.filterMap Statement.name?).getLast?.getD ""
  types := statements.filterMap Statement.type?
  predicates := statements.filterMap Statement.predicate?
  rules := statements.filterMap Statement.rule?
  constraints := statements.filterMap Statement.constraint?
  inverses := statements.filterMap Statement.inverse?
  hints := statements.filterMap Statement.hint?

theorem foldl_declare (record : KnowledgeRecord) (statements : List Statement) :
    statements.foldl Statement.declare record =
      { id := (statements.filterMap Statement.name?).getLast?.getD record.id
        types := record.types ++ (declared statements).types
        predicates := record.predicates ++ (declared statements).predicates
        rules := record.rules ++ (declared statements).rules
        constraints := record.constraints ++ (declared statements).constraints
        inverses := record.inverses ++ (declared statements).inverses
        hints := record.hints ++ (declared statements).hints } := by
  induction statements generalizing record with
  | nil => simp [declared]
  | cons statement statements ih =>
    rw [List.foldl_cons, ih]
    cases statement <;>
      simp [declared, Statement.declare, Statement.name?, Statement.type?, Statement.predicate?, Statement.rule?,
        Statement.constraint?, Statement.inverse?, Statement.hint?, List.filterMap_cons, List.getLast?_cons,
        RuleStatement.declaration, preservedPatterns]

theorem declarations_eq (statements : List Statement) : declarations statements = declared statements := by
  rw [declarations, foldl_declare]
  simp [KnowledgeRecord.empty, declared]

/-- A text that writes statements, however it is laid out, is read as what they declare. -/
theorem parse_of_writes {source : String} {statements : List Statement}
    (writes : Writes source.toList statements source.toList) : parse source = .ok (declared statements) := by
  rw [parse, read?_of_writes writes]
  simp only [declarations_eq]

/-- A text with few blanks, with keywords as names and a rule on its third line. -/
def crampedText : String :=
  "# rules\nname\"a#\\\"b\"; type type-1:name;\nobserve\trule go/rule::$at(P,r':r-1)->=>\"go\";#end"

def crampedRule : RuleStatement where
  observational := true
  name := "go/rule"
  before := [⟨true, ⟨"at", [⟨"P", "P"⟩, ⟨"r'", "r-1"⟩]⟩⟩]
  after := []
  command := some "go"
  line := 3

def crampedStatements : List Statement :=
  [.name "a#\"b", .type ⟨"type-1", ["name"]⟩, .rule crampedRule]

theorem cramped_name (rest : List Char) :
    Layout [.word "name", .quoted "a#\"b", .mark ";"] ("name\"a#\\\"b\";".toList ++ rest) rest :=
  .token .nil .word rfl <|
  .token .nil (@Token.Written.quoted "a#\"b" _ (.plain (c := 'a') (by decide) (by decide)
    (.plain (c := '#') (by decide) (by decide) (.quote (.plain (c := 'b') (by decide) (by decide) .nil))))) trivial <|
  .token .nil .mark trivial .done

theorem cramped_type (rest : List Char) :
    Layout [.word "type", .word "type-1", .mark ":", .word "name", .mark ";"]
      ("type type-1:name;".toList ++ rest) rest :=
  .token .nil .word rfl <| .token (.blank (c := ' ') (by decide) .nil) .word rfl <| .token .nil .mark trivial <|
  .token .nil .word rfl <| .token .nil .mark trivial .done

theorem cramped_rule (rest : List Char) :
    Layout [.word "observe", .word "rule", .word "go/rule", .mark "::", .mark "$", .word "at", .mark "(", .word "P",
      .mark ",", .word "r'", .mark ":", .word "r-1", .mark ")", .mark "->", .mark "=>", .quoted "go", .mark ";"]
      ("observe\trule go/rule::$at(P,r':r-1)->=>\"go\";".toList ++ rest) rest :=
  .token .nil .word rfl <| .token (.blank (c := '\t') (by decide) .nil) .word rfl <|
  .token (.blank (c := ' ') (by decide) .nil) .word rfl <| .token .nil .mark trivial <| .token .nil .mark trivial <|
  .token .nil .word rfl <| .token .nil .mark trivial <| .token .nil .word rfl <| .token .nil .mark trivial <|
  .token .nil .word rfl <| .token .nil .mark trivial <| .token .nil .word rfl <| .token .nil .mark trivial <|
  .token .nil .mark trivial <| .token .nil .mark trivial <|
  .token .nil (@Token.Written.quoted "go" _
    (.plain (c := 'g') (by decide) (by decide) (.plain (c := 'o') (by decide) (by decide) .nil))) trivial <|
  .token .nil .mark trivial .done

theorem cramped_parameters : ListTokens "," PlaceholderTokens [⟨"P", "P"⟩, ⟨"r'", "r-1"⟩]
    [.word "P", .mark ",", .word "r'", .mark ":", .word "r-1"] :=
  .more (@PlaceholderTokens.untyped ['P'] 0 (by decide) (List.forall_mem_singleton.mpr (.inl rfl)))
    (.one (@PlaceholderTokens.typed ['r'] 1 "r-1" (by decide) (List.forall_mem_singleton.mpr (.inl rfl)) (by decide)))

theorem cramped_literal : LiteralTokens ⟨true, ⟨"at", [⟨"P", "P"⟩, ⟨"r'", "r-1"⟩]⟩⟩
    [.mark "$", .word "at", .mark "(", .word "P", .mark ",", .word "r'", .mark ":", .word "r-1", .mark ")"] :=
  have fits : IsWord "at".toList := by decide
  .preserved (@LiteralTokens.plain ⟨"at", _⟩ _ fits (.inr cramped_parameters))

theorem crampedText_writes : Writes crampedText.toList crampedStatements crampedText.toList := by
  have shape : crampedText.toList = "# rules\n".toList ++ ("name\"a#\\\"b\";".toList ++ (" ".toList ++
      ("type type-1:name;".toList ++ ("\n".toList ++ ("observe\trule go/rule::$at(P,r':r-1)->=>\"go\";".toList ++
        "#end".toList))))) := by decide
  have type : IsWord "type-1".toList := by decide
  have parent : IsWord "name".toList := by decide
  have rule : IsRuleName "go/rule".toList :=
    ⟨"go".toList, ["rule".toList], by decide, List.forall_mem_singleton.mpr (by decide), rfl⟩
  rw [shape]
  refine .cons (.comment (by decide : '\n' ∉ " rules".toList) .nil) rfl .name (cramped_name _) trivial ?_
  refine .cons (.blank (c := ' ') (by decide) .nil) rfl (.subtype type (.one ⟨parent, rfl⟩)) (cramped_type _) trivial ?_
  refine .cons (.blank (c := '\n') (by decide) .nil) rfl (.rule rule (.inr (.one cramped_literal)) (.inl ⟨rfl, rfl⟩))
    (cramped_rule _) ⟨"# rules\nname\"a#\\\"b\"; type type-1:name;\n".toList, by decide, by decide⟩ ?_
  exact .done (.comment .nil (by decide : '\n' ∉ "end".toList))

theorem parse_of_writes_cramped :
    Writes crampedText.toList crampedStatements crampedText.toList ∧
      parse crampedText = .ok
        { id := "a#\"b"
          types := [⟨"type-1", ["name"]⟩]
          predicates := []
          rules := [⟨{ name := "go/rule"
                       before := [⟨"at", [⟨"P", "P"⟩, ⟨"r'", "r-1"⟩]⟩]
                       after := [⟨"at", [⟨"P", "P"⟩, ⟨"r'", "r-1"⟩]⟩]
                       template := some "go"
                       observational := true }, some 3⟩]
          constraints := []
          inverses := []
          hints := [] } :=
  ⟨crampedText_writes, parse_of_writes crampedText_writes⟩

end Adventure.Script
