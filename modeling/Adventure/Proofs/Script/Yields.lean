import Adventure.Proofs.Matching.Enumeration
import Adventure.Proofs.Script.Completeness

namespace Adventure.Script

section

variable {α β : Type} {p q : Reader α} {P : α → Prop} {Q : β → Prop}

/-- Whatever is read has a property. -/
def Yields (p : Reader α) (P : α → Prop) : Prop := ∀ ⦃chars value rest⦄, p chars = some (value, rest) → P value

theorem Yields.bind {f : α → Reader β} (first : Yields p P) (later : ∀ value, P value → Yields (f value) Q) :
    Yields (p >>= f) Q := by
  intro chars value rest read
  cases begun : p chars with
  | none =>
    rw [bind_fails begun] at read
    cases read
  | some found =>
    rw [bind_reads begun] at read
    exact later found.1 (first begun) read

/-- What comes of a reader that goes on after another, whatever that one read. -/
theorem Yields.after {f : α → Reader β} (later : ∀ value, Yields (f value) Q) : Yields (p >>= f) Q :=
  .bind (P := fun _ => True) (fun _ _ _ _ => trivial) fun value _ => later value

theorem Yields.pure {value : α} (holds : P value) : Yields (pure value) P := by
  intro chars found rest read
  cases read
  exact holds

theorem Yields.orElse (first : Yields p P) (second : Yields q P) : Yields (p <|> q) P := by
  intro chars value rest read
  change (p chars <|> q chars) = _ at read
  cases begun : p chars with
  | none =>
    rw [begun] at read
    exact second read
  | some found =>
    rw [begun] at read
    cases read
    exact first begun

theorem Yields.maybe (each : Yields p P) : Yields (maybe p) fun found => ∀ value ∈ found, P value := by
  intro chars found rest read
  cases begun : p chars with
  | none =>
    rw [maybe_fails begun] at read
    cases read
    simp
  | some pair =>
    rw [maybe_reads begun] at read
    cases read
    rintro value ⟨⟩
    exact each begun

theorem Yields.repeated (each : Yields p P) (count : Nat) :
    Yields (repeated p count) fun values => ∀ value ∈ values, P value := by
  induction count with
  | zero => exact .pure (by simp)
  | succ count ih =>
    refine .bind each.maybe fun found holds => ?_
    cases found with
    | none => exact .pure (by simp)
    | some value => exact .bind ih fun values all => .pure (List.forall_mem_cons.mpr ⟨holds value rfl, all⟩)

theorem Yields.many (each : Yields p P) : Yields (many p) fun values => ∀ value ∈ values, P value :=
  .after fun chars => each.repeated chars.length

theorem Yields.next (reads : Yields p P) : Yields (next p) P := .after fun _ => reads

theorem Yields.separated (each : Yields p P) (separator : String) :
    Yields (separated separator p) fun values => ∀ value ∈ values, P value :=
  .bind each fun _ first => .bind (many (.after fun _ => each.next)) fun _ others =>
    .pure (List.forall_mem_cons.mpr ⟨first, others⟩)

end

/-- A name of a placeholder: letters, digits and underscores, then primes. -/
def IsPrimedName (text : List Char) : Prop :=
  ∃ stem primes, text = stem ++ primes ∧ stem ≠ [] ∧ (∀ c ∈ stem, IsNameChar c) ∧ ∀ c ∈ primes, c = '\''

theorem yields_run (q : Char → Bool) : Yields (run q) fun text => ∀ c ∈ text, q c = true := by
  intro chars text rest read c member
  cases read
  exact List.all_eq_true.mp List.all_takeWhile c member

theorem yields_run1 (q : Char → Bool) : Yields (run1 q) fun text => text ≠ [] ∧ ∀ c ∈ text, q c = true := by
  refine .bind (yields_run q) fun text all => ?_
  cases text with
  | nil => exact fun _ _ _ read => nomatch read
  | cons c text => exact .pure ⟨List.cons_ne_nil c text, all⟩

theorem yields_placeholder : Yields placeholder fun p => IsPrimedName p.name.toList := by
  refine .bind (yields_run1 isNameChar) fun stem letters => .bind (yields_run _) fun primes marks => .after fun _ =>
    .pure ⟨stem, primes, String.toList_ofList, letters.1, fun c member => ?_, fun c member => ?_⟩
  · exact isWordStart_iff.mp (letters.2 c member)
  · exact beq_iff_eq.mp (marks c member)

theorem yields_literal : Yields literal fun found => ∀ p ∈ found.pattern.parameters, IsPrimedName p.name.toList := by
  refine .after fun _ => .after fun _ => .after fun _ =>
    .bind (yields_placeholder.separated ",").next.maybe fun parameters named => .after fun _ => .pure ?_
  cases parameters with
  | none => simp
  | some parameters => exact named parameters rfl

/-- The names of the placeholders in some literals. -/
def LiteralsNamed (literals : List Literal) : Prop :=
  ∀ found ∈ literals, ∀ p ∈ found.pattern.parameters, IsPrimedName p.name.toList

theorem yields_side : Yields (maybe (next conjunction)) fun literals => LiteralsNamed (literals.getD []) := by
  intro chars literals rest read
  cases literals with
  | none => simp [LiteralsNamed]
  | some literals => exact (yields_literal.separated "&").next.maybe read literals rfl

/-- The placeholders of a rule that a statement declares have names of placeholders. -/
def Statement.Named (statement : Statement) : Prop :=
  ∀ declared ∈ statement.rule?, ∀ p ∈ declared.rule.placeholders, IsPrimedName p.name.toList

theorem RuleStatement.named {written : RuleStatement} (before : LiteralsNamed written.before)
    (after : LiteralsNamed written.after) : (Statement.rule written).Named := by
  rintro declared ⟨⟩ p listed
  obtain ⟨pattern, member, parameter⟩ := Rule.mem_placeholders.mp listed
  simp only [List.mem_append, List.mem_map, List.mem_filter] at member
  rcases member with (⟨found, inside, rfl⟩ | ⟨found, inside, rfl⟩) | ⟨found, inside, rfl⟩ | ⟨found, inside, rfl⟩
  · exact before found inside p parameter
  · exact after found inside.1 p parameter
  · exact before found inside.1 p parameter
  · exact after found inside p parameter

theorem yields_ruleStatement (lines : Nat) : Yields (ruleStatement lines) Statement.Named :=
  .after fun _ => .after fun _ => .after fun _ => .after fun _ => .after fun _ => .bind yields_side fun _ before =>
    .after fun _ => .bind yields_side fun _ after => .after fun _ => .after fun _ =>
      .pure (RuleStatement.named before after)

/-- Of the statements only rules call for a look at what they are made of. -/
theorem Yields.statement {lines : Nat} {P : Statement → Prop} (rules : Yields (ruleStatement lines) P)
    (others : ∀ statement : Statement, statement.rule? = none → P statement) : Yields (statement lines) P := by
  refine .orElse ?name <| .orElse ?type <| .orElse ?predicate <| .orElse rules <| .orElse ?constraint <|
    .orElse ?inverse ?hint
  case name => exact .after fun _ => .after fun _ => .after fun _ => .pure (others _ rfl)
  case type => exact .after fun _ => .after fun _ => .after fun _ => .after fun _ => .pure (others _ rfl)
  case predicate =>
    exact .after fun _ => .after fun _ => .after fun _ => .after fun _ => .after fun _ => .after fun _ =>
      .pure (others _ rfl)
  case constraint =>
    exact .after fun _ => .after fun _ => .after fun _ => .after fun _ => .after fun _ => .pure (others _ rfl)
  case inverse =>
    exact .after fun _ => .after fun _ => .after fun _ => .after fun _ => .after fun _ => .pure (others _ rfl)
  case hint => exact .after fun _ => .after fun _ => .after fun _ => .after fun _ => .pure (others _ rfl)

/-- The statements of a text are all of a kind if each that can be read is. -/
theorem Yields.read {source : String} {statements : List Statement} {P : Statement → Prop}
    (each : Yields (Script.statement (newlines source.toList)) P) (read : read? source = some statements) :
    ∀ statement ∈ statements, P statement := by
  dsimp only [read?] at read
  split at read
  next found rest taken =>
    split at read
    next =>
      cases read
      exact each.next.many taken
    next => cases read
  next => cases read

/-- The placeholders of the rules in a text have names of letters, digits and underscores, with primes at the end. -/
theorem named_of_read {source : String} {statements : List Statement} (read : read? source = some statements)
    {written : RuleDeclaration} (member : written ∈ (declared statements).rules) {p : Placeholder}
    (listed : p ∈ written.rule.placeholders) : IsPrimedName p.name.toList := by
  have each : Yields (statement (newlines source.toList)) Statement.Named :=
    .statement (yields_ruleStatement _) fun statement none declares found => by
      rw [none] at found
      cases found
  obtain ⟨statement, among, declares⟩ := List.mem_filterMap.mp member
  exact each.read read statement among written declares p listed

end Adventure.Script
