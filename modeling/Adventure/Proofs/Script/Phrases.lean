import Adventure.Proofs.Script.Tokens

namespace Adventure.Script

/-- One or more items with a mark between each two. -/
inductive ListTokens {α : Type} (separator : String) (item : α → List Token → Prop) : List α → List Token → Prop
  | one {value : α} {tokens : List Token} : item value tokens → ListTokens separator item [value] tokens
  | more {value : α} {values : List α} {tokens others : List Token} :
      item value tokens → ListTokens separator item values others →
      ListTokens separator item (value :: values) (tokens ++ .mark separator :: others)

/-- A list that is not written if it is empty. -/
def OptionalTokens {α : Type} (form : List α → List Token → Prop) (values : List α) (tokens : List Token) : Prop :=
  values = [] ∧ tokens = [] ∨ form values tokens

def IdentifierTokens (name : String) (tokens : List Token) : Prop := IsWord name.toList ∧ tokens = [.word name]

/-- The name of a placeholder is a stem with primes; a type that is not written is the stem. -/
inductive PlaceholderTokens : Placeholder → List Token → Prop
  | untyped {stem : List Char} {primes : Nat} :
      stem ≠ [] → (∀ c ∈ stem, IsNameChar c) →
      PlaceholderTokens ⟨String.ofList (stem ++ List.replicate primes '\''), String.ofList stem⟩
        [.word (String.ofList (stem ++ List.replicate primes '\''))]
  | typed {stem : List Char} {primes : Nat} {type : String} :
      stem ≠ [] → (∀ c ∈ stem, IsNameChar c) → IsWord type.toList →
      PlaceholderTokens ⟨String.ofList (stem ++ List.replicate primes '\''), type⟩
        [.word (String.ofList (stem ++ List.replicate primes '\'')), .mark ":", .word type]

inductive LiteralTokens : Literal → List Token → Prop
  | plain {pattern : Pattern} {tokens : List Token} :
      IsWord pattern.predicate.toList →
      OptionalTokens (ListTokens "," PlaceholderTokens) pattern.parameters tokens →
      LiteralTokens ⟨false, pattern⟩ (.word pattern.predicate :: .mark "(" :: (tokens ++ [.mark ")"]))
  | preserved {pattern : Pattern} {tokens : List Token} :
      LiteralTokens ⟨false, pattern⟩ tokens → LiteralTokens ⟨true, pattern⟩ (.mark "$" :: tokens)

section

variable {α β : Type} {p q : Reader α} {value : α} {chars rest : List Char}

theorem next_bind_reads {f : α → Reader β} (read : next p chars = some (value, rest)) :
    next (p >>= f) chars = f value rest :=
  bind_reads (p := p) read

theorem next_bind_fails {f : α → Reader β} (failed : next p chars = none) : next (p >>= f) chars = none :=
  bind_fails (p := p) failed

theorem next_maybe_reads (read : next p chars = some (value, rest)) :
    next (maybe p) chars = some (some value, rest) :=
  maybe_reads (p := p) read

theorem next_maybe_fails (failed : next p chars = none) :
    next (maybe p) chars = some (none, skipFrom false chars) :=
  maybe_fails (p := p) failed

theorem next_orElse : next (p <|> q) chars = (next p chars).or (next q chars) := by
  change (next p chars <|> next q chars) = _
  cases next p chars <;> rfl

theorem next_skipFrom (p : Reader α) (chars : List Char) : next p (skipFrom false chars) = next p chars := by
  change p (skipFrom false (skipFrom false chars)) = p (skipFrom false chars)
  rw [skipFrom_skipFrom]

/-- The reader reads every layout of a form, if the token after it may follow: what could go on with a list or a
placeholder would be taken as well. -/
def Reads (p : Reader α) (form : α → List Token → Prop) (follow : Option Char → Prop) : Prop :=
  ∀ ⦃value tokens chars rest⦄, form value tokens → Layout tokens chars rest → follow (upcoming rest) →
    next p chars = some (value, rest)

variable {separator : String} {form : α → List Token → Prop} {follow : Option Char → Prop}

/-- After the first item, each further one is read together with the mark before it. -/
theorem Reads.run (reads : Reads p form follow) (front : bare separator.toList)
    (between : follow separator.toList.head?) {values : List α} {tokens : List Token}
    (listed : ListTokens separator form values tokens) (laid : Layout (.mark separator :: tokens) chars rest)
    (after : follow (upcoming rest)) : Run (do mark separator; next p) chars values rest := by
  induction listed generalizing chars with
  | one written =>
    obtain ⟨more, separated, item⟩ := laid.cons
    have read := reads written item after
    exact .step ((bind_reads (separated.reads_mark front)).trans read) (laid.length_lt rfl front) .done
  | more written listed ih =>
    obtain ⟨more, separated, laid⟩ := laid.cons
    obtain ⟨left, item, later⟩ := laid.append
    have start := later.upcoming rfl front
    have read := reads written item (start ▸ between)
    have shorter := Nat.lt_of_le_of_lt item.length_le (separated.length_lt rfl front)
    exact .step ((bind_reads (separated.reads_mark front)).trans read) shorter (ih later)

theorem Reads.separated (reads : Reads p form follow) (front : bare separator.toList)
    (between : follow separator.toList.head?) :
    Reads (separated separator p) (ListTokens separator form)
      (fun start => follow start ∧ start ≠ separator.toList.head?) := by
  intro values tokens chars rest listed laid after
  have stop : (do mark separator; next p) rest = none := bind_fails (mark_fails after.2 front)
  cases listed with
  | one written =>
    rw [Script.separated, next_bind_reads (reads written laid after.1), bind_reads (many_reads .done stop)]
    rfl
  | more written listed =>
    obtain ⟨more, item, later⟩ := laid.append
    have start := later.upcoming rfl front
    have others := many_reads (reads.run front between listed later after.1) stop
    rw [Script.separated, next_bind_reads (reads written item (start ▸ between)), bind_reads others]
    rfl

theorem separated_fails (failed : next p chars = none) : next (separated separator p) chars = none :=
  next_bind_fails failed

/-- A list that may be left out is read, and nothing is read for one that is. -/
theorem Reads.optional {p : Reader (List α)} {form : List α → List Token → Prop} (reads : Reads p form follow)
    {values : List α} {tokens : List Token} (written : OptionalTokens form values tokens)
    (laid : Layout tokens chars rest) (after : follow (upcoming rest)) (absent : next p rest = none) :
    ∃ read, maybe (next p) chars = some (read, rest) ∧ read.getD [] = values := by
  rcases written with ⟨rfl, rfl⟩ | written
  · cases laid
    exact ⟨none, maybe_fails absent, rfl⟩
  · exact ⟨some values, maybe_reads (reads written laid after), rfl⟩

end

theorem reads_identifier : Reads identifier IdentifierTokens (fun _ => True) := by
  rintro name tokens chars rest ⟨fits, rfl⟩ laid -
  exact laid.reads_identifier fits

theorem reads_typeList : Reads typeList (ListTokens "," IdentifierTokens) (fun start => True ∧ start ≠ some ',') :=
  reads_identifier.separated rfl trivial

section

variable {chars rest : List Char}

theorem run1_reads {text : List Char} {q : Char → Bool} (some : text ≠ []) (all : ∀ c ∈ text, q c)
    (stop : ∀ c ∈ rest.head?, q c = false) : run1 q (text ++ rest) = .some (text, rest) := by
  rw [run1, bind_reads (run_reads all stop)]
  cases text with
  | nil => exact absurd rfl some
  | cons c more => rfl

theorem placeholder_fails (other : (upcoming chars).any isNameChar = false) : next placeholder chars = none := by
  unfold upcoming at other
  change placeholder (skipFrom false chars) = none
  cases shape : skipFrom false chars with
  | nil => rfl
  | cons c more =>
    rw [shape] at other
    have ended : isNameChar c = false := other
    have nothing : run isNameChar (c :: more) = some ([], c :: more) := by simp [run, ended]
    have failed : run1 isNameChar (c :: more) = none := by
      rw [run1, bind_reads nothing]
      rfl
    exact bind_fails failed

/-- The name of a placeholder is read up to the end of its primes. -/
theorem placeholder_named {stem : List Char} {primes : Nat} (some : stem ≠ []) (fits : ∀ c ∈ stem, IsNameChar c)
    (laid : Layout [.word (String.ofList (stem ++ List.replicate primes '\''))] chars rest) :
    next placeholder chars =
      (do
        let type ← maybe do
          mark ":"
          next identifier
        return ⟨String.ofList (stem ++ List.replicate primes '\''), type.getD (String.ofList stem)⟩ :
          Reader Placeholder) rest := by
  have front : bare (stem ++ List.replicate primes '\'') := by
    cases stem with
    | nil => exact absurd rfl some
    | cons c more => exact bare_of_start (fits c List.mem_cons_self) _
  obtain ⟨skipped, apart⟩ := laid.spelled rfl (by rwa [String.toList_ofList])
  rw [String.toList_ofList, List.append_assoc] at skipped
  have letters : ∀ c ∈ stem, isNameChar c = true := fun c member => isWordStart_iff.mpr (fits c member)
  have stop : ∀ c ∈ (List.replicate primes '\'' ++ rest).head?, isNameChar c = false := by
    cases primes with
    | zero => exact apart.stops fun c name => continuesWord_of_wordChar (Bool.or_eq_true_iff.mpr (.inl name))
    | succ primes =>
      intro c member
      cases member
      decide
  have stopPrimes : ∀ c ∈ rest.head?, (c == '\'') = false :=
    apart.stops (q := (· == '\'')) fun c same => by simp [continuesWord, beq_iff_eq.mp same]
  have prime : ∀ c ∈ List.replicate primes '\'', (c == '\'') = true := fun c member =>
    beq_iff_eq.mpr (List.eq_of_mem_replicate member)
  change placeholder (skipFrom false chars) = _
  rw [skipped, placeholder, bind_reads (run1_reads some letters stop), bind_reads (run_reads prime stopPrimes)]

end

theorem reads_placeholder : Reads placeholder PlaceholderTokens (· ≠ some ':') := by
  intro value tokens chars rest written laid after
  cases written with
  | untyped some fits =>
    have untyped : (do mark ":"; next identifier) rest = none := bind_fails (mark_fails after rfl)
    rw [placeholder_named some fits laid, bind_reads (maybe_fails untyped)]
    rfl
  | typed some fits fitsType =>
    obtain ⟨_, name, laid⟩ := laid.cons
    obtain ⟨_, colon, type⟩ := laid.cons
    have typed := (bind_reads (f := fun _ => next identifier) (colon.reads_mark rfl)).trans
      (type.reads_identifier fitsType)
    rw [placeholder_named some fits name, bind_reads (maybe_reads typed)]
    rfl

theorem reads_placeholders : Reads (separated "," placeholder) (ListTokens "," PlaceholderTokens)
    (fun start => start ≠ some ':' ∧ start ≠ some ',') :=
  reads_placeholder.separated rfl (by decide)

/-- The part of a literal after the dollar sign. -/
def unmarkedLiteral (preserved : Option Unit) : Reader Literal := do
  let predicate ← next identifier
  mark "("
  let parameters ← maybe (next (separated "," placeholder))
  mark ")"
  return ⟨preserved.isSome, ⟨predicate, parameters.getD []⟩⟩

theorem literal_eq : literal = maybe (literally ['$']) >>= unmarkedLiteral := rfl

section

variable {chars rest : List Char}

theorem unmarkedLiteral_reads {pattern : Pattern} {tokens : List Token} (preserved : Option Unit)
    (written : LiteralTokens ⟨false, pattern⟩ tokens) (laid : Layout tokens chars rest) :
    unmarkedLiteral preserved chars = some (⟨preserved.isSome, pattern⟩, rest) := by
  cases written with
  | plain fits parameters =>
    obtain ⟨_, predicate, laid⟩ := laid.cons
    obtain ⟨_, opening, laid⟩ := laid.cons
    obtain ⟨closed, inside, closing⟩ := laid.append
    have start : upcoming closed = some ')' := closing.upcoming rfl rfl
    have absent : next (separated "," placeholder) closed = none :=
      separated_fails (placeholder_fails (by rw [start]; rfl))
    obtain ⟨read, reading, shown⟩ := reads_placeholders.optional parameters inside (by rw [start]; decide) absent
    rw [unmarkedLiteral, bind_reads (predicate.reads_identifier fits), bind_reads (opening.reads_mark rfl),
      bind_reads reading, bind_reads (closing.reads_mark rfl), shown]
    rfl

theorem dollar_fails (other : upcoming chars ≠ some '$') : next (literally ['$']) chars = none :=
  literally_fails other

theorem reads_literal : Reads literal LiteralTokens (fun _ => True) := by
  rintro value tokens chars rest written laid -
  cases written with
  | plain fits parameters =>
    have other : upcoming chars ≠ some '$' := by
      rw [laid.upcoming rfl fits.bare]
      exact fits.head?_ne (by decide)
    rw [literal_eq, next_bind_reads (next_maybe_fails (dollar_fails other))]
    exact unmarkedLiteral_reads none (.plain fits parameters) (laid.skipped rfl fits.bare)
  | preserved written =>
    obtain ⟨more, dollar, laid⟩ := laid.cons
    have marked : next (literally ['$']) chars = some ((), more) := dollar.reads_mark rfl
    rw [literal_eq, next_bind_reads (next_maybe_reads marked)]
    exact unmarkedLiteral_reads (some ()) written laid

theorem literal_fails (other : upcoming chars ≠ some '$') (noWord : (upcoming chars).any isWordStart = false) :
    next literal chars = none := by
  have failed : next identifier (skipFrom false chars) = none := by
    rw [next_skipFrom]
    exact identifier_fails noWord
  rw [literal_eq, next_bind_reads (next_maybe_fails (dollar_fails other))]
  exact bind_fails failed

theorem reads_conjunction :
    Reads conjunction (ListTokens "&" LiteralTokens) (fun start => True ∧ start ≠ some '&') :=
  reads_literal.separated rfl trivial

end

end Adventure.Script
