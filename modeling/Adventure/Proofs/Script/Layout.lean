import Mathlib.Data.List.Basic
import Adventure.Script.Reader

namespace Adventure.Script

/-- Blanks and comments, each comment up to the end of its line. -/
inductive Gap : List Char → Prop
  | nil : Gap []
  | blank {c : Char} {rest : List Char} : c ∈ [' ', '\t', '\r', '\n'] → Gap rest → Gap (c :: rest)
  | comment {text rest : List Char} : '\n' ∉ text → Gap rest → Gap ('#' :: (text ++ '\n' :: rest))

/-- What may stand after the last token. A comment may also end with the text. -/
inductive Ending : List Char → Prop
  | gap {gap : List Char} : Gap gap → Ending gap
  | comment {gap text : List Char} : Gap gap → '\n' ∉ text → Ending (gap ++ '#' :: text)

/-- How the inside of a quoted text may be written. A backslash before any other character stands for itself. -/
inductive Escaped : (text written : List Char) → Prop
  | nil : Escaped [] []
  | plain {c : Char} {text written : List Char} :
      c ≠ '"' → c ≠ '\\' → Escaped text written → Escaped (c :: text) (c :: written)
  | quote {text written : List Char} : Escaped text written → Escaped ('"' :: text) ('\\' :: '"' :: written)
  | backslash {text written : List Char} :
      Escaped text written → Escaped ('\\' :: text) ('\\' :: '\\' :: written)
  | newline {text written : List Char} : Escaped text written → Escaped ('\n' :: text) ('\\' :: 'n' :: written)
  | tab {text written : List Char} : Escaped text written → Escaped ('\t' :: text) ('\\' :: 't' :: written)
  | other {c : Char} {text written : List Char} :
      c ∉ ['"', '\\', 'n', 't'] → Escaped text written → Escaped ('\\' :: c :: text) ('\\' :: c :: written)

/-- A letter, a digit or an underscore. -/
def IsNameChar (c : Char) : Prop := c.isAlphanum ∨ c = '_'

/-- Such a character, and then also hyphens. -/
def IsWord (text : List Char) : Prop :=
  ∃ c more, text = c :: more ∧ IsNameChar c ∧ ∀ d ∈ more, IsNameChar d ∨ d = '-'

/-- Words with a slash between each two. -/
def IsRuleName (text : List Char) : Prop :=
  ∃ (first : List Char) (others : List (List Char)),
    IsWord first ∧ (∀ word ∈ others, IsWord word) ∧ text = first ++ others.flatMap ('/' :: ·)

/-- What blanks may stand between: keywords and names, marks, and quoted texts. -/
inductive Token where
  | word (text : String)
  | mark (text : String)
  | quoted (text : String)

inductive Token.Written : Token → List Char → Prop
  | word {text : String} : Written (.word text) text.toList
  | mark {text : String} : Written (.mark text) text.toList
  | quoted {text : String} {written : List Char} :
      Escaped text.toList written → Written (.quoted text) ('"' :: (written ++ ['"']))

/-- The one way to write a token that is not quoted. -/
def Token.spelling? : Token → Option String
  | .word text => some text
  | .mark text => some text
  | .quoted _ => none

theorem Token.Written.eq {token : Token} {text : String} {written : List Char} (spelled : token.Written written)
    (only : token.spelling? = some text) : written = text.toList := by
  cases spelled with
  | word => cases only; rfl
  | mark => cases only; rfl
  | quoted => cases only

/-- Whether a character can go on a keyword, an identifier, the name of a rule or that of a placeholder. -/
def continuesWord (c : Char) : Bool := c.isAlphanum || ['_', '-', '/', '\''].contains c

/-- The token does not run into what follows it: a word ends before a character that could go on it. -/
def Token.Apart : Token → List Char → Prop
  | .word _, c :: _ => continuesWord c = false
  | _, _ => True

/-- The characters are the tokens, with blanks and comments before each, and then the rest. -/
inductive Layout : List Token → List Char → List Char → Prop
  | done {rest : List Char} : Layout [] rest rest
  | token {token : Token} {tokens : List Token} {gap written more rest : List Char} :
      Gap gap → token.Written written → token.Apart more → Layout tokens more rest →
      Layout (token :: tokens) (gap ++ (written ++ more)) rest

/-- Whether a text begins with neither a blank nor a comment. -/
def bare : List Char → Bool
  | [] => false
  | c :: _ => !([' ', '\t', '\r', '\n', '#'].contains c)

theorem skipFrom_of_bare {chars : List Char} (front : bare chars) : skipFrom false chars = chars := by
  cases chars with
  | nil => rfl
  | cons c rest =>
    have visible : isBlank c = false ∧ c ≠ '#' := by simpa [bare, isBlank, and_assoc] using front
    simp [skipFrom, visible.1, visible.2]

theorem bare_append {chars : List Char} (front : bare chars) (rest : List Char) : bare (chars ++ rest) := by
  cases chars with
  | nil => cases front
  | cons c more => exact front

theorem ne_nil_of_bare {chars : List Char} (front : bare chars) : chars ≠ [] := by
  rintro rfl
  cases front

theorem skipFrom_skipFrom (inComment : Bool) (chars : List Char) :
    skipFrom false (skipFrom inComment chars) = skipFrom inComment chars := by
  fun_induction skipFrom inComment chars with
  | case1 => rfl
  | case2 _ _ ih => exact ih
  | case3 _ _ _ ih => exact ih
  | case4 _ _ ih => exact ih
  | case5 c rest visible text => simp [skipFrom, visible, text]

/-- An open comment goes on as long as its line does. -/
theorem skipFrom_line {text : List Char} (line : '\n' ∉ text) (rest : List Char) :
    skipFrom true (text ++ rest) = skipFrom true rest := by
  induction text with
  | nil => rfl
  | cons c text ih =>
    obtain ⟨other, line⟩ := List.ne_and_not_mem_of_not_mem_cons line
    have goesOn : (c != '\n') = true := bne_iff_ne.mpr other.symm
    rw [List.cons_append, skipFrom, goesOn, ih line]

theorem skipFrom_hash (rest : List Char) : skipFrom false ('#' :: rest) = skipFrom true rest := by
  have visible : isBlank '#' = false := by decide
  simp [skipFrom, visible]

theorem Gap.skipFrom {gap : List Char} (blank : Gap gap) (rest : List Char) :
    skipFrom false (gap ++ rest) = Script.skipFrom false rest := by
  induction blank with
  | nil => rfl
  | @blank c _ white _ ih =>
    have blank : isBlank c = true := by simpa [isBlank, or_assoc] using white
    simpa [Script.skipFrom, blank] using ih
  | comment line _ ih =>
    rw [List.cons_append, skipFrom_hash, List.append_assoc, skipFrom_line line, List.cons_append]
    exact ih

theorem Ending.skipFrom {chars : List Char} (ending : Ending chars) : skipFrom false chars = [] := by
  cases ending with
  | gap blank =>
    have skipped := blank.skipFrom []
    rwa [List.append_nil] at skipped
  | @comment gap text blank line =>
    have skipped := skipFrom_line line []
    rw [List.append_nil] at skipped
    rw [blank.skipFrom, skipFrom_hash, skipped]
    rfl

namespace Layout

variable {tokens others : List Token} {token : Token} {chars rest : List Char}

theorem append (laid : Layout (tokens ++ others) chars rest) :
    ∃ more, Layout tokens chars more ∧ Layout others more rest := by
  induction tokens generalizing chars with
  | nil => exact ⟨chars, .done, laid⟩
  | cons token tokens ih =>
    cases laid with
    | token blank written apart later =>
      obtain ⟨more, first, second⟩ := ih later
      exact ⟨more, .token blank written apart first, second⟩

theorem cons (laid : Layout (token :: tokens) chars rest) :
    ∃ more, Layout [token] chars more ∧ Layout tokens more rest :=
  append laid

/-- The one token begins where the blanks end. -/
theorem front (laid : Layout [token] chars rest) :
    ∃ written, token.Written written ∧ token.Apart rest ∧
      (bare (written ++ rest) → skipFrom false chars = written ++ rest) := by
  cases laid with
  | token blank spelled apart later =>
    cases later
    refine ⟨_, spelled, apart, fun front => ?_⟩
    rw [blank.skipFrom, skipFrom_of_bare front]

variable {text : String}

theorem spelled (laid : Layout [token] chars rest) (only : token.spelling? = some text) (visible : bare text.toList) :
    skipFrom false chars = text.toList ++ rest ∧ token.Apart rest := by
  obtain ⟨written, spelled, apart, skips⟩ := laid.front
  cases spelled.eq only
  exact ⟨skips (bare_append visible _), apart⟩

theorem skipped (laid : Layout (token :: tokens) chars rest) (only : token.spelling? = some text)
    (visible : bare text.toList) : Layout (token :: tokens) (skipFrom false chars) rest := by
  cases laid with
  | token blank spelled apart later =>
    cases spelled.eq only
    rw [blank.skipFrom, skipFrom_of_bare (bare_append visible _)]
    exact .token .nil spelled apart later

theorem length_le (laid : Layout tokens chars rest) : rest.length ≤ chars.length := by
  induction laid with
  | done => exact Nat.le_refl _
  | token _ _ _ _ ih =>
    simp only [List.length_append]
    omega

theorem length_lt (laid : Layout (token :: tokens) chars rest) (only : token.spelling? = some text)
    (visible : bare text.toList) : rest.length < chars.length := by
  cases laid with
  | token _ spelled _ later =>
    cases spelled.eq only
    have shorter := later.length_le
    have taken := List.length_pos_of_ne_nil (ne_nil_of_bare visible)
    simp only [List.length_append]
    omega

end Layout

end Adventure.Script
