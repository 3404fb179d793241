import Adventure.Proofs.Script.Layout

namespace Adventure.Script

section

variable {α β : Type} {p q : Reader α} {value : α} {chars rest : List Char}

theorem bind_reads {f : α → Reader β} (read : p chars = some (value, rest)) : (p >>= f) chars = f value rest := by
  simp [bind, StateT.bind, read]

theorem bind_fails {f : α → Reader β} (failed : p chars = none) : (p >>= f) chars = none := by
  simp [bind, StateT.bind, failed]

theorem map_reads (f : α → β) (read : p chars = some (value, rest)) : (f <$> p) chars = some (f value, rest) := by
  simp [Functor.map, StateT.map, read]

theorem map_fails (f : α → β) (failed : p chars = none) : (f <$> p) chars = none := by
  simp [Functor.map, StateT.map, failed]

theorem maybe_reads (read : p chars = some (value, rest)) : maybe p chars = some (some value, rest) := by
  simp [maybe, read]

theorem maybe_fails (failed : p chars = none) : maybe p chars = some (none, chars) := by
  simp [maybe, failed]

/-- The reader takes the values one after another, and something for each. -/
inductive Run (p : Reader α) : List Char → List α → List Char → Prop
  | done {rest : List Char} : Run p rest [] rest
  | step {chars more rest : List Char} {value : α} {values : List α} :
      p chars = some (value, more) → more.length < chars.length → Run p more values rest →
      Run p chars (value :: values) rest

theorem Run.length_le {values : List α} (run : Run p chars values rest) : values.length ≤ chars.length := by
  induction run with
  | done => exact Nat.zero_le _
  | step _ shorter _ ih =>
    simp only [List.length_cons]
    omega

theorem repeated_reads {values : List α} {count : Nat} (run : Run p chars values rest) (stop : p rest = none)
    (enough : values.length ≤ count) : repeated p count chars = some (values, rest) := by
  induction run generalizing count with
  | done =>
    cases count with
    | zero => rfl
    | succ count => exact bind_reads (maybe_fails stop)
  | step read _ _ ih =>
    cases count with
    | zero => cases enough
    | succ count =>
      have later := ih stop (Nat.le_of_succ_le_succ enough)
      rw [repeated, bind_reads (maybe_reads read)]
      exact bind_reads later

theorem many_reads {values : List α} (run : Run p chars values rest) (stop : p rest = none) :
    many p chars = some (values, rest) :=
  repeated_reads run stop run.length_le

end

section

variable {text rest chars : List Char} {tokens : List Token}

theorem isWordStart_iff {c : Char} : isWordStart c = true ↔ IsNameChar c := by
  simp [isWordStart, IsNameChar]

theorem continuesWord_of_wordChar {c : Char} (part : isWordChar c) : continuesWord c := by
  simp only [isWordChar, isWordStart, Bool.or_eq_true, beq_iff_eq] at part
  rcases part with (letter | rfl) | rfl
  · simp [continuesWord, letter]
  · decide
  · decide

theorem IsWord.all (fits : IsWord text) : ∀ c ∈ text, isWordChar c := by
  obtain ⟨c, more, rfl, start, others⟩ := fits
  intro d member
  rcases List.mem_cons.mp member with rfl | later
  · simp [isWordChar, isWordStart_iff.mpr start]
  · rcases others d later with start | rfl
    · simp [isWordChar, isWordStart_iff.mpr start]
    · decide

theorem isWord_iff : IsWord text ↔ text.head?.any isWordStart ∧ text.all isWordChar := by
  constructor
  · intro fits
    refine ⟨?_, List.all_eq_true.mpr fits.all⟩
    obtain ⟨c, more, rfl, start, -⟩ := fits
    exact isWordStart_iff.mpr start
  · rintro ⟨start, all⟩
    cases text with
    | nil => cases start
    | cons c more =>
      refine ⟨c, more, rfl, isWordStart_iff.mp start, fun d member => ?_⟩
      have part := List.all_eq_true.mp all d (List.mem_cons_of_mem c member)
      simpa [isWordChar, isWordStart_iff] using part

instance : DecidablePred IsWord := fun _ => decidable_of_iff _ isWord_iff.symm

theorem run_reads {q : Char → Bool} (all : ∀ c ∈ text, q c) (stop : ∀ c ∈ rest.head?, q c = false) :
    run q (text ++ rest) = some (text, rest) := by
  have taken : rest.takeWhile q = [] ∧ rest.dropWhile q = rest := by
    cases rest with
    | nil => exact ⟨rfl, rfl⟩
    | cons c more => simp [stop c rfl]
  rw [run, List.takeWhile_append_of_pos all, List.dropWhile_append_of_pos all, taken.1, taken.2, List.append_nil]

theorem word_reads (fits : IsWord text) (stop : ∀ c ∈ rest.head?, isWordChar c = false) :
    word (text ++ rest) = some (text, rest) := by
  have taken := run_reads fits.all stop
  obtain ⟨c, more, rfl, start, -⟩ := fits
  rw [← taken]
  change (if isWordStart c then run isWordChar else failure) _ = _
  rw [if_pos (isWordStart_iff.mpr start)]

theorem word_fails {c : Char} (other : isWordStart c = false) : word (c :: rest) = none := by
  change (if isWordStart c then run isWordChar else failure) _ = _
  rw [if_neg (Bool.not_eq_true _ ▸ other)]
  rfl

theorem literally_reads : literally text (text ++ rest) = some ((), rest) := by
  simp [literally]

theorem literally_fails {c : Char} (other : rest.head? ≠ some c) : literally (c :: text) rest = none := by
  cases rest with
  | nil => simp [literally]
  | cons d more =>
    have differ : ¬ c = d := fun same => other (by simp [same])
    simp [literally, differ]

theorem Token.Apart.stops {name : String} {q : Char → Bool} (apart : (Token.word name).Apart rest)
    (part : ∀ c, q c → continuesWord c) : ∀ c ∈ rest.head?, q c = false := by
  cases rest with
  | nil => intro c member; cases member
  | cons c more =>
    intro d member
    cases member
    have ended : continuesWord c = false := apart
    exact Bool.eq_false_iff.mpr fun goesOn => by simp [part c goesOn] at ended

theorem Token.Apart.ends_word {name : String} (apart : (Token.word name).Apart rest) :
    ∀ c ∈ rest.head?, isWordChar c = false :=
  apart.stops fun _ => continuesWord_of_wordChar

theorem slash_ends_word (words : List (List Char)) (stop : ∀ c ∈ rest.head?, isWordChar c = false) :
    ∀ c ∈ (words.flatMap ('/' :: ·) ++ rest).head?, isWordChar c = false := by
  cases words with
  | nil => exact stop
  | cons second words =>
    intro c member
    cases member
    decide

/-- Each of the words after a slash is read. -/
theorem run_slashes {words : List (List Char)} (fit : ∀ word ∈ words, IsWord word)
    (stop : ∀ c ∈ rest.head?, isWordChar c = false) :
    Run (do literally ['/']; return '/' :: (← word)) (words.flatMap ('/' :: ·) ++ rest) (words.map ('/' :: ·))
      rest := by
  induction words with
  | nil => exact .done
  | cons first words ih =>
    have later := ih fun word member => fit word (List.mem_cons_of_mem _ member)
    have slash {chars : List Char} : literally ['/'] ('/' :: chars) = some ((), chars) := literally_reads
    have read := word_reads (fit first List.mem_cons_self) (slash_ends_word words stop)
    refine .step ?_ ?_ later
    · simp only [List.flatMap_cons, List.append_assoc, List.cons_append]
      exact (bind_reads slash).trans (bind_reads read)
    · simp only [List.flatMap_cons, List.length_append, List.length_cons]
      omega

theorem ruleName_reads {name : String} (fits : IsRuleName name.toList) (apart : (Token.word name).Apart rest) :
    ruleName (name.toList ++ rest) = some (name, rest) := by
  obtain ⟨first, others, fitsFirst, fit, shape⟩ := fits
  have stop := apart.ends_word
  have noSlash : rest.head? ≠ some '/' := by
    intro slash
    have ended := apart.stops (q := (· == '/')) (fun c same => by simp [continuesWord, beq_iff_eq.mp same]) '/' slash
    simp at ended
  have slashes := many_reads (run_slashes fit stop) (bind_fails (literally_fails noSlash))
  rw [shape, List.append_assoc, ruleName, bind_reads (word_reads fitsFirst (slash_ends_word others stop)),
    bind_reads slashes, ← List.flatMap_def, ← shape, String.ofList_toList]
  rfl

theorem quotedRest_reads {written : List Char} (escaped : Escaped text written) :
    quotedRest (written ++ '"' :: rest) = some (text, rest) := by
  induction escaped with
  | nil => simp [quotedRest]
  | plain noQuote noSlash _ ih => simp [quotedRest, noQuote, noSlash, ih]
  | quote _ ih => simp [quotedRest, unescape, ih]
  | backslash _ ih => simp [quotedRest, unescape, ih]
  | newline _ ih => simp [quotedRest, unescape, ih]
  | tab _ ih => simp [quotedRest, unescape, ih]
  | other plain _ ih =>
    simp only [List.mem_cons, List.not_mem_nil, or_false, not_or] at plain
    obtain ⟨noQuote, noSlash, noNewline, noTab⟩ := plain
    simp [quotedRest, unescape, ih]

theorem bare_of_start {c : Char} (start : IsNameChar c) (rest : List Char) : bare (c :: rest) := by
  refine Bool.not_eq_true' _ ▸ Bool.eq_false_iff.mpr fun hidden => ?_
  have hidden : c ∈ [' ', '\t', '\r', '\n', '#'] := List.contains_iff_mem.mp hidden
  have others : [' ', '\t', '\r', '\n', '#'].all (!isWordStart ·) := by decide
  have other := List.all_eq_true.mp others c hidden
  rw [isWordStart_iff.mpr start] at other
  cases other

theorem IsWord.bare (fits : IsWord text) : bare text := by
  obtain ⟨c, more, rfl, start, -⟩ := fits
  exact bare_of_start start more

theorem IsWord.head?_ne {c : Char} (fits : IsWord text) (other : isWordStart c = false) : text.head? ≠ some c := by
  obtain ⟨d, more, rfl, start, -⟩ := fits
  rintro same
  cases same
  rw [← isWordStart_iff, other] at start
  cases start

theorem IsRuleName.bare (fits : IsRuleName text) : bare text := by
  obtain ⟨first, others, fitsFirst, -, rfl⟩ := fits
  exact bare_append fitsFirst.bare _

end

/-- The character that the next token begins with. -/
def upcoming (chars : List Char) : Option Char := (skipFrom false chars).head?

namespace Layout

variable {name : String} {tokens : List Token} {chars rest : List Char}

theorem upcoming {token : Token} (laid : Layout (token :: tokens) chars rest) (only : token.spelling? = some name)
    (visible : bare name.toList) : Script.upcoming chars = name.toList.head? := by
  obtain ⟨more, laid, -⟩ := laid.cons
  rw [Script.upcoming, (laid.spelled only visible).1, List.head?_append_of_ne_nil _ (ne_nil_of_bare visible)]

theorem reads_identifier (laid : Layout [.word name] chars rest) (fits : IsWord name.toList) :
    next identifier chars = some (name, rest) := by
  obtain ⟨skipped, apart⟩ := laid.spelled rfl fits.bare
  change identifier (skipFrom false chars) = _
  rw [skipped, identifier, map_reads String.ofList (word_reads fits apart.ends_word), String.ofList_toList]

theorem reads_ruleName (laid : Layout [.word name] chars rest) (fits : IsRuleName name.toList) :
    next ruleName chars = some (name, rest) := by
  obtain ⟨skipped, apart⟩ := laid.spelled rfl fits.bare
  change ruleName (skipFrom false chars) = _
  rw [skipped, ruleName_reads fits apart]

theorem reads_keyword (laid : Layout [.word name] chars rest) (front : bare name.toList) :
    next (keyword name) chars = some ((), rest) := by
  obtain ⟨skipped, apart⟩ := laid.spelled rfl front
  change keyword name (skipFrom false chars) = _
  rw [skipped, keyword, bind_reads literally_reads]
  cases rest with
  | nil => rfl
  | cons c more =>
    have ended : isWordChar c = false := apart.ends_word c rfl
    change (if isWordChar c then failure else pure () : Reader Unit) (c :: more) = _
    rw [ended]
    rfl

theorem reads_mark (laid : Layout [.mark name] chars rest) (front : bare name.toList) :
    mark name chars = some ((), rest) := by
  change literally name.toList (skipFrom false chars) = _
  rw [(laid.spelled rfl front).1, literally_reads]

theorem reads_quoted (laid : Layout [.quoted name] chars rest) : next quoted chars = some (name, rest) := by
  obtain ⟨written, shape, -, skips⟩ := laid.front
  cases shape with
  | @quoted _ inner escaped =>
    have opened {more : List Char} : literally ['"'] ('"' :: more) = some ((), more) := literally_reads
    have read : quotedRest (inner ++ '"' :: rest) = some (name.toList, rest) := quotedRest_reads escaped
    change quoted (skipFrom false chars) = _
    rw [skips rfl, List.cons_append, List.append_assoc, quoted, bind_reads opened]
    exact (map_reads String.ofList read).trans (by rw [String.ofList_toList])

end Layout

section

variable {text : String} {chars : List Char}

theorem literally_fails_at (other : upcoming chars ≠ text.toList.head?) (front : bare text.toList) :
    literally text.toList (skipFrom false chars) = none := by
  obtain ⟨c, more, shape⟩ := List.exists_cons_of_ne_nil (ne_nil_of_bare front)
  rw [shape] at other ⊢
  exact literally_fails other

theorem mark_fails (other : upcoming chars ≠ text.toList.head?) (front : bare text.toList) :
    mark text chars = none :=
  literally_fails_at other front

theorem keyword_fails (other : upcoming chars ≠ text.toList.head?) (front : bare text.toList) :
    next (keyword text) chars = none := by
  change keyword text (skipFrom false chars) = none
  exact bind_fails (literally_fails_at other front)

theorem identifier_fails (other : (upcoming chars).any isWordStart = false) : next identifier chars = none := by
  change (String.ofList <$> word) (skipFrom false chars) = none
  unfold upcoming at other
  cases shape : skipFrom false chars with
  | nil => rfl
  | cons c more =>
    rw [shape] at other
    exact map_fails String.ofList (word_fails other)

end

end Adventure.Script
