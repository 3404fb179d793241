import Adventure.Ron.Token
import Adventure.Ron.Writer

namespace Adventure.Ron

section Digits

variable {base n : Nat}

theorem digit?_digitChar {d : Nat} (small : d < base) (few : base ≤ 16) : digit? base d.digitChar = some d := by
  match d with
  | 0 | 1 | 2 | 3 | 4 | 5 | 6 | 7 | 8 | 9 | 10 | 11 | 12 | 13 | 14 | 15 => exact if_pos small
  | d + 16 => omega

/-- The digits of a number are read as the number. -/
theorem foldlM_toDigits (several : 1 < base) (few : base ≤ 16) :
    (Nat.toDigits base n).foldlM (fun total c => (digit? base c).map (total * base + ·)) 0 = some n := by
  induction n using Nat.strongRecOn with
  | _ n ih =>
    by_cases small : n < base
    · rw [Nat.toDigits_of_lt_base small, List.foldlM_cons, digit?_digitChar small few]
      simp
    · have less : n / base < n := Nat.div_lt_self (by omega) several
      have last : n % base < base := Nat.mod_lt n (by omega)
      rw [Nat.toDigits_of_base_le several (by omega), List.foldlM_append, ih (n / base) less]
      simp [digit?_digitChar last few, Nat.div_add_mod']

theorem exists_digitChar {c : Char} (several : 1 < base) (member : c ∈ Nat.toDigits base n) :
    ∃ d < base, c = d.digitChar := by
  induction n using Nat.strongRecOn with
  | _ n ih =>
    by_cases small : n < base
    · rw [Nat.toDigits_of_lt_base small, List.mem_singleton] at member
      exact ⟨n, small, member⟩
    · have less : n / base < n := Nat.div_lt_self (by omega) several
      rw [Nat.toDigits_of_base_le several (by omega), List.mem_append, List.mem_singleton] at member
      rcases member with earlier | rfl
      · exact ih (n / base) less earlier
      · exact ⟨n % base, Nat.mod_lt n (by omega), rfl⟩

end Digits

theorem exists_fuel_of_lt {n fuel : Nat} (enough : n < fuel) : ∃ more, fuel = more + 1 :=
  Nat.exists_eq_succ_of_ne_zero (Nat.ne_zero_of_lt enough)

namespace Token

/-- A text is read as some tokens with blanks between them. -/
inductive Spells : List Char → List Token → Prop
  | done : Spells [] []
  | space {c : Char} {chars : List Char} {tokens : List Token} :
      isSpace c = true → Spells chars tokens → Spells (c :: chars) tokens
  | token {c : Char} {text rest : List Char} {token : Token} {tokens : List Token} :
      isSpace c = false → c ≠ '/' →
      (∀ fuel, (text ++ rest).length < fuel → next? fuel (c :: text ++ rest) = some (token, rest)) →
      Spells rest tokens → Spells (c :: text ++ rest) (token :: tokens)

theorem skipSpace_cons_of_space {c : Char} (space : isSpace c = true) (fuel : Nat) (chars : List Char) :
    skipSpace (fuel + 1) (c :: chars) = skipSpace (fuel + 1) chars := by
  rw [skipSpace, skipSpace, List.dropWhile_cons_of_pos space]

theorem skipSpace_of_not_space {c : Char} (solid : isSpace c = false) (other : c ≠ '/') (fuel : Nat)
    (chars : List Char) : skipSpace fuel (c :: chars) = some (c :: chars) := by
  cases fuel with
  | zero => rfl
  | succ fuel =>
    rw [skipSpace, List.dropWhile_cons_of_neg (by simp [solid])]
    split
    next same => cases same; contradiction
    next same => cases same; contradiction
    next => rfl

theorem Spells.allFrom {chars : List Char} {tokens : List Token} (spells : Spells chars tokens) {fuel : Nat}
    (enough : chars.length < fuel) (taken : List Token) :
    allFrom fuel taken chars = some (taken.reverse ++ tokens) := by
  induction spells generalizing fuel taken with
  | done =>
    obtain ⟨fuel, rfl⟩ := exists_fuel_of_lt enough
    simp [Token.allFrom, skipSpace]
  | @space c chars tokens space _ ih =>
    obtain ⟨fuel, rfl⟩ := exists_fuel_of_lt enough
    have later := ih (Nat.lt_of_succ_lt enough) taken
    rw [Token.allFrom] at later ⊢
    rw [skipSpace_cons_of_space space]
    exact later
  | @token c text rest token tokens solid other read _ ih =>
    obtain ⟨fuel, rfl⟩ := exists_fuel_of_lt enough
    rw [List.cons_append, List.length_cons, Nat.succ_lt_succ_iff, List.length_append] at enough
    have here := read (fuel + 1) (by rw [List.length_append]; omega)
    have later := ih (Nat.lt_of_le_of_lt (Nat.le_add_left _ _) enough) (token :: taken)
    rw [List.cons_append] at here ⊢
    rw [Token.allFrom, skipSpace_of_not_space solid other]
    simpa [here] using later

/-- A text is the tokens that it spells. -/
theorem all_eq_of_spells {source : String} {tokens : List Token} (spells : Spells source.toList tokens) :
    all source = some tokens :=
  spells.allFrom (by rw [String.length_toList]; exact Nat.lt_succ_self _) []

/-- A word or a number ends where the text ends or one of these marks stands. -/
def Ends (rest : List Char) : Prop := ∀ c ∈ rest.head?, c ∈ ['(', ')', ':', ',']

theorem ends_cons {c : Char} {rest : List Char} (mark : c ∈ ['(', ')', ':', ',']) : Ends (c :: rest) := by
  intro d here
  cases here
  exact mark

theorem Ends.stops {rest : List Char} (ends : Ends rest) {q : Char → Bool}
    (none : (['(', ')', ':', ','].any q) = false) : ∀ c ∈ rest.head?, q c = false := fun c here =>
  Bool.eq_false_iff.mpr fun holds => by simpa [none] using List.any_eq_true.mpr ⟨c, ends c here, holds⟩

theorem head_of_append {text rest more : List Char} {c : Char} {q : Char → Bool} (all : ∀ d ∈ text, q d = true)
    (ends : Ends rest) (same : text ++ rest = c :: more) : q c = true ∨ c ∈ ['(', ')', ':', ','] := by
  cases text with
  | nil => exact .inr (ends c (by rw [← List.nil_append rest, same]; rfl))
  | cons d others =>
    cases same
    exact .inl (all c List.mem_cons_self)

theorem takeWhile_append_stop {q : Char → Bool} {text rest : List Char} (all : ∀ c ∈ text, q c)
    (stop : ∀ c ∈ rest.head?, q c = false) :
    (text ++ rest).takeWhile q = text ∧ (text ++ rest).dropWhile q = rest := by
  rw [List.takeWhile_append_of_pos all, List.dropWhile_append_of_pos all]
  cases rest with
  | nil => simp
  | cons c more => simp [stop c rfl]

theorem Spells.mark {c : Char} {rest : List Char} {tokens : List Token} (mark : c ∈ ['(', ')', '[', ']', ',', ':'])
    (spells : Spells rest tokens) : Spells (c :: rest) (.mark c :: tokens) := by
  simp only [List.mem_cons, List.not_mem_nil, or_false] at mark
  rcases mark with rfl | rfl | rfl | rfl | rfl | rfl <;>
    exact @Spells.token _ [] rest _ _ (by decide) (by decide) (fun _ _ => rfl) spells

/-- A word of letters, digits and underscores that starts with a letter. -/
def isName (name : String) : Bool :=
  name.toList.head?.any Char.isAlpha && name.toList.all fun c => c.isAlphanum || c == '_'

theorem isAlpha_iff_toNat {c : Char} :
    c.isAlpha = true ↔ 65 ≤ c.toNat ∧ c.toNat ≤ 90 ∨ 97 ≤ c.toNat ∧ c.toNat ≤ 122 := by
  change (decide (c.val ≥ 'A'.val ∧ c.val ≤ 'Z'.val) ||
    (decide (c.val ≥ 'a'.val) && decide (c.val ≤ 'z'.val))) = true ↔ _
  simp [UInt32.le_iff_toNat_le]

theorem toNat_lt_of_isAlphanum {c : Char} (part : c.isAlphanum = true) : c.toNat < 0x80 := by
  rcases Bool.or_eq_true_iff.mp part with letter | digit
  · rw [isAlpha_iff_toNat] at letter
    omega
  · have bounds := Char.isDigit_iff_toNat.mp digit
    exact Nat.lt_of_le_of_lt bounds.2 (by decide)

theorem continuesName_of_nameChar {c : Char} (part : (c.isAlphanum || c == '_') = true) :
    Text.continuesName c = true := by
  rcases Bool.or_eq_true_iff.mp part with letter | underscore
  · rw [Text.continuesName, if_pos (toNat_lt_of_isAlphanum letter), letter, Bool.true_or]
  · rw [beq_iff_eq.mp underscore]
    rfl

/-- The first letter of a word starts no other token. -/
theorem kinds_of_isAlpha {c : Char} (letter : c.isAlpha = true) :
    isSpace c = false ∧ isMark c = false ∧ Number.starts c = false ∧ startsWord c = true ∧
      c ≠ '/' ∧ c ≠ '"' ∧ c ≠ '\'' := by
  have small : c.toNat < 0x80 := toNat_lt_of_isAlphanum (Bool.or_eq_true_iff.mpr (.inl letter))
  have notDigit : ¬ c.isDigit = true := by
    rw [Char.isDigit_iff_toNat, show '0'.toNat = 48 from rfl, show '9'.toNat = 57 from rfl]
    rw [isAlpha_iff_toNat] at letter
    omega
  have other {d : Char} (mark : d.isAlpha = false) : c ≠ d := fun same => by simp [← same, letter] at mark
  refine ⟨?_, ?_, ?_, ?_, other (by decide), other (by decide), other (by decide)⟩
  · simp [isSpace, other]
  · simp [isMark, other]
  · simp [Number.starts, notDigit, other]
  · simp [startsWord, Text.startsName, small, letter]

/-- Neither a quote nor a hash sign stands next, which would make more than a word of the letter before it. -/
def Unquoted (chars : List Char) : Prop := ∀ c ∈ chars.head?, c ∉ ['"', '\'', '#']

/-- What starts no mark and nothing quoted is a number or a word. -/
theorem next?_of_unquoted {c : Char} {chars : List Char} (unmarked : isMark c = false) (quote : c ≠ '"')
    (single : c ≠ '\'') (next : c = 'b' ∨ c = 'r' → Unquoted chars)
    (second : c = 'b' → ∀ more, chars = 'r' :: more → Unquoted more) (fuel : Nat) :
    next? fuel (c :: chars) =
      if Number.starts c then (Number.next? (c :: chars)).map fun (value, rest) => (.number value, rest)
      else word? (c :: chars) := by
  rw [next?.eq_def]
  -- Texts and letters come first, then bytes, raw bytes, raw texts and words without a meaning.
  split
  next same => exact absurd (List.cons.inj same).1 quote
  next same => exact absurd (List.cons.inj same).1 single
  next same => cases same; simpa [Unquoted] using next (.inl rfl)
  next same => cases same; simpa [Unquoted] using next (.inl rfl)
  next same => cases same; simpa [Unquoted] using second rfl _ rfl
  next same => cases same; simpa [Unquoted] using second rfl _ rfl
  next same => cases same; simpa [Unquoted] using next (.inr rfl)
  next same => cases same; simpa [Unquoted] using next (.inr rfl)
  next same => cases same; simpa [Unquoted] using next (.inr rfl)
  next same => cases same; simpa [Unquoted] using next (.inr rfl)
  next same =>
    cases same
    rw [if_neg (by simp [unmarked])]
  next same => cases same

theorem unquoted_append {text rest : List Char} (all : ∀ d ∈ text, Text.continuesName d = true) (ends : Ends rest) :
    Unquoted (text ++ rest) := by
  intro c here quote
  obtain ⟨more, same⟩ := List.head?_eq_some_iff.mp here
  have plain := head_of_append all ends same
  simp only [List.mem_cons, List.not_mem_nil, or_false] at quote
  rcases quote with rfl | rfl | rfl <;> exact absurd plain (by decide)

theorem next?_word {name : String} {rest : List Char} (fits : isName name = true) (ends : Ends rest) (fuel : Nat) :
    next? fuel (name.toList ++ rest) = some (.word name, rest) := by
  obtain ⟨start, part⟩ := Bool.and_eq_true_iff.mp fits
  have goOn : ∀ d ∈ name.toList, Text.continuesName d = true := fun d member =>
    continuesName_of_nameChar (List.all_eq_true.mp part d member)
  have taken := takeWhile_append_stop goOn (ends.stops (by decide))
  cases chars : name.toList with
  | nil => simp [chars] at start
  | cons c others =>
    rw [chars] at start goOn taken
    have later := (List.forall_mem_cons.mp goOn).2
    have letter : c.isAlpha = true := start
    have second : ∀ more, others ++ rest = 'r' :: more → Unquoted more := by
      intro more same
      cases others with
      | nil => simpa using ends 'r' (by rw [← List.nil_append rest, same]; rfl)
      | cons d others =>
        cases same
        exact unquoted_append (List.forall_mem_cons.mp later).2 ends
    obtain ⟨-, unmarked, unnumbered, starts, -, quote, single⟩ := kinds_of_isAlpha letter
    rw [List.cons_append, next?_of_unquoted unmarked quote single (fun _ => unquoted_append later ends) fun _ => second,
      if_neg (by simp [unnumbered]), ← List.cons_append, word?, taken.1, taken.2, ← chars, String.ofList_toList, chars]
    exact if_pos starts

theorem Spells.word {name : String} {rest : List Char} {tokens : List Token} (fits : isName name = true)
    (ends : Ends rest) (spells : Spells rest tokens) : Spells (name.toList ++ rest) (.word name :: tokens) := by
  have read (fuel : Nat) := next?_word fits ends fuel
  obtain ⟨start, -⟩ := Bool.and_eq_true_iff.mp fits
  cases chars : name.toList with
  | nil => simp [chars] at start
  | cons c others =>
    rw [chars] at start read
    obtain ⟨solid, -, -, -, other, -⟩ := kinds_of_isAlpha start
    exact .token solid other (fun fuel _ => read fuel) spells

section Numbers

open Number

variable {n : Nat} {rest : List Char}

theorem isDigit_of_mem_toDigits : ∀ c ∈ Nat.toDigits 10 n, c.isDigit = true := fun _ =>
  Nat.isDigit_of_mem_toDigits (by decide) (by decide)

theorem exists_toDigits : ∃ c others, Nat.toDigits 10 n = c :: others ∧ c.isDigit = true ∧
    ∀ d ∈ others, d.isDigit = true := by
  have digits := isDigit_of_mem_toDigits (n := n)
  cases text : Nat.toDigits 10 n with
  | nil => exact absurd text Nat.toDigits_ne_nil
  | cons c others =>
    rw [text] at digits
    exact ⟨c, others, rfl, List.forall_mem_cons.mp digits⟩

theorem takeWhile_toDigits {q : Char → Bool} (part : ∀ c : Char, c.isDigit = true → q c = true) (ends : Ends rest)
    (none : (['(', ')', ':', ','].any q) = false) :
    (Nat.toDigits 10 n ++ rest).takeWhile q = Nat.toDigits 10 n ∧ (Nat.toDigits 10 n ++ rest).dropWhile q = rest :=
  takeWhile_append_stop (fun c member => part c (isDigit_of_mem_toDigits c member)) (ends.stops none)

theorem isIntegerChar_of_isDigit (c : Char) (digit : c.isDigit = true) : isIntegerChar c = true := by
  have bounds := Char.isDigit_iff_toNat.mp digit
  rw [show '0'.toNat = 48 from rfl, show '9'.toNat = 57 from rfl] at bounds
  have small : c.toNat - 48 < 16 := by omega
  simp [isIntegerChar, digit?, digit, small]

theorem digits?_toDigits : digits? 10 (Nat.toDigits 10 n) = some n := by
  have noUnderscore : ∀ c ∈ Nat.toDigits 10 n, (c != '_') = true := by
    intro c member
    rw [bne_iff_ne]
    rintro rfl
    exact Nat.underscore_not_in_toDigits member
  have start : ¬ ((Nat.toDigits 10 n).isEmpty = true ∨ (Nat.toDigits 10 n).head? = some '_') := by
    rintro (empty | underscore)
    · exact Nat.toDigits_ne_nil (List.isEmpty_iff.mp empty)
    · exact Nat.underscore_not_in_toDigits (List.mem_of_mem_head? underscore)
  rw [digits?, if_neg start, List.filter_eq_self.mpr noUnderscore, foldlM_toDigits (by decide) (by decide)]

theorem suffix?_of_ends (ends : Ends rest) : suffix? rest = none := by
  cases rest with
  | nil => rfl
  | cons c more =>
    have mark := ends c rfl
    simp only [List.mem_cons, List.not_mem_nil, or_false] at mark
    rcases mark with rfl | rfl | rfl | rfl <;> rfl

theorem natural?_toDigits (ends : Ends rest) : natural? (Nat.toDigits 10 n ++ rest) = some (n, rest) := by
  have taken := takeWhile_toDigits isIntegerChar_of_isDigit ends (by decide) (n := n)
  -- No letter that names a base stands after the first digit.
  have noBase {c d : Char} {more : List Char} (same : Nat.toDigits 10 n ++ rest = c :: d :: more) :
      d.isDigit = true ∨ d ∈ ['(', ')', ':', ','] := by
    obtain ⟨first, others, text, -, later⟩ := exists_toDigits (n := n)
    rw [text] at same
    exact head_of_append later ends (List.cons.inj same).2
  rw [natural?.eq_def]
  split
  next same => exact absurd (noBase same) (by decide)
  next same => exact absurd (noBase same) (by decide)
  next same => exact absurd (noBase same) (by decide)
  next => simp [taken, digits?_toDigits]

theorem signed_toDigits : signed (Nat.toDigits 10 n ++ rest) = (1, Nat.toDigits 10 n ++ rest) := by
  obtain ⟨c, others, text, digit, -⟩ := exists_toDigits (n := n)
  rw [text, List.cons_append, signed.eq_def]
  split
  next same => cases same; simp at digit
  next same => cases same; simp at digit
  next => rfl

theorem integer?_toDigits (fits : n < Nat.pow 2 64) (ends : Ends rest) :
    integer? (Nat.toDigits 10 n ++ rest) = some (.integer n none, rest) := by
  have whole := takeWhile_toDigits isIntegerChar_of_isDigit ends (by decide) (n := n)
  have held : IntegerKind.holds ⟨false, 64⟩ (1 * (n : Int)) = true := by
    simp [IntegerKind.holds] at fits ⊢
    omega
  have either : (IntegerKind.holds ⟨true, 64⟩ (1 * (n : Int)) ||
      IntegerKind.holds ⟨false, 64⟩ (1 * (n : Int))) = true := by
    rw [held, Bool.or_true]
  rw [integer?, signed_toDigits]
  dsimp only
  rw [whole.2, suffix?_of_ends ends]
  dsimp only
  rw [natural?_toDigits ends, Option.bind_eq_bind, Option.bind_some]
  dsimp only
  rw [if_pos either, Int.one_mul]

theorem next?_toDigits (fits : n < Nat.pow 2 64) (ends : Ends rest) :
    Number.next? (Nat.toDigits 10 n ++ rest) = some (.integer n none, rest) := by
  have whole := takeWhile_toDigits isIntegerChar_of_isDigit ends (by decide) (n := n)
  have fraction : (Nat.toDigits 10 n ++ rest).takeWhile isFractionChar = Nat.toDigits 10 n :=
    (takeWhile_toDigits (fun c digit => by simp [isFractionChar, digit]) ends (by decide)).1
  simp [Number.next?, signed_toDigits, whole, fraction, integer?_toDigits fits ends]

theorem kinds_of_isDigit {c : Char} (digit : c.isDigit = true) :
    isSpace c = false ∧ isMark c = false ∧ Number.starts c = true ∧
      c ≠ '/' ∧ c ≠ '"' ∧ c ≠ '\'' ∧ c ≠ 'b' ∧ c ≠ 'r' := by
  have other {d : Char} (mark : d.isDigit = false) : c ≠ d := fun same => by simp [← same, digit] at mark
  refine ⟨?_, ?_, ?_, other (by decide), other (by decide), other (by decide), other (by decide), other (by decide)⟩
  · simp [isSpace, other]
  · simp [isMark, other]
  · simp [Number.starts, digit]

theorem Spells.number {tokens : List Token} (fits : n < Nat.pow 2 64) (ends : Ends rest)
    (spells : Spells rest tokens) : Spells (Nat.toDigits 10 n ++ rest) (.number (.integer n none) :: tokens) := by
  have read := next?_toDigits fits ends
  obtain ⟨c, others, text, digit, -⟩ := exists_toDigits (n := n)
  rw [text] at read ⊢
  obtain ⟨solid, unmarked, starts, other, quote, single, notB, notR⟩ := kinds_of_isDigit digit
  refine .token solid other (fun fuel _ => ?_) spells
  rw [List.cons_append] at read ⊢
  rw [next?_of_unquoted unmarked quote single (by simp [notB, notR]) (by simp [notB]), if_pos starts, read]
  rfl

end Numbers

section Quoted

variable {c : Char} {fuel : Nat} {taken more : List Char}

theorem digitChar_ne_brace : ∀ d < 16, (Nat.digitChar d != '\x7d') = true := by decide

/-- The code of a character between braces is read as the character. -/
theorem code?_toDigits : code? (Nat.toDigits 16 c.toNat ++ '\x7d' :: more) = some (c, more) := by
  have valid : c.toNat.isValidChar := c.valid
  have digits : ∀ d ∈ Nat.toDigits 16 c.toNat, (d != '\x7d') = true := by
    intro d member
    obtain ⟨value, small, rfl⟩ := exists_digitChar (by decide) member
    exact digitChar_ne_brace value small
  have stop : ∀ d ∈ ('\x7d' :: more).head?, (d != '\x7d') = false := by simp
  have short : (Nat.toDigits 16 c.toNat).length ≤ 6 := by
    refine (Nat.length_toDigits_le_iff (by decide) (by decide)).mpr ?_
    rcases valid with low | ⟨-, high⟩ <;> omega
  have filled : 0 < (Nat.toDigits 16 c.toNat).length := Nat.length_toDigits_pos
  have sized : ¬ ((Nat.toDigits 16 c.toNat).length < 1 ∨ (Nat.toDigits 16 c.toNat).length > 6 ∨
      (Nat.toDigits 16 c.toNat).length = (Nat.toDigits 16 c.toNat ++ '\x7d' :: more).length) := by
    rw [List.length_append, List.length_cons]
    omega
  rw [code?, (takeWhile_append_stop digits stop).1, if_neg sized, foldlM_toDigits (by decide) (by decide),
    ← List.drop_drop, List.drop_left]
  dsimp only
  rw [if_pos valid, Char.ofNat_toNat]
  rfl

theorem quotedRest_escaped :
    quotedRest ([·]) textEscape? (fuel + 1) taken ((escaped c).toList ++ more) =
      quotedRest ([·]) textEscape? fuel (c :: taken) more := by
  rw [escaped]
  split
  next same => subst same; rfl
  next =>
    -- Six characters have short escapes; of the others those that do not show are written as their codes.
    rw [Text.escaped.eq_def]
    split
    next => rfl
    next => rfl
    next => rfl
    next => rfl
    next => rfl
    next => rfl
    next quote backslash =>
      split
      next =>
        have single : c.toString.toList = [c] := by simp
        rw [single, List.singleton_append, quotedRest, if_neg quote, if_neg backslash]
        rfl
      next =>
        have spelt : ("\\u\x7b" ++ Text.hex c.toNat ++ "\x7d").toList ++ more =
            '\\' :: 'u' :: '\x7b' :: (Nat.toDigits 16 c.toNat ++ '\x7d' :: more) := by
          simp [Text.hex]
        have read : textEscape? ('u' :: '\x7b' :: (Nat.toDigits 16 c.toNat ++ '\x7d' :: more)) = some ([c], more) := by
          simp [textEscape?, escape?, code?_toDigits]
        rw [spelt, quotedRest, if_neg (by decide), if_pos rfl, read]
        rfl

theorem length_escaped_pos : 0 < (escaped c).toList.length := by
  unfold escaped Text.escaped
  split
  · decide
  · split
    iterate 6 decide
    split <;> simp

theorem length_le_escaped (chars : List Char) : chars.length ≤ (chars.flatMap fun c => (escaped c).toList).length := by
  induction chars with
  | nil => exact Nat.le_refl 0
  | cons c others ih =>
    have here := @length_escaped_pos c
    rw [List.flatMap_cons, List.length_append, List.length_cons]
    omega

/-- A quoted text is read up to its last quote, one character after another. -/
theorem quotedRest_flatMap {chars : List Char} (enough : chars.length < fuel) :
    quotedRest ([·]) textEscape? fuel taken ((chars.flatMap fun c => (escaped c).toList) ++ '"' :: more) =
      some (taken.reverse ++ chars, more) := by
  induction chars generalizing fuel taken with
  | nil =>
    obtain ⟨fuel, rfl⟩ := exists_fuel_of_lt enough
    simp [quotedRest]
  | cons c others ih =>
    obtain ⟨fuel, rfl⟩ := exists_fuel_of_lt enough
    rw [List.flatMap_cons, List.append_assoc, quotedRest_escaped, ih (Nat.lt_of_succ_lt_succ enough)]
    simp

theorem toList_quote (value : String) :
    (quote value).toList = '"' :: ((value.toList.flatMap fun c => (escaped c).toList) ++ ['"']) := by
  simp [quote, List.flatMap_map]

theorem Spells.text {value : String} {tokens : List Token} (spells : Spells more tokens) :
    Spells ((quote value).toList ++ more) (.text value :: tokens) := by
  rw [toList_quote]
  refine .token (by decide) (by decide) ?_ spells
  intro fuel enough
  have few : value.toList.length < fuel := by
    have least := length_le_escaped value.toList
    simp only [List.length_append] at enough
    omega
  rw [List.cons_append, List.append_assoc, List.singleton_append, next?, text?, quotedRest_flatMap few]
  simp

end Quoted

end Token

end Adventure.Ron
