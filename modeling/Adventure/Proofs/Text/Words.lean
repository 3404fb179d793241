import Adventure.Session.Basic

namespace Adventure

namespace Text

/-- Words before a blank and words after it are found apart. -/
theorem wordsFrom_append_blank {c : Char} (blank : isBlank c = true) (word chars rest : List Char) :
    wordsFrom word (chars ++ c :: rest) = wordsFrom word chars ++ wordsFrom [] rest := by
  induction chars generalizing word with
  | nil =>
    rw [List.nil_append, wordsFrom, wordsFrom, if_pos blank]
    split <;> simp
  | cons first others ih =>
    rw [List.cons_append, wordsFrom, wordsFrom, ih, ih]
    split
    · split <;> simp
    · rfl

theorem words_append_blank (text rest : String) : words (text ++ " " ++ rest) = words text ++ words rest := by
  have blank : isBlank ' ' = true := by decide
  have split : (text ++ " " ++ rest).toList = text.toList ++ ' ' :: rest.toList := by simp
  rw [words, split, wordsFrom_append_blank blank, List.map_append, words, words]

theorem words_empty : words "" = [] := by simp [words, wordsFrom]

/-- The words of texts with blanks between them are those of the texts in turn. -/
theorem words_intercalate (texts : List String) : words (" ".intercalate texts) = texts.flatMap words := by
  induction texts with
  | nil => rw [String.intercalate_nil, words_empty, List.flatMap_nil]
  | cons text rest ih =>
    cases rest with
    | nil => rw [String.intercalate_singleton, List.flatMap_singleton]
    | cons next rest => rw [String.intercalate_cons_cons, words_append_blank, ih, ← List.flatMap_cons]

/-- A small letter or a digit. -/
def isSimpleChar (c : Char) : Bool := (97 ≤ c.toNat && c.toNat ≤ 122) || (48 ≤ c.toNat && c.toNat ≤ 57)

theorem isSimpleChar_iff {c : Char} :
    isSimpleChar c = true ↔ (97 ≤ c.toNat ∧ c.toNat ≤ 122) ∨ (48 ≤ c.toNat ∧ c.toNat ≤ 57) := by
  simp [isSimpleChar]

theorem not_isBlank_of_simple {c : Char} (plain : isSimpleChar c = true) : isBlank c = false := by
  rw [isSimpleChar_iff] at plain
  simp only [isBlank, Bool.or_eq_false_iff, Bool.and_eq_false_iff, decide_eq_false_iff_not, beq_eq_false_iff_ne]
  omega

/-- A word of small letters and digits. -/
def IsSimple (word : String) : Prop := word.toList ≠ [] ∧ ∀ c ∈ word.toList, isSimpleChar c = true

instance (word : String) : Decidable (IsSimple word) :=
  decidable_of_iff (word.toList ≠ [] ∧ word.toList.all isSimpleChar = true) (and_congr_right fun _ => List.all_eq_true)

theorem wordsFrom_of_unbroken {word chars : List Char} (unbroken : ∀ c ∈ chars, isBlank c = false)
    (filled : word ≠ [] ∨ chars ≠ []) : wordsFrom word chars = [word.reverse ++ chars] := by
  induction chars generalizing word with
  | nil =>
    have some : word ≠ [] := filled.resolve_right fun other => other rfl
    rw [wordsFrom, if_neg (by simpa using some), List.append_nil]
  | cons c rest ih =>
    obtain ⟨here, later⟩ := List.forall_mem_cons.mp unbroken
    rw [wordsFrom, here, ih later (.inl (List.cons_ne_nil c word))]
    simp

/-- A word without blanks. -/
def Unbroken (word : String) : Prop := word.toList ≠ [] ∧ ∀ c ∈ word.toList, isBlank c = false

theorem IsSimple.unbroken {word : String} (simple : IsSimple word) : Unbroken word :=
  ⟨simple.1, fun c member => not_isBlank_of_simple (simple.2 c member)⟩

theorem Unbroken.words_eq {word : String} (unbroken : Unbroken word) : words word = [word] := by
  rw [words, wordsFrom_of_unbroken unbroken.2 (.inr unbroken.1)]
  simp

theorem IsSimple.words_eq {word : String} (simple : IsSimple word) : words word = [word] := simple.unbroken.words_eq

theorem words_of_unbroken {texts : List String} (all : ∀ word ∈ texts, Unbroken word) :
    words (" ".intercalate texts) = texts := by
  rw [words_intercalate]
  induction texts with
  | nil => rfl
  | cons text rest ih =>
    obtain ⟨here, later⟩ := List.forall_mem_cons.mp all
    rw [List.flatMap_cons, here.words_eq, ih later, List.singleton_append]

theorem unbroken_of_mem_words {text word : String} (member : word ∈ words text) : Unbroken word := by
  have parts {word : List Char} (chars : List Char) (unbroken : ∀ c ∈ word, isBlank c = false) :
      ∀ part ∈ wordsFrom word chars, part ≠ [] ∧ ∀ c ∈ part, isBlank c = false := by
    induction chars generalizing word with
    | nil =>
      rw [wordsFrom]
      split
      next => exact fun _ member => absurd member List.not_mem_nil
      next filled =>
        refine List.forall_mem_singleton.mpr ⟨?_, fun c member => unbroken c (List.mem_reverse.mp member)⟩
        simpa using filled
    | cons c rest ih =>
      rw [wordsFrom]
      split
      next =>
        have later : ∀ part ∈ wordsFrom [] rest, part ≠ [] ∧ ∀ c ∈ part, isBlank c = false :=
          ih fun _ member => absurd member List.not_mem_nil
        split
        next => exact later
        next filled =>
          refine List.forall_mem_cons.mpr ⟨⟨?_, fun c member => unbroken c (List.mem_reverse.mp member)⟩, later⟩
          simpa using filled
      next solid => exact ih (List.forall_mem_cons.mpr ⟨by simpa using solid, unbroken⟩)
  obtain ⟨part, listed, rfl⟩ := List.mem_map.mp member
  rw [Unbroken, String.toList_ofList]
  exact parts text.toList (fun _ member => absurd member List.not_mem_nil) part listed

theorem lowerChar_of_plain {c : Char} (plain : isSimpleChar c = true ∨ c = ' ') : lowerChar c = [c] := by
  have small : c.toNat < 0x80 := by
    rcases plain with plain | rfl
    · rw [isSimpleChar_iff] at plain
      omega
    · decide
  have lower : c.toLower = c := by
    rcases plain with plain | rfl
    · rw [isSimpleChar_iff] at plain
      refine dif_neg fun upper => ?_
      simp [UInt32.le_iff_toNat_le] at upper
      omega
    · decide
  rw [lowerChar, if_pos small, lower]

theorem lowerFrom_of_plain {before chars : List Char} (plain : ∀ c ∈ chars, isSimpleChar c = true ∨ c = ' ') :
    lowerFrom before chars = chars := by
  induction chars generalizing before with
  | nil => rfl
  | cons c rest ih =>
    obtain ⟨here, later⟩ := List.forall_mem_cons.mp plain
    have ordinary : c ≠ 'Σ' := by
      rintro rfl
      revert here
      decide
    rw [lowerFrom, if_neg ordinary, lowerChar_of_plain here, ih later, List.singleton_append]

theorem lowercase_of_words {texts : List String} (all : ∀ word ∈ texts, IsSimple word) :
    lowercase (" ".intercalate texts) = " ".intercalate texts := by
  have plain : ∀ c ∈ (" ".intercalate texts).toList, isSimpleChar c = true ∨ c = ' ' := by
    induction texts with
    | nil => simp
    | cons text rest ih =>
      obtain ⟨here, later⟩ := List.forall_mem_cons.mp all
      cases rest with
      | nil => simpa using fun c member => .inl (here.2 c member)
      | cons next rest =>
        intro c member
        rw [String.intercalate_cons_cons, String.toList_append, String.toList_append, List.mem_append,
          List.mem_append] at member
        rcases member with (inside | blank) | after
        · exact .inl (here.2 c inside)
        · exact .inr (by simpa using blank)
        · exact ih later c after
  rw [lowercase, lowerFrom_of_plain plain, String.ofList_toList]

theorem words_of_words {texts : List String} (all : ∀ word ∈ texts, IsSimple word) :
    words (" ".intercalate texts) = texts :=
  words_of_unbroken fun word member => (all word member).unbroken

/-- A name of simple words with a blank between each two, where no word is among those kept for other use. -/
structure Spoken (kept : List String) (name : String) : Prop where
  nonempty : words name ≠ []
  simple : ∀ word ∈ words name, IsSimple word
  free : ∀ word ∈ words name, word ∉ kept
  spaced : " ".intercalate (words name) = name

theorem spoken_of_words {kept texts : List String} (some : texts ≠ []) (simple : ∀ word ∈ texts, IsSimple word)
    (free : ∀ word ∈ texts, word ∉ kept) : Spoken kept (" ".intercalate texts) := by
  have same := words_of_words simple
  exact ⟨by rwa [same], by rwa [same], by rwa [same], by rw [same]⟩

theorem Spoken.eq_of_words {kept : List String} {name other : String} (first : Spoken kept name)
    (second : Spoken kept other) (same : words name = words other) : name = other := by
  rw [← first.spaced, same, second.spaced]

end Text

namespace Session

open Text

/-- Words in small letters are left as they are. -/
theorem words_normalized {command : String} (all : ∀ word ∈ words command, IsSimple word) :
    words (normalized command) = words command := by
  rw [normalized, lowercase_of_words all, words_of_words all]

theorem normalized_normalized {command : String} (all : ∀ word ∈ words command, IsSimple word) :
    normalized (normalized command) = normalized command := by
  have same := words_normalized all
  rw [normalized, same, ← normalized]

end Session

end Adventure
