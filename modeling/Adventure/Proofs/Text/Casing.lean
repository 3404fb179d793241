import Adventure.Proofs.Text.Words

namespace Adventure

namespace Text

namespace CaseRun

variable {run other : CaseRun} {code low high : Nat}

/-- The lower-case forms of a run lie outside a range. -/
def avoids (run : CaseRun) (low high : Nat) : Bool :=
  Nat.blt (run.last + run.shift.toNat) (low + (-run.shift).toNat) ||
    Nat.blt (high + (-run.shift).toNat) (run.first + run.shift.toNat)

/-- No lower-case form of a run is in another one: they lie outside of it, or in the gaps between its characters. -/
def misses (run other : CaseRun) : Bool :=
  run.avoids other.first other.last || (Nat.beq other.step 2 && (Nat.beq run.step 2 || Nat.beq run.first run.last) &&
    Nat.beq ((run.first + run.shift.toNat + (-run.shift).toNat + other.first) % 2) 1)

/-- The lower-case forms of a run are within the codes of characters. -/
def bounded (run : CaseRun) : Bool :=
  Nat.ble (-run.shift).toNat (run.first + run.shift.toNat) && Nat.blt (run.last + run.shift.toNat) 0x110000

theorem outside_of_avoids (avoids : run.avoids low high = true) (holds : run.holds code = true) :
    code + run.shift < low ∨ high < code + run.shift := by
  simp only [CaseRun.avoids, CaseRun.holds, Bool.or_eq_true, Bool.and_eq_true, decide_eq_true_eq, Nat.blt_eq]
    at avoids holds
  omega

theorem range_of_bounded (bounded : run.bounded = true) (holds : run.holds code = true) :
    0 ≤ code + run.shift ∧ code + run.shift < 0x110000 := by
  simp only [CaseRun.bounded, CaseRun.holds, Bool.and_eq_true, decide_eq_true_eq, Nat.blt_eq, Nat.ble_eq]
    at bounded holds
  omega

theorem holds_of_misses (misses : run.misses other = true) (holds : run.holds code = true) :
    other.holds (code + run.shift) = false := by
  rw [CaseRun.misses, Bool.or_eq_true] at misses
  refine Bool.eq_false_iff.mpr fun also => ?_
  rcases misses with avoids | gaps
  · have outside := outside_of_avoids avoids holds
    simp only [CaseRun.holds, Bool.and_eq_true, decide_eq_true_eq] at also
    omega
  · simp only [Bool.and_eq_true, Bool.or_eq_true, Nat.beq_eq] at gaps
    simp only [CaseRun.holds, Bool.and_eq_true, decide_eq_true_eq, beq_iff_eq] at holds also
    obtain ⟨⟨two, steps⟩, odd⟩ := gaps
    rw [two] at also
    rcases steps with same | single
    · rw [same] at holds
      omega
    · omega

end CaseRun

/-- The codes of blanks and of the letter with a lower-case form of two characters, and codes of no characters. -/
def reserved : List (Nat × Nat) :=
  [(0x9, 0xD), (0x20, 0x20), (0x85, 0x85), (0xA0, 0xA0), (0x130, 0x130), (0x1680, 0x1680), (0x2000, 0x200A),
    (0x2028, 0x2029), (0x202F, 0x202F), (0x205F, 0x205F), (0x3000, 0x3000), (0xD800, 0xDFFF)]

theorem caseRuns_avoid : (caseRuns.all fun run => reserved.all fun range => run.avoids range.1 range.2) = true := by
  decide +kernel

theorem caseRuns_bounded : caseRuns.all CaseRun.bounded = true := by decide +kernel

theorem caseRuns_miss : (caseRuns.all fun run => caseRuns.all run.misses) = true := by decide +kernel

/-- Only the run of the capitals from A to Z has characters of seven bits. -/
theorem caseRuns_tail : (caseRuns.tail.all fun run => Nat.ble 0x80 run.first) = true := by decide +kernel

/-- A character that is not turned into another one. -/
def Settled (c : Char) : Prop := c ≠ 'İ' ∧ ∀ run ∈ caseRuns, run.holds c.toNat = false

instance (c : Char) : Decidable (Settled c) := inferInstanceAs (Decidable (_ ∧ _))

variable {c d : Char} {before chars : List Char} {run : CaseRun}

theorem toNat_ofNat_of_valid {code : Nat} (valid : code.isValidChar) : (Char.ofNat code).toNat = code := by
  rw [Char.ofNat, dif_pos valid]
  rfl

theorem toLower_eq (c : Char) :
    c.toLower = if 0x41 ≤ c.toNat ∧ c.toNat ≤ 0x5A then Char.ofNat (c.toNat + 32) else c := by
  have capital : (c.val ≥ 'A'.val ∧ c.val ≤ 'Z'.val) ↔ 0x41 ≤ c.toNat ∧ c.toNat ≤ 0x5A := by
    simp [UInt32.le_iff_toNat_le]
  by_cases large : c.val ≥ 'A'.val ∧ c.val ≤ 'Z'.val
  · obtain ⟨low, high⟩ := capital.mp large
    have shifted : c.toLower.val = c.val + 32 := congrArg Char.val (dif_pos large)
    rw [if_pos ⟨low, high⟩, ← Char.toNat_inj, toNat_ofNat_of_valid (.inl (by omega)), ← Char.toNat_val, shifted,
      UInt32.toNat_add]
    exact Nat.mod_eq_of_lt (Nat.lt_of_le_of_lt (Nat.add_le_add_right high 32) (by decide))
  · rw [if_neg (mt capital.mpr large)]
    exact dif_neg large

theorem Settled.ne_sigma (settled : Settled c) : c ≠ 'Σ' := by
  rintro rfl
  revert settled
  decide

theorem Settled.lowerChar (settled : Settled c) : lowerChar c = [c] := by
  rw [Text.lowerChar]
  split
  next =>
    have small := settled.2 ⟨0x41, 0x5A, 1, 32⟩ List.mem_cons_self
    rw [toLower_eq, if_neg fun capital => by simp [CaseRun.holds] at small; omega]
  next =>
    rw [if_neg settled.1, List.find?_eq_none.mpr fun run member => by simp [settled.2 run member]]

/-- A character in a run is shifted. -/
theorem lowerChar_of_run (special : c ≠ 'İ') (found : caseRuns.find? (·.holds c.toNat) = some run) :
    lowerChar c = [Char.ofNat (c.toNat + run.shift).toNat] := by
  rw [Text.lowerChar]
  split
  next small =>
    have holds := List.find?_some found
    rcases List.mem_cons.mp (List.mem_of_find?_eq_some found) with rfl | later
    · simp only [CaseRun.holds, Bool.and_eq_true, decide_eq_true_eq] at holds
      rw [toLower_eq, if_pos (by omega)]
      rfl
    · have large := List.all_eq_true.mp caseRuns_tail run later
      simp only [CaseRun.holds, Bool.and_eq_true, decide_eq_true_eq, Nat.ble_eq] at holds large
      omega
  next => rw [found]

/-- The lower-case form of a character is settled, and it is no blank if the character is none. -/
theorem settled_of_mem_lowerChar (member : d ∈ lowerChar c) :
    Settled d ∧ (isBlank c = false → isBlank d = false) := by
  by_cases special : c = 'İ'
  · subst special
    have forms : lowerChar 'İ' = ['i', '\u0307'] := by decide
    rw [forms, List.mem_cons, List.mem_singleton] at member
    rcases member with rfl | rfl <;> exact ⟨by decide +kernel, fun _ => by decide⟩
  cases found : caseRuns.find? (·.holds c.toNat) with
  | none =>
    have settled : Settled c := ⟨special, by simpa using List.find?_eq_none.mp found⟩
    rw [settled.lowerChar, List.mem_singleton] at member
    subst member
    exact ⟨settled, fun solid => solid⟩
  | some run =>
    rw [lowerChar_of_run special found, List.mem_singleton] at member
    have holds := List.find?_some found
    have listed := List.mem_of_find?_eq_some found
    obtain ⟨low, high⟩ := CaseRun.range_of_bounded (List.all_eq_true.mp caseRuns_bounded run listed) holds
    have avoids := List.all_eq_true.mp (List.all_eq_true.mp caseRuns_avoid run listed)
    have outside (range : Nat × Nat) (kept : range ∈ reserved) : c.toNat + run.shift < range.1 ∨ _ :=
      CaseRun.outside_of_avoids (avoids range kept) holds
    simp only [reserved, List.forall_mem_cons] at outside
    have valid : (c.toNat + run.shift).toNat.isValidChar := by
      rw [Nat.isValidChar]
      omega
    have code : (d.toNat : Int) = c.toNat + run.shift := by
      rw [member, toNat_ofNat_of_valid valid]
      omega
    refine ⟨⟨?_, fun other also => ?_⟩, fun _ => ?_⟩
    · rintro rfl
      have : 'İ'.toNat = 0x130 := by decide
      omega
    · rw [code]
      have misses := List.all_eq_true.mp (List.all_eq_true.mp caseRuns_miss run listed) other also
      exact CaseRun.holds_of_misses misses holds
    · simp only [isBlank, Bool.or_eq_false_iff, Bool.and_eq_false_iff, decide_eq_false_iff_not, beq_eq_false_iff_ne]
      omega

theorem lowerChar_ne_nil (c : Char) : lowerChar c ≠ [] := by
  rw [lowerChar]
  split
  next => exact List.cons_ne_nil _ _
  next =>
    split
    next => exact List.cons_ne_nil _ _
    next => split <;> exact List.cons_ne_nil _ _

/-- A character at its place in a text has a lower-case form, which is settled. -/
theorem exists_lowerFrom_cons (before : List Char) (c : Char) (rest : List Char) :
    ∃ form, lowerFrom before (c :: rest) = form ++ lowerFrom (c :: before) rest ∧ form ≠ [] ∧
      ∀ d ∈ form, Settled d ∧ (isBlank c = false → isBlank d = false) := by
  rw [lowerFrom]
  split
  next =>
    refine ⟨[_], rfl, List.cons_ne_nil _ _, List.forall_mem_singleton.mpr ?_⟩
    split <;> exact ⟨by decide +kernel, fun _ => by decide⟩
  next => exact ⟨lowerChar c, rfl, lowerChar_ne_nil c, fun d => settled_of_mem_lowerChar⟩

theorem settled_of_mem_lowerFrom (member : d ∈ lowerFrom before chars) : Settled d := by
  induction chars generalizing before with
  | nil => exact absurd member List.not_mem_nil
  | cons c rest ih =>
    obtain ⟨form, split, -, settled⟩ := exists_lowerFrom_cons before c rest
    rw [split] at member
    exact (List.mem_append.mp member).elim (fun here => (settled d here).1) ih

theorem lowerFrom_of_settled (settled : ∀ c ∈ chars, Settled c) : lowerFrom before chars = chars := by
  induction chars generalizing before with
  | nil => rfl
  | cons c rest ih =>
    obtain ⟨here, later⟩ := List.forall_mem_cons.mp settled
    rw [lowerFrom, if_neg here.ne_sigma, here.lowerChar, ih later, List.singleton_append]

/-- What is in lower case stays as it is. -/
theorem lowercase_lowercase (text : String) : lowercase (lowercase text) = lowercase text := by
  rw [lowercase, lowerFrom_of_settled, String.ofList_toList]
  intro c member
  rw [lowercase, String.toList_ofList] at member
  exact settled_of_mem_lowerFrom member

/-- The characters of a word have lower-case forms that make a word, whatever stands around it. -/
theorem exists_lowerFrom_append {word : List Char} (filled : word ≠ []) (solid : ∀ c ∈ word, isBlank c = false)
    (before rest : List Char) : ∃ lowered, lowered ≠ [] ∧ (∀ c ∈ lowered, isBlank c = false) ∧
      lowerFrom before (word ++ rest) = lowered ++ lowerFrom (word.reverse ++ before) rest := by
  induction word generalizing before with
  | nil => exact absurd rfl filled
  | cons c word ih =>
    obtain ⟨here, later⟩ := List.forall_mem_cons.mp solid
    obtain ⟨form, split, some, settled⟩ := exists_lowerFrom_cons before c (word ++ rest)
    rw [List.cons_append, split]
    by_cases single : word = []
    · subst single
      exact ⟨form, some, fun d member => (settled d member).2 here, rfl⟩
    · obtain ⟨lowered, -, solid, same⟩ := ih single later (c :: before)
      refine ⟨form ++ lowered, by simp [some], fun d member => ?_, ?_⟩
      · exact (List.mem_append.mp member).elim (fun here' => (settled d here').2 here) (solid d)
      · rw [same, List.append_assoc, List.reverse_cons, List.append_assoc, List.singleton_append]

/-- Words with single blanks between them are turned into as many such words. -/
theorem exists_lowerFrom_intercalate {texts : List String} (all : ∀ word ∈ texts, Unbroken word)
    (before : List Char) : ∃ lowered : List String, (∀ word ∈ lowered, Unbroken word) ∧
      lowered.length = texts.length ∧
      lowerFrom before (" ".intercalate texts).toList = (" ".intercalate lowered).toList := by
  induction texts generalizing before with
  | nil => exact ⟨[], fun _ member => absurd member List.not_mem_nil, rfl, by simp [lowerFrom]⟩
  | cons text rest ih =>
    obtain ⟨⟨filled, solid⟩, later⟩ := List.forall_mem_cons.mp all
    cases rest with
    | nil =>
      obtain ⟨word, filled, solid, same⟩ := exists_lowerFrom_append filled solid before []
      have unbroken : Unbroken (String.ofList word) := ⟨by simpa using filled, by simpa using solid⟩
      refine ⟨[String.ofList word], List.forall_mem_singleton.mpr unbroken, rfl, ?_⟩
      rw [String.intercalate_singleton, String.intercalate_singleton, String.toList_ofList]
      simpa [lowerFrom] using same
    | cons next rest =>
      obtain ⟨word, filled, solid, same⟩ := exists_lowerFrom_append filled solid before
        (' ' :: (" ".intercalate (next :: rest)).toList)
      obtain ⟨lowered, words, length, also⟩ := ih later (' ' :: (text.toList.reverse ++ before))
      have unbroken : Unbroken (String.ofList word) := ⟨by simpa using filled, by simpa using solid⟩
      have blank : lowerFrom (text.toList.reverse ++ before) (' ' :: (" ".intercalate (next :: rest)).toList) =
          ' ' :: (" ".intercalate lowered).toList := by
        rw [lowerFrom, if_neg (by decide), lowerChar_of_plain (.inr rfl), also, List.singleton_append]
      refine ⟨String.ofList word :: lowered, List.forall_mem_cons.mpr ⟨unbroken, words⟩, by simp [length], ?_⟩
      obtain ⟨second, others, rfl⟩ := List.exists_cons_of_length_eq_add_one length
      rw [blank] at same
      simpa [String.intercalate_cons_cons] using same

end Text

namespace Session

open Text

/-- A command without regard to case and spacing is such a command itself. -/
theorem normalized_idem (command : String) : normalized (normalized command) = normalized command := by
  obtain ⟨lowered, unbroken, -, same⟩ :=
    exists_lowerFrom_intercalate (fun word (member : word ∈ words command) => unbroken_of_mem_words member) []
  have spaced : normalized command = " ".intercalate lowered := by
    rw [normalized, lowercase, same, String.ofList_toList]
  rw [normalized, spaced, words_of_unbroken unbroken, ← spaced, normalized, lowercase_lowercase]

end Session

end Adventure
