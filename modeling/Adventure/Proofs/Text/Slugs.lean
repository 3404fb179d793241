import Adventure.Proofs.Ron.Spelling
import Adventure.Proofs.Text.Casing
import Adventure.Text.Slug

namespace Adventure.Text

section Trimming

variable {p : Char → Bool} {chars : List Char} {c : Char}

theorem head?_dropWhile (kept : c ∈ (chars.dropWhile p).head?) : p c = false := by
  have stops := List.head?_dropWhile_not p chars
  rwa [Option.mem_def.mp kept] at stops

theorem dropWhile_of_head? (first : ∀ c ∈ chars.head?, p c = false) : chars.dropWhile p = chars := by
  cases chars with
  | nil => rfl
  | cons c rest => exact List.dropWhile_cons_of_neg (by simp [first c rfl])

theorem trimList_isPrefix (p : Char → Bool) (chars : List Char) : trimList p chars <+: chars.dropWhile p := by
  have shorter : (chars.dropWhile p).reverse.dropWhile p <:+ (chars.dropWhile p).reverse := List.dropWhile_suffix p
  rwa [← List.reverse_prefix, List.reverse_reverse] at shorter

theorem mem_of_mem_trimList (member : c ∈ trimList p chars) : c ∈ chars :=
  (List.dropWhile_suffix p).subset ((trimList_isPrefix p chars).subset member)

theorem head?_trimList (first : c ∈ (trimList p chars).head?) : p c = false := by
  obtain ⟨rest, start⟩ := trimList_isPrefix p chars
  have same : c ∈ (chars.dropWhile p).head? := by
    rw [← start, List.head?_append, Option.mem_def.mp first]
    rfl
  exact head?_dropWhile same

theorem getLast?_trimList (last : c ∈ (trimList p chars).getLast?) : p c = false := by
  rw [trimList, List.getLast?_reverse] at last
  exact head?_dropWhile last

/-- A list is left as it is if it neither starts nor ends with what is trimmed. -/
theorem trimList_of_ends (first : ∀ c ∈ chars.head?, p c = false) (last : ∀ c ∈ chars.getLast?, p c = false) :
    trimList p chars = chars := by
  rw [← List.head?_reverse] at last
  rw [trimList, dropWhile_of_head? first, dropWhile_of_head? last, List.reverse_reverse]

end Trimming

section Characters

variable {c : Char}

theorem isAlphanumeric_iff : isAlphanumeric c = true ↔ isSimpleChar c = true ∨ 65 ≤ c.toNat ∧ c.toNat ≤ 90 := by
  rw [isAlphanumeric, Bool.or_eq_true, Ron.Token.isAlpha_iff_toNat, Char.isDigit_iff_toNat, isSimpleChar_iff,
    show '0'.toNat = 48 from rfl, show '9'.toNat = 57 from rfl]
  omega

theorem toLower_of_simple (simple : isSimpleChar c = true) : c.toLower = c := by
  rw [isSimpleChar_iff] at simple
  rw [toLower_eq, if_neg (by omega)]

theorem isSimpleChar_toLower (letter : isAlphanumeric c = true) : isSimpleChar c.toLower = true := by
  rcases isAlphanumeric_iff.mp letter with simple | capital
  · rwa [toLower_of_simple simple]
  · rw [isSimpleChar_iff, toLower_eq, if_pos capital, toNat_ofNat_of_valid (.inl (by omega))]
    omega

theorem isJoiner_iff : isJoiner c = true ↔ c = '-' ∨ c = '_' := by
  rw [isJoiner, Bool.or_eq_true, beq_iff_eq, beq_iff_eq]

theorem not_isAlphanumeric_of_joiner (joiner : isJoiner c = true) : isAlphanumeric c = false := by
  rcases isJoiner_iff.mp joiner with rfl | rfl <;> decide

theorem not_isJoiner_of_simple (simple : isSimpleChar c = true) : isJoiner c = false := by
  refine Bool.eq_false_iff.mpr fun joiner => ?_
  rcases isJoiner_iff.mp joiner with rfl | rfl <;> revert simple <;> decide

end Characters

/-- Small letters, digits and joiners, with a letter or a digit at either end. -/
structure IsSlug (chars : List Char) : Prop where
  filled : chars ≠ []
  plain : ∀ c ∈ chars, isSimpleChar c = true ∨ isJoiner c = true
  first : ∀ c ∈ chars.head?, isSimpleChar c = true
  last : ∀ c ∈ chars.getLast?, isSimpleChar c = true

instance (chars : List Char) : Decidable (IsSlug chars) :=
  decidable_of_iff (chars ≠ [] ∧ chars.all (fun c => isSimpleChar c || isJoiner c) = true ∧
      chars.head?.all isSimpleChar = true ∧ chars.getLast?.all isSimpleChar = true) <| by
    simp only [List.all_eq_true, Bool.or_eq_true, Option.all_eq_true]
    exact ⟨fun ⟨filled, plain, first, last⟩ => ⟨filled, plain, first, last⟩,
      fun slug => ⟨slug.filled, slug.plain, slug.first, slug.last⟩⟩

variable {begun gap : Bool} {chars : List Char} {text : String}

theorem plain_of_mem_slugFrom : ∀ c ∈ slugFrom begun gap chars, isSimpleChar c = true ∨ isJoiner c = true := by
  fun_induction slugFrom begun gap chars with
  | case1 => exact fun _ member => absurd member List.not_mem_nil
  | case2 begun gap c rest letter _ ih =>
    exact List.forall_mem_cons.mpr ⟨.inr rfl, List.forall_mem_cons.mpr ⟨.inl (isSimpleChar_toLower letter), ih⟩⟩
  | case3 begun gap c rest letter _ ih => exact List.forall_mem_cons.mpr ⟨.inl (isSimpleChar_toLower letter), ih⟩
  | case4 gap c rest _ joiner ih => exact List.forall_mem_cons.mpr ⟨.inr joiner, ih⟩
  | case5 begun gap c rest _ _ _ ih => exact ih
  | case6 begun gap c rest _ _ ih => exact ih

theorem slugFrom_of_plain (plain : ∀ c ∈ chars, isSimpleChar c = true ∨ isJoiner c = true) :
    slugFrom true false chars = chars := by
  induction chars with
  | nil => rfl
  | cons c rest ih =>
    obtain ⟨here, later⟩ := List.forall_mem_cons.mp plain
    rw [slugFrom]
    rcases here with simple | joiner
    · rw [if_pos (isAlphanumeric_iff.mpr (.inl simple)), if_neg (by decide), toLower_of_simple simple, ih later]
    · rw [if_neg (by simp [not_isAlphanumeric_of_joiner joiner]), if_pos joiner, if_pos rfl, ih later]

/-- What is trimmed are the joiners, so that letters and digits are at the ends. -/
theorem isSlug_trimList (plain : ∀ c ∈ chars, isSimpleChar c = true ∨ isJoiner c = true)
    (filled : trimList isJoiner chars ≠ []) : IsSlug (trimList isJoiner chars) where
  filled := filled
  plain c member := plain c (mem_of_mem_trimList member)
  first c first := by
    refine (plain c (mem_of_mem_trimList (List.mem_of_mem_head? first))).resolve_right ?_
    simp [head?_trimList first]
  last c last := by
    refine (plain c (mem_of_mem_trimList (List.mem_of_mem_getLast? last))).resolve_right ?_
    simp [getLast?_trimList last]

theorem isSlug_slug (text : String) : IsSlug (slug text).toList := by
  rw [slug]
  split
  next => decide
  next filled =>
    rw [String.toList_ofList]
    exact isSlug_trimList plain_of_mem_slugFrom filled

theorem IsSlug.slugFrom_eq (slug : IsSlug chars) : slugFrom false gap chars = chars := by
  cases chars with
  | nil => rfl
  | cons c rest =>
    have simple := slug.first c rfl
    have plain := (List.forall_mem_cons.mp slug.plain).2
    rw [slugFrom, if_pos (isAlphanumeric_iff.mpr (.inl simple)), if_neg (by simp), toLower_of_simple simple,
      slugFrom_of_plain plain]

theorem IsSlug.trimList_eq (slug : IsSlug chars) : trimList isJoiner chars = chars :=
  trimList_of_ends (fun c first => not_isJoiner_of_simple (slug.first c first))
    fun c last => not_isJoiner_of_simple (slug.last c last)

/-- The texts that are safe as they are. -/
theorem slug_eq_self_iff : slug text = text ↔ IsSlug text.toList := by
  refine ⟨fun same => same ▸ isSlug_slug text, fun safe => ?_⟩
  rw [slug, safe.slugFrom_eq, safe.trimList_eq]
  split
  next empty => exact absurd empty safe.filled
  next => exact String.ofList_toList

end Adventure.Text
