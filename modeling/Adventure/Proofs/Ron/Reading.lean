import Adventure.Proofs.Ron.Spelling
import Adventure.Ron.Reader

namespace Adventure.Ron

open Token

/-- Parts between two marks, each with a comma after it. -/
def enclosed (opening closing : Char) (parts : List (List Token)) : List Token :=
  .mark opening :: (parts.flatMap fun part => part ++ [.mark ',']) ++ [.mark closing]

mutual

/-- The tokens with which a plain value is written. -/
def tokens : Ron → List Token
  | .text value => [.text value]
  | .flag value => [.word (if value then "true" else "false")]
  | .integer value kind => [.number (.integer value kind)]
  | .option none => [.word "None"]
  | .option (some value) => .word "Some" :: .mark '(' :: tokens value ++ [.mark ')']
  | .list items => enclosed '[' ']' (itemTokens items)
  | .record _ fields => enclosed '(' ')' (fieldTokens fields)
  | _ => []

def itemTokens : List Ron → List (List Token)
  | [] => []
  | item :: rest => tokens item :: itemTokens rest

def fieldTokens : List (String × Ron) → List (List Token)
  | [] => []
  | (field, value) :: rest => (.word field :: .mark ':' :: tokens value) :: fieldTokens rest

end

/-- A value as records without names are written: texts, flags, numbers of 64 bits, options, lists and fields. It can be
read where values may be nested to a depth. -/
inductive Plain : (depth : Nat) → Ron → Prop
  | text {depth : Nat} (value : String) : Plain depth (.text value)
  | flag {depth : Nat} (value : Bool) : Plain depth (.flag value)
  | number {depth n : Nat} : n < Nat.pow 2 64 → Plain depth (.integer n none)
  | absent {depth : Nat} : Plain depth (.option none)
  | present {depth : Nat} {value : Ron} : Plain depth value → Plain (depth + 1) (.option (some value))
  | list {depth : Nat} {items : List Ron} : (∀ item ∈ items, Plain depth item) → Plain (depth + 2) (.list items)
  | record {depth : Nat} {fields : List (String × Ron)} : fields ≠ [] →
      (∀ field ∈ fields, isName field.1 = true) → (∀ field ∈ fields, Plain depth field.2) →
      Plain (depth + 2) (.record none fields)

section Text

/-- A text is read as some tokens, wherever it stands with an end after it. -/
def Spelt (text : String) (tokens : List Token) : Prop :=
  ∀ ⦃rest more⦄, Ends rest → Spells rest more → Spells (text.toList ++ rest) (tokens ++ more)

theorem renderItems_eq (depth : Nat) (items : List Ron) : renderItems depth items = items.map (render (depth + 1)) := by
  induction items with
  | nil => rfl
  | cons item rest ih => rw [renderItems, ih, List.map_cons]

theorem renderFields_eq (depth : Nat) (fields : List (String × Ron)) :
    renderFields depth fields = fields.map fun field => field.1 ++ ": " ++ render (depth + 1) field.2 := by
  induction fields with
  | nil => rfl
  | cons field rest ih => rw [renderFields, ih, List.map_cons]

theorem itemTokens_eq (items : List Ron) : itemTokens items = items.map tokens := by
  induction items with
  | nil => rfl
  | cons item rest ih => rw [itemTokens, ih, List.map_cons]

theorem fieldTokens_eq (fields : List (String × Ron)) :
    fieldTokens fields = fields.map fun field => .word field.1 :: .mark ':' :: tokens field.2 := by
  induction fields with
  | nil => rfl
  | cons field rest ih => rw [fieldTokens, ih, List.map_cons]

theorem spells_margin {rest : List Char} {more : List Token} (depth : Nat) (spells : Spells rest more) :
    Spells ((margin depth).toList ++ rest) more := by
  rw [margin, String.toList_ofList]
  induction 4 * depth with
  | zero => exact spells
  | succ count ih => exact .space (by decide) ih

/-- Parts on lines of their own are read one after another. -/
theorem spells_lines {α : Type} {text : α → String} {tokens : α → List Token} {xs : List α}
    (spelt : ∀ x ∈ xs, Spelt (text x) (tokens x)) (depth : Nat) {rest : List Char} {more : List Token}
    (spells : Spells rest more) :
    Spells ((xs.flatMap fun x => (margin depth ++ text x ++ ",\n").toList) ++ rest)
      ((xs.flatMap fun x => tokens x ++ [.mark ',']) ++ more) := by
  induction xs with
  | nil => exact spells
  | cons x xs ih =>
    obtain ⟨here, others⟩ := List.forall_mem_cons.mp spelt
    have next := Spells.mark (c := ',') (by decide) (.space (c := '\n') (by decide) (ih others))
    have line := spells_margin depth (here (ends_cons (by decide)) next)
    simpa using line

theorem Spelt.block {α : Type} {text : α → String} {tokens : α → List Token} {xs : List α}
    (spelt : ∀ x ∈ xs, Spelt (text x) (tokens x)) (depth : Nat) {opening closing : String} {a b : Char}
    (opens : opening.toList = [a]) (closes : closing.toList = [b]) (left : a ∈ ['(', ')', '[', ']', ',', ':'])
    (right : b ∈ ['(', ')', '[', ']', ',', ':']) :
    Spelt (block depth opening closing (xs.map text)) (enclosed a b (xs.map tokens)) := by
  intro rest more ends spells
  have last := spells.mark right
  cases xs with
  | nil =>
    have both := last.mark left
    simpa [Ron.block, enclosed, opens, closes] using both
  | cons x xs =>
    have lines := spells_lines spelt (depth + 1) (spells_margin depth last)
    have all := Spells.mark left (.space (c := '\n') (by decide) lines)
    simpa [Ron.block, enclosed, opens, closes, List.flatMap_map] using all

theorem Spelt.word {name : String} (fits : isName name = true) : Spelt name [.word name] :=
  fun _ _ ends spells => spells.word fits ends

theorem Spelt.field {name text : String} {tokens : List Token} (fits : isName name = true)
    (spelt : Spelt text tokens) : Spelt (name ++ ": " ++ text) (.word name :: .mark ':' :: tokens) := by
  intro rest more ends spells
  have value := Spells.mark (c := ':') (by decide) (.space (c := ' ') (by decide) (spelt ends spells))
  simpa using value.word fits (ends_cons (by decide))

theorem Spelt.present {text : String} {tokens : List Token} (spelt : Spelt text tokens) :
    Spelt ("Some(" ++ text ++ ")") (.word "Some" :: .mark '(' :: tokens ++ [.mark ')']) := by
  intro rest more ends spells
  have closed := spelt (ends_cons (by decide)) (spells.mark (c := ')') (by decide))
  have opened := (closed.mark (c := '(') (by decide)).word (show isName "Some" = true by decide) (ends_cons (by decide))
  simpa using opened

/-- The text of a plain value is read as its tokens, however far it is indented. -/
theorem Plain.spelt {depth : Nat} {value : Ron} (plain : Plain depth value) (indent : Nat) :
    Spelt (render indent value) value.tokens := by
  induction plain generalizing indent with
  | text value =>
    intro rest more _ spells
    rw [render, tokens]
    exact spells.text
  | flag value =>
    rw [render, tokens]
    cases value
    · exact Spelt.word (by decide)
    · exact Spelt.word (by decide)
  | @number depth n fits =>
    intro rest more ends spells
    have digits : (render indent (.integer n none)).toList = Nat.toDigits 10 n := by
      rw [render, Option.elim_none, String.append_empty]
      exact Nat.toList_repr
    rw [digits, tokens]
    exact spells.number fits ends
  | absent =>
    rw [render, tokens]
    exact Spelt.word (by decide)
  | present _ ih =>
    rw [render, tokens]
    exact (ih indent).present
  | list _ ih =>
    rw [render, tokens, renderItems_eq, itemTokens_eq]
    exact Spelt.block (fun item member => ih item member (indent + 1)) indent rfl rfl (by decide) (by decide)
  | record _ named _ ih =>
    rw [render, tokens, renderFields_eq, fieldTokens_eq]
    exact Spelt.block (fun field member => (ih field member (indent + 1)).field (named field member)) indent rfl rfl
      (by decide) (by decide)

end Text

section Value

variable {depth fuel : Nat} {rest : List Token}

/-- No value starts with a closing mark. -/
theorem Plain.head_tokens {value : Ron} (plain : Plain depth value) :
    ∃ first others, value.tokens = first :: others ∧ first ≠ .mark ']' := by
  cases plain with
  | _ => exact ⟨_, _, by rw [tokens] <;> rfl, by simp⟩

/-- Each item of a list takes one unit of fuel, and a comma at least. -/
theorem items?_reads {items : List Ron} (plain : ∀ item ∈ items, Plain depth item)
    (read : ∀ item ∈ items, ∀ {fuel rest}, 2 * item.tokens.length ≤ fuel →
      value? Rules.usual fuel depth (item.tokens ++ rest) = some (item, rest))
    (enough : 2 * ((items.map tokens).flatMap fun part => part ++ [.mark ',']).length < fuel) :
    items? Rules.usual fuel (depth + 2) ']'
      (((items.map tokens).flatMap fun part => part ++ [.mark ',']) ++ .mark ']' :: rest) = some (items, rest) := by
  induction items generalizing fuel with
  | nil =>
    obtain ⟨fuel, rfl⟩ := exists_fuel_of_lt enough
    simp [items?]
  | cons item items ih =>
    obtain ⟨fuel, rfl⟩ := exists_fuel_of_lt enough
    obtain ⟨plainItem, plainItems⟩ := List.forall_mem_cons.mp plain
    obtain ⟨readItem, readItems⟩ := List.forall_mem_cons.mp read
    obtain ⟨first, others, start, different⟩ := plainItem.head_tokens
    simp only [List.map_cons, List.flatMap_cons, List.append_assoc, List.singleton_append, List.length_append,
      List.length_cons] at enough ⊢
    have here := @readItem fuel (.mark ',' :: (((items.map tokens).flatMap fun part => part ++ [.mark ',']) ++
      .mark ']' :: rest)) (by omega)
    have later : items? Rules.usual fuel (depth + 2) ']' _ = some (items, rest) := ih plainItems readItems (by omega)
    rw [items?, if_neg (by simp [start, different]), if_neg (by omega)]
    simp [here, afterItem?, later]

theorem members?_reads {fields : List (String × Ron)}
    (read : ∀ field ∈ fields, ∀ {fuel rest}, 2 * field.2.tokens.length ≤ fuel →
      value? Rules.usual fuel depth (field.2.tokens ++ rest) = some (field.2, rest))
    (enough : 2 * ((fieldTokens fields).flatMap fun part => part ++ [.mark ',']).length < fuel) :
    members? Rules.usual fuel (depth + 2)
      (((fieldTokens fields).flatMap fun part => part ++ [.mark ',']) ++ .mark ')' :: rest) = some (fields, rest) := by
  induction fields generalizing fuel with
  | nil =>
    obtain ⟨fuel, rfl⟩ := exists_fuel_of_lt enough
    simp [members?, fieldTokens]
  | cons field fields ih =>
    obtain ⟨fuel, rfl⟩ := exists_fuel_of_lt enough
    obtain ⟨readField, readFields⟩ := List.forall_mem_cons.mp read
    simp only [fieldTokens, List.flatMap_cons, List.append_assoc, List.cons_append, List.length_append,
      List.length_cons] at enough ⊢
    have here := @readField fuel (.mark ',' :: (((fieldTokens fields).flatMap fun part => part ++ [.mark ',']) ++
      .mark ')' :: rest)) (by omega)
    have later : members? Rules.usual fuel (depth + 2) _ = some (fields, rest) := ih readFields (by omega)
    simp [members?, here, afterItem?, later]

theorem value?_keyword {name : String} {value : Ron} (meaning : keyword? name = some value) (other : name ≠ "Some") :
    value? Rules.usual (fuel + 1) depth (.word name :: rest) = some (value, rest) := by
  rw [value?.eq_def]
  simp [other, meaning]

theorem value?_present {value : Ron} {tokens : List Token}
    (read : value? Rules.usual fuel depth tokens = some (value, .mark ')' :: rest)) :
    value? Rules.usual (fuel + 2) (depth + 1) (.word "Some" :: .mark '(' :: tokens) =
      some (.option (some value), rest) := by
  have opened : contents? Rules.usual (fuel + 1) (depth + 1) (.mark '(' :: tokens) =
      some (.option (some value), rest) := by
    rw [contents?, if_neg (by simp [Rules.usual]), if_neg (by simp [Rules.usual]), read]
    rfl
  rw [value?.eq_def]
  simpa using opened

theorem value?_list {items : List Ron} {tokens : List Token}
    (read : items? Rules.usual fuel depth ']' tokens = some (items, rest)) :
    value? Rules.usual (fuel + 1) depth (.mark '[' :: tokens) = some (.list items, rest) := by
  rw [value?.eq_def]
  simp [read]

theorem value?_record {fields : List (String × Ron)} {name : String} {tokens : List Token}
    (read : members? Rules.usual fuel depth (.word name :: .mark ':' :: tokens) = some (fields, rest)) :
    value? Rules.usual (fuel + 2) depth (.mark '(' :: .word name :: .mark ':' :: tokens) =
      some (.record none fields, rest) := by
  rw [value?.eq_def]
  simp [body?, startsField, read]

theorem exists_fuel_of_tokens {tokens : List Token} (filled : tokens ≠ []) (enough : 2 * tokens.length ≤ fuel) :
    ∃ more, fuel = more + 2 := by
  have least := List.length_pos_iff.mpr filled
  exact ⟨fuel - 2, by omega⟩

/-- The tokens of a plain value are read as the value, with twice as much fuel as there are tokens. -/
theorem Plain.value?_reads {value : Ron} (plain : Plain depth value) (enough : 2 * value.tokens.length ≤ fuel) :
    value? Rules.usual fuel depth (value.tokens ++ rest) = some (value, rest) := by
  induction plain generalizing fuel rest with
  | text value =>
    rw [tokens] at enough ⊢
    obtain ⟨fuel, rfl⟩ := exists_fuel_of_tokens (by simp) enough
    simp [value?]
  | flag value =>
    rw [tokens] at enough ⊢
    obtain ⟨fuel, rfl⟩ := exists_fuel_of_tokens (by simp) enough
    cases value
    · exact value?_keyword rfl (by decide)
    · exact value?_keyword rfl (by decide)
  | number =>
    rw [tokens] at enough ⊢
    obtain ⟨fuel, rfl⟩ := exists_fuel_of_tokens (by simp) enough
    simp [value?]
  | absent =>
    rw [tokens] at enough ⊢
    obtain ⟨fuel, rfl⟩ := exists_fuel_of_tokens (by simp) enough
    exact value?_keyword rfl (by decide)
  | present _ ih =>
    rw [tokens] at enough ⊢
    obtain ⟨fuel, rfl⟩ := exists_fuel_of_tokens (by simp) enough
    simp only [List.length_cons, List.length_append] at enough
    simp only [List.cons_append, List.append_assoc]
    exact value?_present (ih (by omega))
  | list plain ih =>
    rw [tokens, itemTokens_eq, enclosed] at enough ⊢
    obtain ⟨fuel, rfl⟩ := exists_fuel_of_tokens (by simp) enough
    simp only [List.length_cons, List.length_append] at enough
    simp only [List.cons_append, List.append_assoc, List.nil_append]
    exact value?_list (items?_reads plain ih (by omega))
  | @record depth fields filled _ _ ih =>
    rw [tokens, enclosed] at enough ⊢
    obtain ⟨fuel, rfl⟩ := exists_fuel_of_tokens (by simp) enough
    simp only [List.length_cons, List.length_append] at enough
    have read : members? Rules.usual fuel (depth + 2) _ = some (fields, rest) := members?_reads ih (by omega)
    cases fields with
    | nil => exact absurd rfl filled
    | cons field others =>
      simp only [fieldTokens, List.flatMap_cons, List.cons_append, List.append_assoc, List.nil_append] at read ⊢
      exact value?_record read

end Value

/-- The text of a plain record is read as the record. -/
theorem ofText?_toText {fields : List (String × Ron)} (plain : Plain maxDepth (.record none fields)) :
    ofText? (toText (.record none fields)) = some ⟨Rules.usual, .record none fields⟩ := by
  have spelt : Spells ((toText (.record none fields)).toList ++ []) (tokens (.record none fields) ++ []) :=
    plain.spelt 0 (by simp [Ends]) .done
  have rules : rules? ((tokens (.record none fields)).length + 1) Rules.usual (tokens (.record none fields)) =
      some (Rules.usual, tokens (.record none fields)) := by
    rw [tokens, enclosed]
    rfl
  have read : value? Rules.usual (3 * (tokens (.record none fields)).length + 3) maxDepth
      (tokens (.record none fields) ++ []) = some (.record none fields, []) :=
    plain.value?_reads (by omega)
  rw [List.append_nil] at spelt read
  rw [List.append_nil] at spelt
  rw [ofText?, all_eq_of_spells spelt]
  dsimp only
  rw [rules]
  dsimp only
  rw [read]

end Adventure.Ron
