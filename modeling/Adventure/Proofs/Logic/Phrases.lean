import Adventure.Logic.Rule
import Adventure.Proofs.Matching.Enumeration
import Adventure.Proofs.Text.Words
import Mathlib.Data.List.Chain
import Mathlib.Data.List.Forall2

namespace Adventure

namespace Template

variable {fill : String → String} {text other filled next name : String}

/-- A text without braces. -/
def Braceless (text : String) : Prop := ∀ c ∈ text.toList, c ≠ '\x7b' ∧ c ≠ '\x7d'

instance (text : String) : Decidable (Braceless text) :=
  decidable_of_iff (text.toList.all (fun c => c ≠ '\x7b' ∧ c ≠ '\x7d') = true) (by simp [Braceless])

/-- A text that is rendered as another, whatever comes after it. -/
def Renders (fill : String → String) (text filled : String) : Prop :=
  ∀ rest, render fill (text ++ rest) = filled ++ render fill rest

theorem Renders.eq (renders : Renders fill text filled) : render fill text = filled := by
  have alone := renders ""
  rw [String.append_empty] at alone
  rw [alone]
  exact String.append_empty

theorem Renders.append (first : Renders fill text filled) (second : Renders fill other next) :
    Renders fill (text ++ other) (filled ++ next) := by
  intro rest
  rw [String.append_assoc, first, second, String.append_assoc]

theorem piecesFrom_append {chars rest : List Char} (unopened : '\x7b' ∉ chars) :
    piecesFrom none (chars ++ rest) = chars.map (fun c => .text [c]) ++ piecesFrom none rest := by
  induction chars with
  | nil => rfl
  | cons c chars ih =>
    obtain ⟨here, later⟩ := not_or.mp (mt List.mem_cons.mpr unopened)
    rw [List.cons_append, piecesFrom, if_neg (Ne.symm here), ih later, List.map_cons, List.cons_append]

/-- Where no brace is opened all is text. -/
theorem renders_unopened (unopened : '\x7b' ∉ text.toList) : Renders fill text text := by
  intro rest
  have copied : String.join (text.toList.map fun c => String.ofList [c]) = text := by
    apply String.toList_inj.mp
    simp [String.toList_join, List.flatMap_map]
  rw [render, pieces, String.toList_append, piecesFrom_append unopened, List.map_append, String.join_append,
    List.map_map]
  exact congrArg (· ++ _) copied

theorem renders_braceless (plain : Braceless text) : Renders fill text text :=
  renders_unopened fun opened => (plain _ opened).1 rfl

theorem piecesFrom_cons_of_unclosed {c : Char} (unclosed : c ≠ '\x7d') (opened rest : List Char) :
    piecesFrom (some opened) (c :: rest) =
      if c = '\x7b' then .text ('\x7b' :: opened.reverse) :: piecesFrom (some []) rest
      else piecesFrom (some (c :: opened)) rest := by
  cases opened <;> simp [piecesFrom, unclosed]

theorem piecesFrom_opened {opened chars rest : List Char} (plain : ∀ c ∈ chars, c ≠ '\x7b' ∧ c ≠ '\x7d')
    (some : opened ≠ [] ∨ chars ≠ []) : piecesFrom (.some opened) (chars ++ '\x7d' :: rest) =
      .slot (opened.reverse ++ chars) :: piecesFrom none rest := by
  induction chars generalizing opened with
  | nil =>
    obtain ⟨c, others, rfl⟩ := List.exists_cons_of_ne_nil (some.resolve_right (by simp))
    simp [piecesFrom]
  | cons c chars ih =>
    obtain ⟨here, later⟩ := List.forall_mem_cons.mp plain
    rw [List.cons_append, piecesFrom_cons_of_unclosed here.2, if_neg here.1,
      ih later (.inl (List.cons_ne_nil c opened)), List.reverse_cons, List.append_assoc, List.singleton_append]

theorem pieces_slot (plain : Braceless name) (some : name ≠ "") (rest : String) :
    pieces (slot name ++ rest) = .slot name.toList :: pieces rest := by
  have letters : name.toList ≠ [] := by simpa using some
  have opened : piecesFrom (.some []) (name.toList ++ '\x7d' :: rest.toList) =
      .slot ([].reverse ++ name.toList) :: piecesFrom none rest.toList := piecesFrom_opened plain (.inr letters)
  simpa [pieces, slot, String.toList_append, piecesFrom] using opened

theorem renders_slot (plain : Braceless name) (some : name ≠ "") : Renders fill (slot name) (fill name) := by
  intro rest
  rw [render, pieces_slot plain some, List.map_cons, String.join_cons]
  dsimp only
  rw [String.ofList_toList, ← render]

theorem renders_intercalate {texts outs : List String} (each : List.Forall₂ (Renders fill) texts outs) :
    Renders fill (" ".intercalate texts) (" ".intercalate outs) := by
  induction each with
  | nil => exact renders_braceless (by decide)
  | cons first others ih =>
    cases others with
    | nil => simpa using first
    | cons second others =>
      rw [String.intercalate_cons_cons, String.intercalate_cons_cons]
      exact (first.append (renders_braceless (by decide))).append ih

end Template

/-- A part of a command: a word, or what is said for a placeholder. -/
inductive Part where
  | word (text : String)
  | item (placeholder : Placeholder)
deriving DecidableEq

namespace Part

def word? : Part → Option String
  | .word text => some text
  | .item _ => none

def item? : Part → Option Placeholder
  | .word _ => none
  | .item p => some p

def text (call : Placeholder → String) : Part → String
  | .word text => text
  | .item p => call p

/-- Two parts that a reader can tell apart when one follows the other: not both are items. -/
def Apart : Part → Part → Prop
  | .item _, .item _ => False
  | _, _ => True

instance : DecidableRel Apart
  | .item _, .item _ => inferInstanceAs (Decidable False)
  | .word _, _ => inferInstanceAs (Decidable True)
  | .item _, .word _ => inferInstanceAs (Decidable True)

/-- The text of the parts of a command. -/
def phrase (call : Placeholder → String) (parts : List Part) : String := " ".intercalate (parts.map (text call))

theorem render_phrase {fill : String → String} {before after : Placeholder → String} {parts : List Part}
    (plain : ∀ text, .word text ∈ parts → Template.Braceless text)
    (items : ∀ p, .item p ∈ parts → Template.Renders fill (before p) (after p)) :
    Template.render fill (phrase before parts) = phrase after parts := by
  refine (Template.renders_intercalate ?_).eq
  induction parts with
  | nil => exact .nil
  | cons part parts ih =>
    refine .cons ?_ (ih (fun text member => plain text (List.mem_cons_of_mem _ member))
      fun p member => items p (List.mem_cons_of_mem _ member))
    cases part with
    | word text => exact Template.renders_braceless (plain text List.mem_cons_self)
    | item p => exact items p List.mem_cons_self

/-- The words of a command are those of its parts in turn. -/
theorem words_phrase (call : Placeholder → String) (parts : List Part) :
    Text.words (phrase call parts) = parts.flatMap fun part => Text.words (part.text call) := by
  rw [phrase, Text.words_intercalate, List.flatMap_map]

/-- Two parts that say the same. -/
inductive Agrees (a b : Placeholder → String) : Part → Part → Prop
  | word {text : String} : Agrees a b (.word text) (.word text)
  | item {p q : Placeholder} : Text.words (a p) = Text.words (b q) → Agrees a b (.item p) (.item q)

/-- Parts that are read in one way only: words that are kept for commands, and between them items whose names have other
words. -/
structure Legible (kept : List String) (call : Placeholder → String) (parts : List Part) : Prop where
  apart : parts.IsChain Apart
  words : ∀ part ∈ parts, ∀ text ∈ part.word?, Text.IsSimple text ∧ text ∈ kept
  items : ∀ part ∈ parts, ∀ p ∈ part.item?, Text.Spoken kept (call p)

section Reading

variable {kept : List String} {a b call : Placeholder → String} {part : Part} {parts others : List Part}

theorem Legible.tail (legible : Legible kept call (part :: parts)) : Legible kept call parts where
  apart := legible.apart.tail
  words other member := legible.words other (List.mem_cons_of_mem part member)
  items other member := legible.items other (List.mem_cons_of_mem part member)

theorem Legible.word {text : String} (legible : Legible kept call (.word text :: parts)) :
    Text.IsSimple text ∧ text ∈ kept :=
  legible.words _ List.mem_cons_self text rfl

theorem Legible.word_eq {text : String} (legible : Legible kept call (.word text :: parts)) :
    Text.words text = [text] :=
  legible.word.1.words_eq

theorem Legible.item {p : Placeholder} (legible : Legible kept call (.item p :: parts)) : Text.Spoken kept (call p) :=
  legible.items _ List.mem_cons_self p rfl

theorem Legible.isSimple (legible : Legible kept call parts) :
    ∀ word ∈ Text.words (phrase call parts), Text.IsSimple word := by
  intro word member
  rw [words_phrase, List.mem_flatMap] at member
  obtain ⟨part, listed, among⟩ := member
  cases part with
  | word text =>
    obtain ⟨simple, -⟩ := legible.words _ listed text rfl
    rw [Part.text, simple.words_eq] at among
    exact List.mem_singleton.mp among ▸ simple
  | item p => exact (legible.items _ listed p rfl).simple word among

theorem Legible.nonempty (legible : Legible kept call (part :: parts)) : Text.words (part.text call) ≠ [] := by
  cases part with
  | word text => simp [Part.text, legible.word_eq]
  | item p => exact legible.item.nonempty

/-- A word that is kept does not begin the name of an item. -/
theorem Legible.not_mem_kept {p : Placeholder} {word : String} {us vs : List String}
    (legible : Legible kept call (.item p :: parts)) (same : word :: us = Text.words (call p) ++ vs) : word ∉ kept := by
  obtain ⟨first, rest, name⟩ := List.exists_cons_of_ne_nil legible.item.nonempty
  rw [name, List.cons_append] at same
  obtain ⟨rfl, -⟩ := List.cons.inj same
  exact legible.item.free word (name ▸ List.mem_cons_self)

/-- After an item there is the end or a word that is kept. -/
theorem Legible.mem_of_head? {p : Placeholder} {word : String} (legible : Legible kept call (.item p :: parts))
    (first : (parts.flatMap fun part => Text.words (part.text call)).head? = some word) : word ∈ kept := by
  cases parts with
  | nil => cases first
  | cons part parts =>
    cases part with
    | item q => exact absurd (List.isChain_cons_cons.mp legible.apart).1 id
    | word text =>
      rw [List.flatMap_cons, Part.text, legible.tail.word_eq] at first
      cases first
      exact legible.tail.word.2

/-- Words that are not kept can be read off up to one that is. -/
theorem append_inj_of_kept {xs ys us vs : List String} (same : xs ++ us = ys ++ vs) (freeX : ∀ x ∈ xs, x ∉ kept)
    (freeY : ∀ y ∈ ys, y ∉ kept) (keptU : ∀ u, us.head? = some u → u ∈ kept)
    (keptV : ∀ v, vs.head? = some v → v ∈ kept) : xs = ys ∧ us = vs := by
  induction xs generalizing ys with
  | nil =>
    cases ys with
    | nil => exact ⟨rfl, same⟩
    | cons y ys => exact absurd (keptU y (by rw [← List.nil_append us, same]; rfl)) (freeY y List.mem_cons_self)
  | cons x xs ih =>
    cases ys with
    | nil => exact absurd (keptV x (by rw [← List.nil_append vs, ← same]; rfl)) (freeX x List.mem_cons_self)
    | cons y ys =>
      obtain ⟨rfl, rest⟩ := List.cons.inj same
      obtain ⟨rfl, after⟩ := ih rest (fun x member => freeX x (List.mem_cons_of_mem _ member))
        fun y member => freeY y (List.mem_cons_of_mem _ member)
      exact ⟨rfl, after⟩

/-- Two commands of the same words have the same parts. -/
theorem agrees_of_words (legible : Legible kept a parts) (also : Legible kept b others)
    (same : Text.words (phrase a parts) = Text.words (phrase b others)) : List.Forall₂ (Agrees a b) parts others := by
  rw [words_phrase, words_phrase] at same
  induction parts generalizing others with
  | nil =>
    cases others with
    | nil => exact .nil
    | cons other others =>
      rw [List.flatMap_cons] at same
      exact absurd (List.append_eq_nil_iff.mp same.symm).1 also.nonempty
  | cons part parts ih =>
    cases others with
    | nil =>
      rw [List.flatMap_cons] at same
      exact absurd (List.append_eq_nil_iff.mp same).1 legible.nonempty
    | cons other others =>
      rw [List.flatMap_cons, List.flatMap_cons] at same
      cases part with
      | word text =>
        simp only [Part.text, legible.word_eq, List.singleton_append] at same
        cases other with
        | word text =>
          simp only [also.word_eq, List.singleton_append] at same
          obtain ⟨rfl, rest⟩ := List.cons.inj same
          exact .cons .word (ih legible.tail also.tail rest)
        | item q => exact absurd legible.word.2 (also.not_mem_kept same)
      | item p =>
        cases other with
        | word text =>
          simp only [Part.text, also.word_eq, List.singleton_append] at same
          exact absurd also.word.2 (legible.not_mem_kept same.symm)
        | item q =>
          obtain ⟨name, rest⟩ := append_inj_of_kept same legible.item.free also.item.free
            (fun _ => legible.mem_of_head?) fun _ => also.mem_of_head?
          exact .cons (.item name) (ih legible.tail also.tail rest)

/-- The items at the same places of two commands that have the same words between them. -/
def paired : List Part → List Part → Option (List (Placeholder × Placeholder))
  | [], [] => some []
  | .word a :: parts, .word b :: others => if a = b then paired parts others else none
  | .item p :: parts, .item q :: others => (paired parts others).map ((p, q) :: ·)
  | _, _ => none

theorem exists_paired (agree : List.Forall₂ (Agrees a b) parts others) : ∃ pairs, paired parts others = some pairs ∧
    ∀ pair ∈ pairs, pair.1 ∈ parts.filterMap item? ∧ pair.2 ∈ others.filterMap item? ∧
      Text.words (a pair.1) = Text.words (b pair.2) := by
  induction agree with
  | nil => exact ⟨[], rfl, by simp⟩
  | cons first _ ih =>
    obtain ⟨pairs, found, same⟩ := ih
    cases first with
    | word => exact ⟨pairs, by rw [paired, if_pos rfl, found], same⟩
    | @item p q name =>
      refine ⟨(p, q) :: pairs, by rw [paired, found, Option.map_some], List.forall_mem_cons.mpr ⟨?_, ?_⟩⟩
      · exact ⟨List.mem_cons_self, List.mem_cons_self, name⟩
      · intro pair member
        obtain ⟨left, right, equal⟩ := same pair member
        exact ⟨List.mem_cons_of_mem p left, List.mem_cons_of_mem q right, equal⟩

/-- What says the same has the same names for its items. -/
theorem words_of_agrees (agree : List.Forall₂ (Agrees a b) parts parts) :
    ∀ p ∈ parts.filterMap item?, Text.words (a p) = Text.words (b p) := by
  intro p member
  obtain ⟨part, listed, here⟩ := List.mem_filterMap.mp member
  cases List.forall₂_same.mp agree part listed with
  | word => cases here
  | item name =>
    cases here
    exact name

end Reading

end Part

/-- What a naming says for a placeholder. -/
def Binding.call (binding : Binding) (naming : String → String) (p : Placeholder) : String :=
  binding[p]?.elim "" fun e => naming e.name

namespace Rule

variable {rule : Rule} {binding : Binding} {action : Action} {p : Placeholder} {e : Entity}

/-- A rule whose command says some parts, with items by names that no two placeholders share. -/
structure Phrased (rule : Rule) (parts : List Part) : Prop where
  template : rule.template = some (Part.phrase (fun p => Template.slot p.name) parts)
  words : ∀ part ∈ parts, ∀ text ∈ part.word?, Template.Braceless text
  items : ∀ part ∈ parts, ∀ p ∈ part.item?, p ∈ rule.placeholders
  names : ∀ p ∈ rule.placeholders, Template.Braceless p.name ∧ p.name ≠ "" ∧
    ∀ q ∈ rule.placeholders, q.name = p.name → q = p

/-- A name that one placeholder has stands for what the placeholder does. -/
theorem named_eq_some (here : binding[p]? = some e) (only : ∀ q ∈ binding, q.name = p.name → q = p) :
    named binding p.name = some e := by
  rw [named, Std.ExtTreeMap.foldl_eq_foldl_toList]
  have listed : (p, e) ∈ binding.toList := Std.ExtTreeMap.mem_toList_iff_getElem?_eq_some.mpr here
  have value : ∀ entry ∈ binding.toList, entry.1.name = p.name → entry.2 = e := by
    intro entry member same
    have there := Std.ExtTreeMap.mem_toList_iff_getElem?_eq_some.mp member
    have key := only entry.1 (SortedMap.mem_iff.mpr ⟨entry.2, there⟩) same
    rw [key, here] at there
    exact (Option.some.inj there).symm
  obtain ⟨before, after, split⟩ := List.append_of_mem listed
  rw [split] at value ⊢
  rw [List.foldl_append, List.foldl_cons, if_pos (beq_self_eq_true p.name)]
  -- No later entry of that name stands for anything else.
  refine List.foldlRecOn (motive := (· = some e)) after _ rfl fun found same entry member => ?_
  split
  next name => rw [value entry (by simp [member]) (beq_iff_eq.mp name)]
  next => exact same

/-- The command of an action is that of its rule with each item called by its name. -/
theorem commandWith_eq {parts : List Part} (phrased : rule.Phrased parts)
    (domain : ∀ q, q ∈ binding ↔ q ∈ rule.placeholders)
    (plain : ∀ part ∈ parts, ∀ p ∈ part.item?, ∀ e, binding[p]? = some e → Template.Braceless e.name ∧ e.name ≠ "")
    (instantiated : rule.instantiate binding = .ok action) (naming : String → String) :
    action.commandWith naming = Part.phrase (binding.call naming) parts := by
  obtain ⟨before, after, -, -, rfl⟩ := instantiate_eq_ok_iff.mp instantiated
  have bound {p : Placeholder} (member : .item p ∈ parts) : ∃ e, binding[p]? = some e :=
    SortedMap.mem_iff.mp ((domain p).mpr (phrased.items _ member p rfl))
  have words : ∀ text, .word text ∈ parts → Template.Braceless text := fun text member =>
    phrased.words _ member text rfl
  have filled : fillTemplate binding (Part.phrase (fun p => Template.slot p.name) parts) =
      Part.phrase (binding.call Template.slot) parts := by
    refine Part.render_phrase words fun p member => ?_
    obtain ⟨e, here⟩ := bound member
    obtain ⟨letters, some, only⟩ := phrased.names p (phrased.items _ member p rfl)
    have meant := named_eq_some here fun q there => only q ((domain q).mp there)
    have renders : Template.Renders (fun name => Template.slot ((named binding name).elim name Entity.name))
        (Template.slot p.name) _ := Template.renders_slot letters some
    rw [meant] at renders
    rw [Binding.call, here]
    exact renders
  rw [Action.commandWith, Action.of, phrased.template, Option.map_some, filled]
  refine Part.render_phrase words fun p member => ?_
  obtain ⟨e, here⟩ := bound member
  obtain ⟨letters, some⟩ := plain _ member p rfl e here
  rw [Binding.call, Binding.call, here]
  exact Template.renders_slot letters some

end Rule

end Adventure
