import Adventure.Proofs.Chain.Playable
import Adventure.Proofs.Knowledge.Compiled
import Adventure.Proofs.Logic.Phrases

namespace Adventure

/-- The text of the parts of a template, with nothing between them. -/
def Part.spelling (call : Placeholder → String) (parts : List Part) : String := String.join (parts.map (text call))

/-- The placeholders that parts speak of, in order. -/
def Part.items (parts : List Part) : List Placeholder := parts.filterMap item?

namespace Part

variable {call other : Placeholder → String} {parts : List Part}

theorem spelling_cons (part : Part) : spelling call (part :: parts) = part.text call ++ spelling call parts := by
  rw [spelling, List.map_cons, String.join_cons, ← spelling]

theorem spelling_append_word (parts : List Part) (ending : String) :
    spelling call (parts ++ [.word ending]) = spelling call parts ++ ending := by
  rw [spelling, List.map_append, String.join_append, ← spelling, List.map_singleton, String.join_cons, String.join_nil,
    String.append_empty, text]

/-- The text of parts tells only what the placeholders among them are called. -/
theorem spelling_congr (same : ∀ p ∈ items parts, call p = other p) : spelling call parts = spelling other parts := by
  rw [spelling, spelling]
  congr 1
  refine List.map_congr_left fun part member => ?_
  cases part with
  | word text => rfl
  | item p => exact same p (List.mem_filterMap.mpr ⟨.item p, member, rfl⟩)

end Part

namespace Template

variable {fill : String → String} {text name : String} {chars rest : List Char}

theorem slotsFrom_append (unopened : '\x7b' ∉ chars) : slotsFrom none (chars ++ rest) = slotsFrom none rest := by
  induction chars with
  | nil => rfl
  | cons c chars ih =>
    obtain ⟨here, later⟩ := not_or.mp (mt List.mem_cons.mpr unopened)
    rw [List.cons_append, slotsFrom, if_neg (Ne.symm here), ih later]

theorem slotsFrom_opened {opened : List Char} (unclosed : '\x7d' ∉ chars) :
    slotsFrom (some opened) (chars ++ '\x7d' :: rest) =
      String.ofList (opened.reverse ++ chars) :: slotsFrom none rest := by
  induction chars generalizing opened with
  | nil => rw [List.nil_append, slotsFrom, if_pos rfl, List.append_nil]
  | cons c chars ih =>
    obtain ⟨here, later⟩ := not_or.mp (mt List.mem_cons.mpr unclosed)
    rw [List.cons_append, slotsFrom, if_neg (Ne.symm here), ih later, List.reverse_cons, List.append_assoc,
      List.singleton_append]

theorem slotsFrom_unclosed (unclosed : '\x7d' ∉ chars) (opened : Option (List Char)) : slotsFrom opened chars = [] := by
  induction chars generalizing opened with
  | nil => cases opened <;> rfl
  | cons c chars ih =>
    obtain ⟨here, later⟩ := not_or.mp (mt List.mem_cons.mpr unclosed)
    cases opened with
    | none => rw [slotsFrom, ih later]
    | some opened => rw [slotsFrom, if_neg (Ne.symm here), ih later]

/-- Where no brace is closed all is text. -/
theorem piecesFrom_unclosed (unclosed : '\x7d' ∉ chars) (opened : Option (List Char)) :
    ∃ texts : List (List Char), piecesFrom opened chars = texts.map .text ∧
      texts.flatten = (opened.elim [] fun o => '\x7b' :: o.reverse) ++ chars := by
  induction chars generalizing opened with
  | nil =>
    cases opened with
    | none => exact ⟨[], rfl, rfl⟩
    | some opened => exact ⟨['\x7b' :: opened.reverse], rfl, by simp⟩
  | cons c chars ih =>
    obtain ⟨here, later⟩ := not_or.mp (mt List.mem_cons.mpr unclosed)
    cases opened with
    | none =>
      rw [piecesFrom]
      split
      next brace =>
        obtain ⟨texts, cut, whole⟩ := ih later (some [])
        exact ⟨texts, cut, by simp [whole, brace]⟩
      next =>
        obtain ⟨texts, cut, whole⟩ := ih later none
        exact ⟨[c] :: texts, by rw [cut, List.map_cons], by simp [whole]⟩
    | some opened =>
      rw [piecesFrom_cons_of_unclosed (Ne.symm here)]
      split
      next brace =>
        obtain ⟨texts, cut, whole⟩ := ih later (some [])
        exact ⟨('\x7b' :: opened.reverse) :: texts, by rw [cut, List.map_cons], by simp [whole, brace]⟩
      next =>
        obtain ⟨texts, cut, whole⟩ := ih later (some (c :: opened))
        exact ⟨texts, cut, by simp [whole]⟩

theorem render_unclosed (unclosed : '\x7d' ∉ text.toList) : render fill text = text := by
  obtain ⟨texts, cut, whole⟩ := piecesFrom_unclosed unclosed none
  rw [render, pieces, cut, List.map_map]
  change String.join (texts.map String.ofList) = text
  apply String.toList_inj.mp
  simpa [String.toList_join, List.flatMap_map, List.flatMap_def] using whole

theorem filledSlots_unclosed (unclosed : '\x7d' ∉ text.toList) : filledSlots text = [] := by
  obtain ⟨texts, cut, -⟩ := piecesFrom_unclosed unclosed none
  rw [filledSlots, pieces, cut, List.filterMap_map]
  exact List.filterMap_eq_nil_iff.mpr fun _ _ => rfl

theorem filledSlots_append (unopened : '\x7b' ∉ text.toList) (rest : String) :
    filledSlots (text ++ rest) = filledSlots rest := by
  rw [filledSlots, pieces, String.toList_append, piecesFrom_append unopened, List.filterMap_append, List.filterMap_map]
  refine (congrArg (· ++ _) (List.filterMap_eq_nil_iff.mpr fun _ _ => rfl)).trans (List.nil_append _)

theorem filledSlots_slot (plain : Braceless name) (some : name ≠ "") (rest : String) :
    filledSlots (slot name ++ rest) = name :: filledSlots rest := by
  rw [filledSlots, pieces_slot plain some, List.filterMap_cons]
  dsimp only
  rw [String.ofList_toList, ← filledSlots]

theorem slots_slot (plain : Braceless name) (rest : String) : slots (slot name ++ rest) = name :: slots rest := by
  have unclosed : '\x7d' ∉ name.toList := fun closed => (plain _ closed).2 rfl
  have written : (slot name ++ rest).toList = '\x7b' :: (name.toList ++ '\x7d' :: rest.toList) := by simp [slot]
  rw [slots, written, slotsFrom, if_pos rfl, slotsFrom_opened unclosed]
  simp [slots]

/-- Parts of a template and the rest after the last of them: no brace is opened in the words, and none is closed in the
rest. -/
structure Composed (parts : List Part) (ending : String) : Prop where
  words : ∀ text, .word text ∈ parts → '\x7b' ∉ text.toList
  unclosed : '\x7d' ∉ ending.toList

section Composed

variable {parts : List Part} {ending : String} {call : Placeholder → String}

theorem Composed.later {part : Part} (composed : Composed (part :: parts) ending) : Composed parts ending :=
  ⟨fun text member => composed.words text (List.mem_cons_of_mem _ member), composed.unclosed⟩

/-- The two ways to find slots in a composed template agree, and rendering fills each of them. -/
theorem Composed.slots_render (composed : Composed parts ending)
    (plain : ∀ p ∈ Part.items parts, Braceless (call p) ∧ call p ≠ "") :
    slots (Part.spelling (fun p => slot (call p)) parts ++ ending) = (Part.items parts).map call ∧
    filledSlots (Part.spelling (fun p => slot (call p)) parts ++ ending) = (Part.items parts).map call ∧
    ∀ fill, render fill (Part.spelling (fun p => slot (call p)) parts ++ ending) =
      Part.spelling (fun p => fill (call p)) parts ++ ending := by
  induction parts with
  | nil =>
    rw [Part.spelling, List.map_nil, String.join_nil, String.empty_append]
    exact ⟨slotsFrom_unclosed composed.unclosed none, filledSlots_unclosed composed.unclosed,
      fun fill => render_unclosed composed.unclosed⟩
  | cons part parts ih =>
    simp only [Part.spelling_cons, String.append_assoc]
    cases part with
    | word text =>
      have unopened := composed.words text List.mem_cons_self
      obtain ⟨found, filled, rendered⟩ := ih composed.later plain
      refine ⟨?_, (filledSlots_append unopened _).trans filled, fun fill => ?_⟩
      · rw [slots, String.toList_append, Part.text, slotsFrom_append unopened]
        exact found
      · rw [Part.text, renders_unopened unopened, rendered]
        rfl
    | item p =>
      obtain ⟨⟨letters, some⟩, others⟩ := List.forall_mem_cons.mp (show ∀ q ∈ p :: Part.items parts, _ from plain)
      obtain ⟨found, filled, rendered⟩ := ih composed.later others
      refine ⟨?_, ?_, fun fill => ?_⟩
      · rw [Part.text, slots_slot letters, found]
        rfl
      · rw [Part.text, filledSlots_slot letters some, filled]
        rfl
      · rw [Part.text, renders_slot letters some, rendered]
        rfl

section Binding

variable {binding : Binding}

/-- In the first round the names of placeholders give way to those of entities. -/
theorem Composed.fillTemplate (composed : Composed parts ending)
    (names : ∀ p ∈ Part.items parts, Braceless p.name ∧ p.name ≠ "")
    (bound : ∀ p ∈ Part.items parts, ∃ e, binding[p]? = some e)
    (only : ∀ p ∈ Part.items parts, ∀ q ∈ binding, q.name = p.name → q = p) :
    Rule.fillTemplate binding (Part.spelling (fun p => slot p.name) parts ++ ending) =
      Part.spelling (binding.call slot) parts ++ ending := by
  refine ((composed.slots_render names).2.2 _).trans (congrArg (· ++ ending) (Part.spelling_congr fun p item => ?_))
  obtain ⟨e, here⟩ := bound p item
  rw [Rule.named_eq_some here (only p item), Binding.call, here]
  rfl

/-- In the second round the entities are called by other names. -/
theorem Composed.render_call (composed : Composed parts ending)
    (bound : ∀ p ∈ Part.items parts, ∃ e, binding[p]? = some e ∧ Braceless e.name ∧ e.name ≠ "") :
    render fill (Part.spelling (binding.call slot) parts ++ ending) =
      Part.spelling (binding.call fill) parts ++ ending := by
  let own : Placeholder → String := binding.call fun name => name
  have called : ∀ p ∈ Part.items parts, binding.call slot p = slot (own p) ∧ fill (own p) = binding.call fill p ∧
      Braceless (own p) ∧ own p ≠ "" := by
    intro p item
    obtain ⟨e, here, plain⟩ := bound p item
    simp only [own, Binding.call, here, Option.elim_some, true_and]
    exact plain
  rw [Part.spelling_congr fun p item => (called p item).1,
    (composed.slots_render fun p item => (called p item).2.2).2.2 fill,
    Part.spelling_congr fun p item => (called p item).2.1]

end Binding

/-- A template is composed of words and of slots that name placeholders if all that is found in it names placeholders.
The induction is on the characters that are left, with those that were passed since a brace was opened. -/
theorem exists_composed {placeholders : List Placeholder} (opened : Option (List Char))
    (unclosed : ∀ before ∈ opened, '\x7d' ∉ before)
    (known : ∀ name ∈ slotsFrom opened chars, ∃ p ∈ placeholders, p.name = name) :
    ∃ parts ending, Composed parts ending ∧ (∀ p ∈ Part.items parts, p ∈ placeholders) ∧
      String.ofList ((opened.elim [] fun before => '\x7b' :: before.reverse) ++ chars) =
        Part.spelling (fun p => slot p.name) parts ++ ending := by
  induction chars generalizing opened with
  | nil =>
    refine ⟨[], _, ⟨by simp, ?_⟩, by simp [Part.items], String.empty_append.symm⟩
    cases opened with
    | none => simp
    | some before => simpa using unclosed before rfl
  | cons c chars ih =>
    cases opened with
    | none =>
      rw [slotsFrom] at known
      by_cases brace : c = '\x7b'
      · rw [if_pos brace] at known
        obtain ⟨parts, ending, composed, items, text⟩ := ih (some []) (by simp) known
        exact ⟨parts, ending, composed, items, brace ▸ text⟩
      · rw [if_neg brace] at known
        obtain ⟨parts, ending, composed, items, text⟩ := ih none (by simp) known
        refine ⟨.word (String.ofList [c]) :: parts, ending, ⟨?_, composed.unclosed⟩, items, ?_⟩
        · rintro text (member | ⟨_, member⟩)
          · simpa using Ne.symm brace
          · exact composed.words text member
        · rw [Part.spelling_cons, String.append_assoc, ← text, Part.text, ← String.ofList_append]
          rfl
    | some before =>
      by_cases brace : c = '\x7d'
      · rw [slotsFrom, if_pos brace] at known
        obtain ⟨⟨p, listed, named⟩, others⟩ := List.forall_mem_cons.mp known
        obtain ⟨parts, ending, composed, items, text⟩ := ih none (by simp) others
        refine ⟨.item p :: parts, ending, ⟨?_, composed.unclosed⟩, List.forall_mem_cons.mpr ⟨listed, items⟩, ?_⟩
        · rintro text (_ | ⟨_, member⟩)
          exact composed.words text member
        · rw [Part.spelling_cons, String.append_assoc, ← text, Part.text, named, brace]
          apply String.toList_inj.mp
          simp [slot]
      · rw [slotsFrom, if_neg brace] at known
        have still : ∀ passed ∈ some (c :: before), '\x7d' ∉ passed := by
          rintro passed ⟨⟩ closed
          exact (List.mem_cons.mp closed).elim (Ne.symm brace) (unclosed before rfl)
        obtain ⟨parts, ending, composed, items, text⟩ := ih (some (c :: before)) still known
        refine ⟨parts, ending, composed, items, text ▸ ?_⟩
        simp

end Composed

end Template

theorem Script.IsPrimedName.plain {name : String} (primed : IsPrimedName name.toList) :
    Template.Braceless name ∧ name ≠ "" := by
  obtain ⟨stem, primes, text, some, letters, marks⟩ := primed
  constructor
  · intro c member
    rw [text] at member
    rcases List.mem_append.mp member with inside | after
    · refine ⟨?_, ?_⟩
      · rintro rfl
        exact absurd (letters _ inside) (by unfold IsNameChar; decide)
      · rintro rfl
        exact absurd (letters _ inside) (by unfold IsNameChar; decide)
    · rw [marks c after]
      decide
  · rintro rfl
    simp_all

/-- Declarations without problems have no slot in a command that names no placeholder. -/
theorem KnowledgeRecord.slots_of_problems {record : KnowledgeRecord} (flawless : record.problems = [])
    {declared : RuleDeclaration} (member : declared ∈ record.rules) {template : String}
    (given : declared.rule.template = some template) :
    ∀ name ∈ Template.slots template, ∃ p ∈ declared.rule.placeholders, p.name = name := by
  intro name slot
  simp only [problems, List.append_eq_nil_iff, List.flatMap_eq_nil_iff] at flawless
  obtain ⟨⟨⟨⟨-, rules⟩, -⟩, -⟩, -⟩ := flawless
  have sound := rules declared member
  simp only [ruleProblems, List.append_eq_nil_iff, List.flatMap_eq_nil_iff, given, Option.elim_some] at sound
  have found := sound.2 name slot
  split at found
  next known =>
    obtain ⟨p, parameter, named⟩ := List.mem_map.mp (List.contains_iff_mem.mp known)
    obtain ⟨pattern, among, listed⟩ := List.mem_flatMap.mp parameter
    exact ⟨p, Rule.mem_placeholders.mpr ⟨pattern, among, listed⟩, named⟩
  next => cases found

namespace KnowledgeBase

variable {source : String} {kb : KnowledgeBase} {rule : Rule} {template : String} {binding : Binding}

theorem exists_record_of_ofText (accepted : ofText source = .ok kb) : ∃ statements,
    Script.read? source = some statements ∧ ofRecord (Script.declared statements) = .ok kb := by
  unfold ofText at accepted
  split at accepted
  next record compiled =>
    obtain ⟨⟨statements, read, rfl⟩, -⟩ := Script.compile_eq_ok_iff.mp compiled
    exact ⟨statements, read, accepted⟩
  next => cases accepted
  next => cases accepted

/-- The commands of the rules in an accepted text are rendered completely. A template consists of words and of slots
that name placeholders; the slots are those that the check of the rules finds and those that are filled. The command of
an action is the template with the name of an entity in place of each slot, and under other names it says these. -/
theorem commands_complete (accepted : ofText source = .ok kb) (member : rule ∈ kb.rules)
    (given : rule.template = some template)
    (different : ∀ p ∈ rule.placeholders, ∀ q ∈ rule.placeholders, p.name = q.name → p = q)
    (domain : ∀ p, p ∈ binding ↔ p ∈ rule.placeholders)
    (plain : ∀ (p : Placeholder) (e : Entity), binding[p]? = some e → Template.Braceless e.name ∧ e.name ≠ "") :
    ∃ parts : List Part, (∀ p ∈ Part.items parts, p ∈ rule.placeholders) ∧
      template = Part.spelling (fun p => Template.slot p.name) parts ∧
      Template.slots template = (Part.items parts).map Placeholder.name ∧
      Template.filledSlots template = (Part.items parts).map Placeholder.name ∧
      ∃ action, rule.instantiate binding = .ok action ∧
        action.template = some (Part.spelling (binding.call Template.slot) parts) ∧
        action.command = Part.spelling (binding.call fun name => name) parts ∧
        ∀ naming, action.commandWith naming = Part.spelling (binding.call naming) parts := by
  obtain ⟨statements, read, made⟩ := exists_record_of_ofText accepted
  obtain ⟨flawless, types, -, rfl⟩ := ofRecord_eq_ok_iff.mp made
  obtain ⟨written, among, rfl⟩ := List.mem_map.mp member
  obtain ⟨parts, ending, composed, items, text⟩ := Template.exists_composed none (by simp)
    (KnowledgeRecord.slots_of_problems flawless among given)
  have names : ∀ p ∈ Part.items parts, Template.Braceless p.name ∧ p.name ≠ "" := fun p item =>
    (Script.named_of_read read among (items p item)).plain
  have bound : ∀ p ∈ Part.items parts, ∃ e, binding[p]? = some e := fun p item =>
    SortedMap.mem_iff.mp ((domain p).mpr (items p item))
  have only : ∀ p ∈ Part.items parts, ∀ q ∈ binding, q.name = p.name → q = p := fun p item q there =>
    different q ((domain q).mp there) p (items p item)
  have whole : template = Part.spelling (fun p => Template.slot p.name) parts ++ ending := by simpa using text
  obtain ⟨found, filled, -⟩ := composed.slots_render names
  obtain ⟨action, instantiated⟩ := Rule.exists_instantiate fun p => (domain p).mpr
  have commanded : action.template = some (Part.spelling (binding.call Template.slot) parts ++ ending) := by
    obtain ⟨-, -, -, -, rfl⟩ := Rule.instantiate_eq_ok_iff.mp instantiated
    rw [Action.of, given, Option.map_some, whole, composed.fillTemplate names bound only]
  have told (naming : String → String) :
      action.commandWith naming = Part.spelling (binding.call naming) parts ++ ending := by
    rw [Action.commandWith, commanded]
    exact composed.render_call fun p item => (bound p item).imp fun e here => ⟨here, plain p e here⟩
  have unchanged : Part.items (parts ++ [.word ending]) = Part.items parts := by simp [Part.items, Part.item?]
  refine ⟨parts ++ [.word ending], ?_⟩
  simp only [Part.spelling_append_word, unchanged]
  exact ⟨items, whole, whole ▸ found, whole ▸ filled, action, instantiated, commanded, told _, told⟩

/-- A text with a template in which braces stand alone before, between and after its slots. -/
def greetingText : String :=
  "type t; predicate near(t);\n" ++
    "rule greet :: near(x:t) & near(x':t) -> near(x:t) => \"\x7d say \x7bx\x7d\x7d, \x7bx'\x7d\x7bx\x7d \x7b!\";"

def greet : Rule where
  name := "greet"
  before := [⟨"near", [⟨"x", "t"⟩]⟩, ⟨"near", [⟨"x'", "t"⟩]⟩]
  after := [⟨"near", [⟨"x", "t"⟩]⟩]
  template := some "\x7d say \x7bx\x7d\x7d, \x7bx'\x7d\x7bx\x7d \x7b!"
  observational := false

def greetingStatements : List Script.Statement :=
  [.type ⟨"t", []⟩, .predicate ⟨"near", ["t"]⟩,
    .rule ⟨false, "greet", [⟨false, ⟨"near", [⟨"x", "t"⟩]⟩⟩, ⟨false, ⟨"near", [⟨"x'", "t"⟩]⟩⟩],
      [⟨false, ⟨"near", [⟨"x", "t"⟩]⟩⟩], greet.template, 2⟩]

def greeting : Binding := SortedMap.of [(⟨"x", "t"⟩, ⟨"ann", "t"⟩), (⟨"x'", "t"⟩, ⟨"bob", "t"⟩)]

theorem commands_complete_greeting : ∃ kb template, ofText greetingText = .ok kb ∧ greet ∈ kb.rules ∧
    greet.template = some template ∧
    (∀ p ∈ greet.placeholders, ∀ q ∈ greet.placeholders, p.name = q.name → p = q) ∧
    (∀ p, p ∈ greeting ↔ p ∈ greet.placeholders) ∧
    (∀ (p : Placeholder) (e : Entity), greeting[p]? = some e → Template.Braceless e.name ∧ e.name ≠ "") ∧
    ∃ parts : List Part, Template.slots template = ["x", "x'", "x"] ∧
      Template.slots template = (Part.items parts).map Placeholder.name ∧
      ∃ action, greet.instantiate greeting = .ok action ∧ action.command = "\x7d say ann\x7d, bobann \x7b!" ∧
        action.command = Part.spelling (greeting.call fun name => name) parts := by
  have read : Script.read? greetingText = some greetingStatements := by decide +kernel
  have compiles : Script.compile greetingText = .ok (Script.declared greetingStatements) :=
    Script.compile_eq_ok_iff.mpr ⟨⟨greetingStatements, read, rfl⟩, by decide +kernel⟩
  obtain ⟨kb, made⟩ := exists_ofRecord (Script.compile_eq_ok_iff.mp compiles).2
  have accepted : ofText greetingText = .ok kb := by rw [ofText, compiles]; exact made
  have member : greet ∈ kb.rules := by
    obtain ⟨-, types, -, rfl⟩ := ofRecord_eq_ok_iff.mp made
    exact List.mem_singleton_self greet
  have different : ∀ p ∈ greet.placeholders, ∀ q ∈ greet.placeholders, p.name = q.name → p = q := by decide
  have domain : ∀ p, p ∈ greeting ↔ p ∈ greet.placeholders := by
    have listed : greet.placeholders = [⟨"x", "t"⟩, ⟨"x'", "t"⟩] := by decide
    intro p
    rw [listed]
    exact SortedMap.mem_of
  have plain (p : Placeholder) (e : Entity) (here : greeting[p]? = some e) :
      Template.Braceless e.name ∧ e.name ≠ "" := by
    rcases List.mem_pair.mp (SortedMap.mem_of_eq_some here) with same | same <;> cases same <;> decide
  obtain ⟨parts, -, -, slots, -, action, instantiated, -, told, -⟩ :=
    commands_complete accepted member rfl different domain plain
  refine ⟨kb, _, accepted, member, rfl, different, domain, plain, parts, by decide +kernel, slots, action, instantiated,
    ?_, told⟩
  have command : (greet.instantiate greeting).map Action.command = .ok "\x7d say ann\x7d, bobann \x7b!" := by
    decide +kernel
  rw [instantiated] at command
  exact Except.ok.inj command

end KnowledgeBase

end Adventure
