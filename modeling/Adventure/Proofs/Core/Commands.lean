import Adventure.Proofs.Logic.Phrases
import Adventure.Proofs.Matching.Determination
import Adventure.Proofs.World.Joining
import Adventure.Proofs.World.Preservation

namespace Adventure

theorem Text.IsSimple.braceless {text : String} (simple : IsSimple text) : Template.Braceless text := by
  intro c member
  have plain := isSimpleChar_iff.mp (simple.2 c member)
  refine ⟨?_, ?_⟩ <;> rintro rfl <;> revert plain <;> decide

namespace Core

/-- The words that commands are made of, apart from the names of things. -/
def commandWords : List String :=
  ["go", "north", "south", "east", "west", "open", "close", "lock", "unlock", "with", "take", "from", "drop", "insert",
    "into", "put", "on", "eat", "look", "inventory", "examine"]

/-- A command about one thing. -/
def about (verb : String) (item : Placeholder) : List Part := [.word verb, .item item]

/-- A command about two things with a word between them. -/
def relating (verb : String) (item : Placeholder) (relation : String) (other : Placeholder) : List Part :=
  [.word verb, .item item, .word relation, .item other]

/-- How the command of each rule reads. -/
def commands : List (Rule × List Part) :=
  [(goNorth, [.word "go", .word "north"]), (goSouth, [.word "go", .word "south"]),
    (goEast, [.word "go", .word "east"]), (goWest, [.word "go", .word "west"]),
    (openDoor, about "open" door), (closeDoor, about "close" door),
    (lockDoor, relating "lock" door "with" key), (unlockDoor, relating "unlock" door "with" key),
    (openContainer, about "open" container), (closeContainer, about "close" container),
    (lockContainer, relating "lock" container "with" key), (unlockContainer, relating "unlock" container "with" key),
    (take, about "take" object), (drop, about "drop" object),
    (takeFromContainer, relating "take" object "from" container), (insert, relating "insert" object "into" container),
    (takeFromSupporter, relating "take" object "from" supporter), (put, relating "put" object "on" supporter),
    (eat, about "eat" food), (look, [.word "look"]), (takeStock, [.word "inventory"]),
    (examineThing, about "examine" thing), (examineHeld, about "examine" object)]

theorem commands_rules : commands.map Prod.fst = rules := rfl

theorem commands_apart : ∀ command ∈ commands, command.2.IsChain Part.Apart := by
  decide

theorem commands_words : ∀ command ∈ commands, ∀ part ∈ command.2, ∀ text ∈ part.word?,
    Text.IsSimple text ∧ text ∈ commandWords := by
  decide

/-- Commands are about what the player can see, and say what they need of it. -/
theorem commands_items : ∀ command ∈ commands, ∀ p ∈ command.2.filterMap Part.item?,
    p ∈ command.1.before.flatMap Pattern.parameters ∧ Disjoint p.type "P" ∧ Disjoint p.type "I" := by
  decide

theorem commands_phrased : ∀ command ∈ commands, command.1.Phrased command.2 := by
  have templates : ∀ command ∈ commands,
      command.1.template = some (Part.phrase (fun p => Template.slot p.name) command.2) := by
    decide
  have names : ∀ command ∈ commands, ∀ p ∈ command.1.placeholders, Template.Braceless p.name ∧ p.name ≠ "" ∧
      ∀ q ∈ command.1.placeholders, q.name = p.name → q = p := by
    decide
  intro command listed
  refine ⟨templates command listed, fun part member text here => ?_, fun part member p here => ?_, names command listed⟩
  · exact (commands_words command listed part member text here).1.braceless
  · have item : p ∈ command.2.filterMap Part.item? := List.mem_filterMap.mpr ⟨part, member, here⟩
    exact Rule.mem_placeholders_of_before (commands_items command listed p item).1

/-- Two placeholders that stand for different things: their types have nothing in common, or their rules have them in
places of different kinds. -/
def Clash (rule other : Rule) (pair : Placeholder × Placeholder) : Prop :=
  Disjoint pair.1.type pair.2.type ∨ ∃ pattern ∈ rule.before, ∃ against ∈ other.before,
    pattern.predicate ≠ against.predicate ∧ pattern.aspect = some (.place, pair.1) ∧
      against.aspect = some (.place, pair.2)

instance (rule other : Rule) : DecidablePred (Clash rule other) := by
  unfold Clash
  infer_instance

/-- Where two commands have the same words between their items, some of the items cannot be the same. -/
theorem commands_clash : ∀ command ∈ commands, ∀ other ∈ commands, ∀ pairs ∈ Part.paired command.2 other.2,
    command = other ∨ ∃ pair ∈ pairs, Clash command.1 other.1 pair := by
  decide

/-- A thing determines the room that it is in, a room and a door the room behind it, and a room what lies in a
direction. -/
def determinants : List Determinant :=
  ⟨"at", [0], 1⟩ :: ⟨"link", [0, 1], 2⟩ :: Direction.all.map fun direction => ⟨direction.predicate, [1], 0⟩

/-- The items of a command determine all that its rule speaks of. -/
theorem commands_traced : ∀ command ∈ commands, ∀ p ∈ command.1.placeholders,
    p ∈ command.1.traced determinants ([player, inventory] ++ command.2.filterMap Part.item?) := by
  decide

variable {s t : State} {rule : Rule} {a b binding : Binding} {x y action : Action} {p : Placeholder} {e : Entity}
  {naming : String → String} {command : Rule × List Part}

/-- In a tidy state in which no direction and no door leads from a room to two others, all is determined that play
goes by. -/
theorem Tidy.obeys (tidy : Tidy s) (unambiguous : s.Unambiguous)
    (hinged : ∀ a door b c, ⟨"link", [a, door, b]⟩ ∈ s.facts → ⟨"link", [a, door, c]⟩ ∈ s.facts → b = c) :
    ∀ determinant ∈ determinants, s.Obeys determinant := by
  have built := tidy.lawful.built
  have core := tidy.lawful.core
  intro determinant listed f holdsF g holdsG namedF namedG given
  simp only [determinants, List.mem_cons, List.mem_map] at listed
  rcases listed with rfl | rfl | ⟨direction, -, rfl⟩
  · obtain ⟨x, u, argumentsF, -⟩ := exists_at built core holdsF namedF
    obtain ⟨y, v, argumentsG, -⟩ := exists_at built core holdsG namedG
    have same : x = y := by simpa [argumentsF, argumentsG] using given 0 (by simp)
    have settledF : f.aspect = some (.place, x) := Fact.aspect_eq_some_iff.mpr ⟨namedF ▸ rfl, _, argumentsF⟩
    have settledG : g.aspect = some (.place, x) := Fact.aspect_eq_some_iff.mpr ⟨namedG ▸ rfl, _, same ▸ argumentsG⟩
    rw [tidy.consistent f holdsF g holdsG _ settledF settledG]
  · obtain ⟨room, door, target, rfl, -⟩ := exists_link built core holdsF namedF
    obtain ⟨room', door', target', rfl, -⟩ := exists_link built core holdsG namedG
    obtain ⟨sameRoom, sameDoor⟩ : room = room' ∧ door = door' := by simpa using given
    subst sameRoom sameDoor
    simpa using hinged _ _ _ _ holdsF holdsG
  · obtain ⟨a, b, rfl, -⟩ := exists_direction built core holdsF namedF
    obtain ⟨c, d, rfl, -⟩ := exists_direction built core holdsG namedG
    obtain rfl : b = d := by simpa using given
    simpa using unambiguous direction _ _ _ holdsF holdsG

/-- What the player can see and speak of. -/
def Visible (s : State) (e : Entity) : Prop := e ∈ s.entities ∧ ¬ IsA e "P" ∧ ¬ IsA e "I"

/-- A naming that tells what the player can see apart, in words of its own. -/
structure Distinguishes (naming : String → String) (s : State) : Prop where
  plain : ∀ e, Visible s e → Template.Braceless e.name ∧ e.name ≠ ""
  spoken : ∀ e, Visible s e → Text.Spoken commandWords (naming e.name)
  apart : ∀ e f, Visible s e → Visible s f → naming e.name = naming f.name → e = f

theorem Distinguishes.mono (distinguishes : Distinguishes naming s) (seen : ∀ e, Visible t e → Visible s e) :
    Distinguishes naming t where
  plain e here := distinguishes.plain e (seen e here)
  spoken e here := distinguishes.spoken e (seen e here)
  apart e f here there := distinguishes.apart e f (seen e here) (seen f there)

section Naming

variable (lawful : Lawful s) (listed : command ∈ commands) (admits : s.Admits Binding.fixed command.1 binding)

include lawful listed admits

theorem isA_of_admits (here : binding[p]? = some e) : IsA e p.type := by
  have member : command.1 ∈ rules := commands_rules ▸ List.mem_map_of_mem listed
  have typed : command.1.Typed s.kb := lawful.core ▸ rules_typed command.1 member
  have known := admits.declared lawful.built typed here
  have descends := admits.descends here
  rw [lawful.core] at known descends
  exact ⟨known, descends⟩

theorem visible_of_item (item : p ∈ command.2.filterMap Part.item?) :
    ∃ e, binding[p]? = some e ∧ Visible s e ∧ IsA e p.type := by
  obtain ⟨needed, player, inventory⟩ := commands_items command listed p item
  obtain ⟨e, here⟩ := SortedMap.mem_iff.mp ((admits.domain p).mpr (Rule.mem_placeholders_of_before needed))
  have isA := isA_of_admits lawful listed admits here
  obtain ⟨pattern, among, parameter⟩ := List.mem_flatMap.mp needed
  obtain ⟨fact, holds, ground⟩ := admits.holds pattern among
  have known := lawful.built.indexed.mem_entities.mpr ⟨fact, holds, Pattern.mem_arguments ground parameter here⟩
  exact ⟨e, here, ⟨known, fun other => isA.not_disjoint other player, fun other => isA.not_disjoint other inventory⟩, isA⟩

variable (distinguishes : Distinguishes naming s)

include distinguishes

theorem commandWith_eq (instantiated : command.1.instantiate binding = .ok action) :
    action.commandWith naming = Part.phrase (binding.call naming) command.2 := by
  refine Rule.commandWith_eq (commands_phrased command listed) admits.domain ?_ instantiated naming
  intro part member p item e here
  obtain ⟨same, value, visible, -⟩ :=
    visible_of_item lawful listed admits (List.mem_filterMap.mpr ⟨part, member, item⟩)
  cases here.symm.trans value
  exact distinguishes.plain e visible

theorem legible_command : Part.Legible commandWords (binding.call naming) command.2 := by
  refine ⟨commands_apart command listed, commands_words command listed, fun part member p item => ?_⟩
  obtain ⟨e, here, visible, -⟩ := visible_of_item lawful listed admits (List.mem_filterMap.mpr ⟨part, member, item⟩)
  rw [Binding.call, here]
  exact distinguishes.spoken e visible

end Naming

theorem exists_command (indexed : s.Indexed) (listed : action ∈ s.actions rules Binding.fixed) :
    ∃ command ∈ commands, ∃ binding, s.Admits Binding.fixed command.1 binding ∧
      command.1.instantiate binding = .ok action := by
  obtain ⟨rule, member, binding, admits, instantiated⟩ := (State.mem_actions_iff indexed).mp listed
  rw [← commands_rules, List.mem_map] at member
  obtain ⟨command, listed, rfl⟩ := member
  exact ⟨command, listed, binding, admits, instantiated⟩

theorem fixed_agree (first : s.Admits Binding.fixed rule a) (second : s.Admits Binding.fixed rule b)
    (known : p ∈ Binding.fixed) : a[p]? = b[p]? := by
  obtain ⟨e, value⟩ := SortedMap.mem_iff.mp known
  by_cases listed : p ∈ rule.placeholders
  · rw [first.agrees p listed e value, second.agrees p listed e value]
  · rw [Std.ExtTreeMap.getElem?_eq_none (mt (first.domain p).mp listed),
      Std.ExtTreeMap.getElem?_eq_none (mt (second.domain p).mp listed)]

/-- Two placeholders that clash stand for different things. -/
theorem Clash.ne {other : Rule} {q : Placeholder} (clash : Clash rule other (p, q)) (consistent : s.Consistent)
    (first : s.Admits Binding.fixed rule a) (second : s.Admits Binding.fixed other b) {f : Entity} (isA : IsA e p.type)
    (also : IsA f q.type) (here : a[p]? = some e) (there : b[q]? = some f) : e ≠ f := by
  rintro rfl
  rcases clash with disjoint | ⟨pattern, condition, against, counter, apart, settled, opposed⟩
  · exact isA.not_disjoint also disjoint
  · obtain ⟨fact, holds, ground⟩ := first.holds pattern condition
    obtain ⟨rival, stands, grounded⟩ := second.holds against counter
    have same := consistent fact holds rival stands _ (Pattern.aspect_of_value ground settled here)
      (Pattern.aspect_of_value grounded opposed there)
    refine apart ?_
    rw [(Pattern.ground_eq_some_iff.mp ground).1, same, (Pattern.ground_eq_some_iff.mp grounded).1]

/-- A state in which it is clear what a command means: all is determined that play goes by, and what the player can see
is told apart. -/
structure Clear (naming : String → String) (s : State) : Prop where
  tidy : Tidy s
  obeys : ∀ determinant ∈ determinants, s.Obeys determinant
  names : Distinguishes naming s

namespace Clear

/-- The words of a command are in small letters. -/
theorem isSimple (clear : Clear naming s) (listed : action ∈ s.actions rules Binding.fixed) :
    ∀ word ∈ Text.words (action.commandWith naming), Text.IsSimple word := by
  have lawful := clear.tidy.lawful
  obtain ⟨command, member, binding, admits, instantiated⟩ := exists_command lawful.built.indexed listed
  rw [commandWith_eq lawful member admits clear.names instantiated]
  exact (legible_command lawful member admits clear.names).isSimple

/-- No two actions that can be taken have commands of the same words. -/
theorem eq_of_words (clear : Clear naming s) (listedX : x ∈ s.actions rules Binding.fixed)
    (listedY : y ∈ s.actions rules Binding.fixed)
    (same : Text.words (x.commandWith naming) = Text.words (y.commandWith naming)) : x = y := by
  have lawful := clear.tidy.lawful
  obtain ⟨command, member, a, first, instantiated⟩ := exists_command lawful.built.indexed listedX
  obtain ⟨other, also, b, second, realized⟩ := exists_command lawful.built.indexed listedY
  rw [commandWith_eq lawful member first clear.names instantiated,
    commandWith_eq lawful also second clear.names realized] at same
  have agree := Part.agrees_of_words (legible_command lawful member first clear.names)
    (legible_command lawful also second clear.names) same
  have meant {p q : Placeholder} (itemP : p ∈ command.2.filterMap Part.item?) (itemQ : q ∈ other.2.filterMap Part.item?)
      (names : Text.words (a.call naming p) = Text.words (b.call naming q)) :
      ∃ e, a[p]? = some e ∧ b[q]? = some e ∧ IsA e p.type ∧ IsA e q.type := by
    obtain ⟨e, here, visible, isA⟩ := visible_of_item lawful member first itemP
    obtain ⟨f, there, seen, isToo⟩ := visible_of_item lawful also second itemQ
    rw [Binding.call, here, Binding.call, there] at names
    have called := (clear.names.spoken e visible).eq_of_words (clear.names.spoken f seen) names
    cases clear.names.apart e f visible seen called
    exact ⟨e, here, there, isA, isToo⟩
  obtain ⟨pairs, found, names⟩ := Part.exists_paired agree
  rcases commands_clash command member other also pairs found with rfl | ⟨⟨p, q⟩, paired, clash⟩
  · refine first.action_eq second clear.obeys (fun p known => ?_) (commands_traced command member) instantiated realized
    rcases List.mem_append.mp known with given | item
    · have fixed : ∀ p ∈ [player, inventory], p ∈ Binding.fixed := by decide
      exact fixed_agree first second (fixed p given)
    · obtain ⟨e, here, there, -⟩ := meant item item (Part.words_of_agrees agree p item)
      rw [here, there]
  · obtain ⟨itemP, itemQ, equal⟩ := names (p, q) paired
    obtain ⟨e, here, there, isA, isToo⟩ := meant itemP itemQ equal
    exact absurd rfl (clash.ne clear.tidy.consistent first second isA isToo here there)

end Clear

end Core

end Adventure
