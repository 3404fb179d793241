import Adventure.Proofs.Knowledge.Accepted
import Mathlib.Logic.Relation

namespace Adventure

namespace InversePair

variable {pair : InversePair} {pairs earlier later rest : List InversePair} {a b : String}

def Names (pair : InversePair) (rule : String) : Prop := pair.rule = rule ∨ pair.inverse = rule

/-- The pair says that two rules undo each other. -/
def Joins (pair : InversePair) (a b : String) : Prop :=
  pair.rule = a ∧ pair.inverse = b ∨ pair.rule = b ∧ pair.inverse = a

theorem Joins.symm (joins : pair.Joins a b) : pair.Joins b a := Or.symm joins

theorem Joins.names (joins : pair.Joins a b) : pair.Names a := joins.imp And.left And.right

/-- The last pair that names a rule joins it with another one. -/
def Decides (pairs : List InversePair) (a b : String) : Prop :=
  ∃ earlier pair later, pairs = earlier ++ pair :: later ∧ pair.Joins a b ∧ ∀ other ∈ later, ¬ other.Names a

theorem Decides.append (decides : Decides later a b) (earlier : List InversePair) :
    Decides (earlier ++ later) a b := by
  obtain ⟨front, pair, back, rfl, joins, last⟩ := decides
  exact ⟨earlier ++ front, pair, back, by rw [List.append_assoc], joins, last⟩

theorem decides_cons : Decides (pair :: rest) a b ↔
    Decides rest a b ∨ (∀ other ∈ rest, ¬ other.Names a) ∧ pair.Joins a b := by
  constructor
  · rintro ⟨front, last, back, whole, joins, after⟩
    rcases List.cons_eq_append_iff.mp whole with ⟨rfl, same⟩ | ⟨front, rfl, rfl⟩
    · cases same
      exact .inr ⟨after, joins⟩
    · exact .inl ⟨front, last, back, rfl, joins, after⟩
  · rintro (decides | ⟨after, joins⟩)
    · exact decides.append [pair]
    · exact ⟨[], pair, rest, rfl, joins, after⟩

/-- Each pair is followed by pairs that name both its rules, or by none that names either. -/
def Balanced (pairs : List InversePair) : Prop :=
  ∀ earlier pair later, pairs = earlier ++ pair :: later →
    ((∃ other ∈ later, other.Names pair.rule) ↔ ∃ other ∈ later, other.Names pair.inverse)

theorem balanced_nil : Balanced [] := by
  intro earlier pair later whole
  simp at whole

theorem balanced_cons : Balanced (pair :: rest) ↔
    ((∃ other ∈ rest, other.Names pair.rule) ↔ ∃ other ∈ rest, other.Names pair.inverse) ∧ Balanced rest := by
  constructor
  · intro balanced
    refine ⟨balanced [] pair rest rfl, fun earlier other later whole => ?_⟩
    exact balanced (pair :: earlier) other later (by rw [whole, List.cons_append])
  · rintro ⟨here, balanced⟩ earlier other later whole
    rcases List.cons_eq_append_iff.mp whole with ⟨-, same⟩ | ⟨front, -, rfl⟩
    · cases same
      exact here
    · exact balanced front other later rfl

instance (pair : InversePair) (rule : String) : Decidable (pair.Names rule) :=
  inferInstanceAs (Decidable (_ ∨ _))

instance decidableBalanced : (pairs : List InversePair) → Decidable (Balanced pairs)
  | [] => .isTrue balanced_nil
  | _ :: rest =>
    have := decidableBalanced rest
    decidable_of_iff _ balanced_cons.symm

end InversePair

namespace KnowledgeBase

open InversePair

variable {pairs rest : List InversePair} {pair : InversePair} {a b c : String}

theorem getElem?_inverseTable_cons (pair : InversePair) (rest : List InversePair) (a : String) :
    (inverseTable (pair :: rest))[a]? = (inverseTable rest)[a]?.or
      (if a = pair.inverse then some pair.rule else if a = pair.rule then some pair.inverse else none) := by
  have entries : ((pair :: rest).flatMap fun pair => [(pair.rule, pair.inverse), (pair.inverse, pair.rule)]).reverse =
      (rest.flatMap fun pair => [(pair.rule, pair.inverse), (pair.inverse, pair.rule)]).reverse ++
        [(pair.inverse, pair.rule), (pair.rule, pair.inverse)] := by
    simp
  rw [inverseTable, inverseTable, SortedMap.getElem?_of, SortedMap.getElem?_of, entries, List.lookup_append]
  congr 1
  by_cases inverse : a = pair.inverse
  · rw [if_pos inverse, inverse, List.lookup_cons_self]
  · rw [if_neg inverse, List.lookup_cons, beq_eq_false_iff_ne.mpr inverse]
    by_cases rule : a = pair.rule
    · rw [if_pos rule, rule, List.lookup_cons_self]
    · rw [if_neg rule, List.lookup_cons, beq_eq_false_iff_ne.mpr rule, List.lookup_nil]

theorem inverseTable_eq_none_iff : (inverseTable pairs)[a]? = none ↔ ∀ pair ∈ pairs, ¬ pair.Names a := by
  induction pairs with
  | nil => simp [inverseTable, SortedMap.of]
  | cons pair rest ih =>
    rw [getElem?_inverseTable_cons, Option.or_eq_none_iff, ih, List.forall_mem_cons, and_comm, Names, not_or]
    refine and_congr_left fun _ => ?_
    grind

/-- The table holds what the last pair says of a rule. -/
theorem inverseTable_eq_some_iff : (inverseTable pairs)[a]? = some b ↔ Decides pairs a b := by
  induction pairs with
  | nil => simp [inverseTable, SortedMap.of, Decides]
  | cons pair rest ih =>
    rw [getElem?_inverseTable_cons, Option.or_eq_some_iff, ih, inverseTable_eq_none_iff, decides_cons, Joins]
    refine or_congr_right (and_congr_right fun _ => ?_)
    grind

theorem decides_unique (first : Decides pairs a b) (second : Decides pairs a c) : b = c :=
  Option.some.inj ((inverseTable_eq_some_iff.mpr first).symm.trans (inverseTable_eq_some_iff.mpr second))

theorem exists_decides (named : ∃ pair ∈ pairs, pair.Names a) : ∃ b, Decides pairs a b := by
  cases found : (inverseTable pairs)[a]? with
  | none =>
    obtain ⟨pair, listed, names⟩ := named
    exact absurd names (inverseTable_eq_none_iff.mp found pair listed)
  | some b => exact ⟨b, inverseTable_eq_some_iff.mp found⟩

/-- What is said last of rules goes both ways exactly if no pair is overtaken in one of its rules alone. -/
theorem balanced_iff : Balanced pairs ↔ ∀ a b, Decides pairs a b → Decides pairs b a := by
  constructor
  · rintro balanced a b ⟨earlier, pair, later, whole, joins, last⟩
    have overtaken := balanced earlier pair later whole
    refine ⟨earlier, pair, later, whole, joins.symm, fun other listed names => ?_⟩
    rcases joins with ⟨rfl, rfl⟩ | ⟨rfl, rfl⟩
    · obtain ⟨other, listed, names⟩ := overtaken.mpr ⟨other, listed, names⟩
      exact last other listed names
    · obtain ⟨other, listed, names⟩ := overtaken.mp ⟨other, listed, names⟩
      exact last other listed names
  · intro bothWays earlier pair later whole
    -- if later pairs name `b` but not `a`, then `a` keeps `b`, while `b` goes to a rule that is not `a`
    have both {a b : String} (joins : pair.Joins a b) (named : ∃ other ∈ later, other.Names b) :
        ∃ other ∈ later, other.Names a := by
      by_contra unnamed
      have kept : Decides pairs b a :=
        bothWays a b ⟨earlier, pair, later, whole, joins, fun other listed names => unnamed ⟨other, listed, names⟩⟩
      obtain ⟨c, decides⟩ := exists_decides named
      have lost : Decides pairs b c := by
        rw [whole, ← List.singleton_append, ← List.append_assoc]
        exact decides.append (earlier ++ [pair])
      cases decides_unique kept lost
      obtain ⟨front, other, back, rfl, joins, -⟩ := decides
      exact unnamed ⟨other, by simp, joins.symm.names⟩
    exact ⟨both (.inr ⟨rfl, rfl⟩), both (.inl ⟨rfl, rfl⟩)⟩

variable {kb restricted : KnowledgeBase} {rule : Rule} {name : String} {names : List String}

theorem rule?_eq_some (found : kb.rule? name = some rule) : rule ∈ kb.rules ∧ rule.name = name := by
  rw [rule?, List.findRev?_eq_find?_reverse] at found
  exact ⟨List.mem_reverse.mp (List.mem_of_find?_eq_some found), by simpa using List.find?_some found⟩

theorem exists_rule? (known : ∃ rule ∈ kb.rules, rule.name = name) : ∃ rule, kb.rule? name = some rule := by
  obtain ⟨rule, member, rfl⟩ := known
  rw [← Option.isSome_iff_exists, rule?, List.findRev?_eq_find?_reverse, List.find?_isSome]
  exact ⟨rule, List.mem_reverse.mpr member, beq_self_eq_true _⟩

/-- Each rule that the table names is there. -/
def Backed (kb : KnowledgeBase) : Prop :=
  ∀ a b : String, kb.inverses[a]? = some b → (∃ rule, kb.rule? a = some rule) ∧ ∃ rule, kb.rule? b = some rule

/-- Whenever a rule is undone by another, that one is undone by the rule. -/
def Mutual (kb : KnowledgeBase) : Prop :=
  ∀ name undo, kb.inverseRule name = some undo →
    ∃ rule, kb.rule? name = some rule ∧ kb.inverseRule undo.name = some rule

theorem inverseRule_eq_some_iff : kb.inverseRule name = some rule ↔
    kb.inverses[name]? = some rule.name ∧ kb.rule? rule.name = some rule := by
  rw [inverseRule, Option.bind_eq_some_iff]
  constructor
  · rintro ⟨other, declared, found⟩
    cases (rule?_eq_some found).2
    exact ⟨declared, found⟩
  · exact fun ⟨declared, found⟩ => ⟨rule.name, declared, found⟩

theorem Backed.mutual_iff (backed : kb.Backed) :
    kb.Mutual ↔ ∀ a b : String, kb.inverses[a]? = some b → kb.inverses[b]? = some a := by
  constructor
  · intro bothWays a b declared
    obtain ⟨-, undo, found⟩ := backed a b declared
    cases (rule?_eq_some found).2
    obtain ⟨rule, known, back⟩ := bothWays a undo (inverseRule_eq_some_iff.mpr ⟨declared, found⟩)
    cases (rule?_eq_some known).2
    exact (inverseRule_eq_some_iff.mp back).1
  · intro symmetric name undo undone
    obtain ⟨declared, -⟩ := inverseRule_eq_some_iff.mp undone
    obtain ⟨⟨rule, known⟩, -⟩ := backed name undo.name declared
    refine ⟨rule, known, inverseRule_eq_some_iff.mpr ?_⟩
    cases (rule?_eq_some known).2
    exact ⟨symmetric _ _ declared, known⟩

theorem backed_of_ofRecord {record : KnowledgeRecord} (accepted : ofRecord record = .ok kb) : kb.Backed := by
  obtain ⟨flawless, types, -, rfl⟩ := ofRecord_eq_ok_iff.mp accepted
  have known {pair : InversePair} (listed : pair ∈ record.inverses) {name : String} (names : pair.Names name) :
      ∃ rule, (build record types).rule? name = some rule := by
    simp only [KnowledgeRecord.problems, List.append_eq_nil_iff, List.flatMap_eq_nil_iff] at flawless
    obtain ⟨⟨-, inverses⟩, -⟩ := flawless
    have named : name ∈ [pair.rule, pair.inverse] := by
      rcases names with rfl | rfl <;> simp
    have declared := KnowledgeRecord.mem_of_checkReference (inverses pair listed name named)
    obtain ⟨declaration, member, rfl⟩ := List.mem_map.mp declared
    exact exists_rule? ⟨declaration.rule, List.mem_map_of_mem member, rfl⟩
  intro a b declared
  obtain ⟨earlier, pair, later, whole, joins, -⟩ := inverseTable_eq_some_iff.mp declared
  have listed : pair ∈ record.inverses := by
    rw [whole]
    exact List.mem_append_right _ List.mem_cons_self
  exact ⟨known listed joins.names, known listed joins.symm.names⟩

theorem exists_mem_of_mapM {ε α β : Type} {f : α → Except ε β} {xs : List α} {ys : List β} {x : α}
    (run : xs.mapM f = .ok ys) (member : x ∈ xs) : ∃ y ∈ ys, f x = .ok y := by
  induction xs generalizing ys with
  | nil => cases member
  | cons first rest ih =>
    rw [List.mapM_cons] at run
    obtain ⟨y, here, run⟩ := bind_eq_ok_iff.mp run
    obtain ⟨others, later, run⟩ := bind_eq_ok_iff.mp run
    cases run
    rcases List.mem_cons.mp member with rfl | further
    · exact ⟨y, List.mem_cons_self, here⟩
    · obtain ⟨other, listed, there⟩ := ih later further
      exact ⟨other, List.mem_cons_of_mem y listed, there⟩

theorem inverses_withRules (chosen : kb.withRules names = .ok restricted) :
    restricted.inverses[a]? = some b ↔ kb.inverses[a]? = some b ∧ a ∈ names ∧ b ∈ names := by
  obtain ⟨rules, -, same⟩ := bind_eq_ok_iff.mp chosen
  cases same
  simp [Std.ExtTreeMap.getElem?_filter]

/-- Where only some rules are kept, the table names no others. -/
theorem backed_of_withRules (chosen : kb.withRules names = .ok restricted) : restricted.Backed := by
  have kept {name : String} (listed : name ∈ names) : ∃ rule, restricted.rule? name = some rule := by
    obtain ⟨rules, found, same⟩ := bind_eq_ok_iff.mp chosen
    cases same
    obtain ⟨rule, member, here⟩ := exists_mem_of_mapM found listed
    rw [KnowledgeBase.rule] at here
    split at here
    next found =>
      cases here
      exact exists_rule? ⟨rule, member, (rule?_eq_some found).2⟩
    next => cases here
  intro a b declared
  obtain ⟨-, first, second⟩ := (inverses_withRules chosen).mp declared
  exact ⟨kept first, kept second⟩

/-- A knowledge base, or what is left of it when only some rules are kept, once or several times. -/
def Restricts : KnowledgeBase → KnowledgeBase → Prop :=
  Relation.ReflTransGen fun kb restricted => ∃ names, kb.withRules names = .ok restricted

theorem Restricts.symmetric {other : KnowledgeBase} (restricts : kb.Restricts other)
    (symmetric : ∀ a b : String, kb.inverses[a]? = some b → kb.inverses[b]? = some a) :
    ∀ a b : String, other.inverses[a]? = some b → other.inverses[b]? = some a := by
  induction restricts with
  | refl => exact symmetric
  | tail _ step ih =>
    obtain ⟨names, chosen⟩ := step
    intro a b declared
    obtain ⟨before, first, second⟩ := (inverses_withRules chosen).mp declared
    exact (inverses_withRules chosen).mpr ⟨ih a b before, second, first⟩

theorem Restricts.backed {other : KnowledgeBase} (restricts : kb.Restricts other) (backed : kb.Backed) :
    other.Backed := by
  cases restricts with
  | refl => exact backed
  | tail _ step =>
    obtain ⟨names, chosen⟩ := step
    exact backed_of_withRules chosen

/-- In an accepted knowledge base the rules that undo each other do so both ways, exactly if no declared pair is
followed by pairs that name one of its rules and not the other. Then they do so in all its restrictions too. -/
theorem inverses_mutual_iff {record : KnowledgeRecord} (accepted : ofRecord record = .ok kb) :
    (kb.Mutual ↔ Balanced record.inverses) ∧
    ((∀ other, kb.Restricts other → other.Mutual) ↔ Balanced record.inverses) := by
  have backed := backed_of_ofRecord accepted
  have table : kb.inverses = inverseTable record.inverses := by
    obtain ⟨-, types, -, rfl⟩ := ofRecord_eq_ok_iff.mp accepted
    rfl
  have symmetric : (∀ a b : String, kb.inverses[a]? = some b → kb.inverses[b]? = some a) ↔
      Balanced record.inverses := by
    rw [balanced_iff, table]
    simp only [inverseTable_eq_some_iff]
  have itself : kb.Mutual ↔ Balanced record.inverses := backed.mutual_iff.trans symmetric
  refine ⟨itself, fun all => itself.mp (all kb .refl), fun balanced other restricts => ?_⟩
  exact (restricts.backed backed).mutual_iff.mpr (restricts.symmetric (symmetric.mpr balanced))

/-- The usual pairs have no rule in common. -/
theorem inverses_mutual_iff_core : ofRecord Core.declarations = .ok Core.knowledge ∧
    Balanced Core.declarations.inverses ∧ (∀ other, Core.knowledge.Restricts other → other.Mutual) ∧
    Core.knowledge.inverseRule "insert" = Core.knowledge.rule? "take/c" ∧
    Core.knowledge.inverseRule "take/c" = Core.knowledge.rule? "insert" := by
  have balanced : Balanced Core.declarations.inverses := by decide
  exact ⟨ofRecord_core, balanced, (inverses_mutual_iff ofRecord_core).2.mpr balanced, by decide, by decide⟩

end KnowledgeBase

namespace Lid

def chest : Placeholder := ⟨"c", "c"⟩

def opening : Rule := ⟨"open", [⟨"closed", [chest]⟩], [⟨"opened", [chest]⟩], none, false⟩

def closing (name : String) : Rule := ⟨name, [⟨"opened", [chest]⟩], [⟨"closed", [chest]⟩], none, false⟩

/-- A chest that can be opened, and closed in two ways, each of them declared to undo the opening. -/
def declarations : KnowledgeRecord where
  id := "lid"
  types := [⟨"c", []⟩]
  predicates := [⟨"opened", ["c"]⟩, ⟨"closed", ["c"]⟩]
  rules := [⟨opening, none⟩, ⟨closing "close", none⟩, ⟨closing "shut", none⟩]
  constraints := []
  inverses := [⟨"open", "close"⟩, ⟨"open", "shut"⟩]
  hints := []

def types : TypeHierarchy := .declared (declarations.types.map fun type => (type.name, type.parents))

def knowledge : KnowledgeBase := .build declarations types

/-- Opening undoes closing, but what undoes opening is shutting, and nothing where only the first two rules are
kept. -/
theorem inverse_one_way : KnowledgeBase.ofRecord declarations = .ok knowledge ∧
    knowledge.inverseRule "close" = some opening ∧ knowledge.inverseRule "open" = some (closing "shut") ∧
    ¬ knowledge.Mutual ∧ ∃ restricted, knowledge.withRules ["open", "close"] = .ok restricted ∧
      restricted.inverses["close"]? = some "open" ∧ restricted.inverses["open"]? = none ∧ ¬ restricted.Mutual := by
  have flawless : declarations.problems = [] := by decide +kernel
  have accepted : KnowledgeBase.ofRecord declarations = .ok knowledge :=
    KnowledgeBase.ofRecord_eq_ok_iff.mpr ⟨flawless, types, rfl, rfl⟩
  have shut : knowledge.inverses["open"]? = some "shut" := by decide
  obtain ⟨restricted, chosen⟩ : ∃ restricted, knowledge.withRules ["open", "close"] = .ok restricted := ⟨_, rfl⟩
  have undone : restricted.inverses["close"]? = some "open" :=
    (KnowledgeBase.inverses_withRules chosen).mpr (by decide)
  have nothing : restricted.inverses["open"]? = none := by
    refine Option.eq_none_iff_forall_ne_some.mpr fun name declared => ?_
    obtain ⟨before, -, kept⟩ := (KnowledgeBase.inverses_withRules chosen).mp declared
    cases shut.symm.trans before
    revert kept
    decide
  refine ⟨accepted, by decide, by decide, fun bothWays => ?_, restricted, chosen, undone, nothing, fun bothWays => ?_⟩
  · have back := (KnowledgeBase.backed_of_ofRecord accepted).mutual_iff.mp bothWays "close" "open" (by decide)
    rw [shut] at back
    revert back
    decide
  · have back := (KnowledgeBase.backed_of_withRules chosen).mutual_iff.mp bothWays "close" "open" undone
    cases nothing.symm.trans back

end Lid

end Adventure
