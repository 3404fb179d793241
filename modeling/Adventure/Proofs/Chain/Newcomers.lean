import Adventure.Proofs.Chain.Playable
import Adventure.Proofs.Logic.Minting
import Mathlib.Data.Set.Card

namespace Adventure.Backward

/-- An entity of a type that the subgoals mention and the start does not have. -/
def Newcomer (start : State) (subgoals : FactSet) (type : String) (e : Entity) : Prop :=
  e.type = type ∧ e ∉ start.entities ∧ ∃ fact ∈ subgoals, e ∈ fact.arguments

/-- Only one of the subgoals mentions the entity, and in one place only. -/
def MentionedOnce (subgoals : FactSet) (e : Entity) : Prop :=
  (∀ fact ∈ subgoals, fact.arguments.count e ≤ 1) ∧
    ∀ fact ∈ subgoals, ∀ other ∈ subgoals, e ∈ fact.arguments → e ∈ other.arguments → fact = other

/-- The entity has a type, and the start does not have it. -/
def isNew (start : State) (type : String) (e : Entity) : Bool := e.type == type && !start.hasEntity e

/-- The places where subgoals mention entities of a type that the start does not have. -/
def mentions (start : State) (subgoals : FactSet) (type : String) : List Entity :=
  (subgoals.toList.flatMap Fact.arguments).filter (isNew start type)

variable {options : ChainOptions} {start : State} {subgoals : FactSet} {type : String} {e : Entity}

theorem isNew_iff : isNew start type e = true ↔ e.type = type ∧ e ∉ start.entities := by
  rw [isNew, Bool.and_eq_true, beq_iff_eq, Bool.not_eq_true', State.hasEntity_eq_false]

theorem mem_mentions : e ∈ mentions start subgoals type ↔ Newcomer start subgoals type e := by
  simp only [mentions, Newcomer, List.mem_filter, List.mem_flatMap, Std.ExtTreeSet.mem_toList, isNew_iff]
  tauto

theorem ncard_newcomers (start : State) (subgoals : FactSet) (type : String) :
    {e | Newcomer start subgoals type e}.ncard = (mentions start subgoals type).dedup.length := by
  have same : {e | Newcomer start subgoals type e} = ((mentions start subgoals type).toFinset : Set Entity) := by
    ext e
    rw [List.coe_toFinset]
    exact mem_mentions.symm
  rw [same, Set.ncard_coe_finset, List.card_toFinset]

/-- No newcomer is met twice exactly if each is mentioned once: neither two of the subgoals nor two arguments of one
mention it. -/
theorem nodup_mentions_iff : (mentions start subgoals type).Nodup ↔
    ∀ e, Newcomer start subgoals type e → MentionedOnce subgoals e := by
  rw [mentions, List.filter_flatMap, List.nodup_flatMap]
  simp only [Std.ExtTreeSet.mem_toList]
  constructor
  · rintro ⟨each, apart⟩ e ⟨typed, new, -⟩
    have passes : isNew start type e = true := isNew_iff.mpr ⟨typed, new⟩
    refine ⟨fun fact subgoal => ?_, fun fact subgoal other among here there => ?_⟩
    · have once := List.nodup_iff_count_le_one.mp (each fact subgoal) e
      rwa [List.count_filter passes] at once
    · by_contra different
      have : Std.Symm (Function.onFun List.Disjoint fun fact : Fact => fact.arguments.filter (isNew start type)) :=
        ⟨fun _ _ => List.Disjoint.symm⟩
      have disjoint := apart.forall (Std.ExtTreeSet.mem_toList.mpr subgoal) (Std.ExtTreeSet.mem_toList.mpr among)
        different
      exact disjoint (List.mem_filter.mpr ⟨here, passes⟩) (List.mem_filter.mpr ⟨there, passes⟩)
  · intro once
    have newcomer {e : Entity} {fact : Fact} (subgoal : fact ∈ subgoals)
        (mentioned : e ∈ fact.arguments.filter (isNew start type)) : Newcomer start subgoals type e := by
      obtain ⟨here, passes⟩ := List.mem_filter.mp mentioned
      obtain ⟨typed, new⟩ := isNew_iff.mp passes
      exact ⟨typed, new, fact, subgoal, here⟩
    refine ⟨fun fact subgoal => List.nodup_iff_count_le_one.mpr fun e => ?_, ?_⟩
    · by_cases mentioned : e ∈ fact.arguments.filter (isNew start type)
      · rw [List.count_filter (List.mem_filter.mp mentioned).2]
        exact (once e (newcomer subgoal mentioned)).1 fact subgoal
      · rw [List.count_eq_zero_of_not_mem mentioned]
        exact Nat.zero_le 1
    · refine (SortedSet.nodup_toList subgoals).imp_of_mem fun first second different e inFirst inSecond => ?_
      rw [Std.ExtTreeSet.mem_toList] at first second
      exact different ((once e (newcomer first inFirst)).2 _ first _ second (List.mem_filter.mp inFirst).1
        (List.mem_filter.mp inSecond).1)

/-- There are as many newcomers as mentions of them exactly if each is mentioned once; otherwise there are fewer. -/
theorem freshMentions_eq_ncard_iff : freshMentions start subgoals type = {e | Newcomer start subgoals type e}.ncard ↔
    ∀ e, Newcomer start subgoals type e → MentionedOnce subgoals e := by
  rw [ncard_newcomers, ← nodup_mentions_iff, ← List.dedup_eq_self, ← (List.dedup_sublist _).length_eq, eq_comm]
  rfl

theorem ncard_le_freshMentions (start : State) (subgoals : FactSet) (type : String) :
    {e | Newcomer start subgoals type e}.ncard ≤ freshMentions start subgoals type := by
  rw [ncard_newcomers]
  exact (List.dedup_sublist _).length_le

/-- A placeholder may stand for an entity that is made up for it exactly if such entities may be made up and the check
permits its type at the number of mentions. -/
theorem exists_new_iff {names : FreshNames} {placeholders : List Placeholder} {p : Placeholder} {es : List Entity}
    (choice : (p, es) ∈ choices options start subgoals (pool start subgoals).toList names placeholders) :
    (∃ e ∈ es, e ∉ pool start subgoals) ↔ options.createEntities = true ∧
      options.isRestricted start.kb p.type = false ∧
      options.checkNew start p.type (freshMentions start subgoals p.type) = true := by
  induction placeholders generalizing names with
  | nil => cases choice
  | cons first rest ih =>
    rw [choices] at choice
    dsimp only at choice
    split at choice
    next may =>
      rcases List.mem_cons.mp choice with here | later
      · cases here
        rw [Bool.and_eq_true, Bool.and_eq_true, Bool.not_eq_true', and_assoc] at may
        refine iff_of_true ⟨_, List.mem_append_right _ List.mem_cons_self, fun known => ?_⟩ may
        obtain ⟨number, -, made, free, -⟩ := names.mint_spec p.type ((pool start subgoals).toList.map Entity.name)
        refine free ?_
        rw [made] at known
        exact List.mem_map_of_mem (Std.ExtTreeSet.mem_toList.mpr known)
      · exact ih later
    next mayNot =>
      rcases List.mem_cons.mp choice with here | later
      · cases here
        rw [Bool.and_eq_true, Bool.and_eq_true, Bool.not_eq_true', and_assoc] at mayNot
        refine iff_of_false ?_ mayNot
        rintro ⟨e, fitting, unknown⟩
        exact unknown (Std.ExtTreeSet.mem_toList.mp (List.mem_filter.mp fitting).1)
      · exact ih later

/-- What a check of new entities is told. Wherever a rule is completed, for each open placeholder the check is asked
at the number of places where the subgoals mention newcomers of its type. That is never less than the number of these
newcomers, and it is that number exactly if each of them is mentioned once. -/
theorem check_counts_mentions (options : ChainOptions) (start : State) (node : Node FactSet) {rule : Rule}
    {binding : Binding} {p : Placeholder} (listed : p ∈ rule.placeholders) (unbound : p ∉ binding) :
    (∃ found es, completions options start node.value rule binding = bindChoices found binding ∧ (p, es) ∈ found ∧
      ((∃ e ∈ es, e ∉ pool start node.value) ↔ options.createEntities = true ∧
        options.isRestricted start.kb p.type = false ∧
        options.checkNew start p.type (freshMentions start node.value p.type) = true)) ∧
    {e | Newcomer start node.value p.type e}.ncard ≤ freshMentions start node.value p.type ∧
    (freshMentions start node.value p.type = {e | Newcomer start node.value p.type e}.ncard ↔
      ∀ e, Newcomer start node.value p.type e → MentionedOnce node.value e) := by
  refine ⟨?_, ncard_le_freshMentions .., freshMentions_eq_ncard_iff⟩
  have free : p ∈ rule.placeholders.filter (!binding.contains ·) := Binding.mem_filter_unbound.mpr ⟨listed, unbound⟩
  have covered : (choices options start node.value (pool start node.value).toList .empty
      (rule.placeholders.filter (!binding.contains ·))).map Prod.fst = rule.placeholders.filter (!binding.contains ·) :=
    choices_placeholders ..
  rw [← covered] at free
  obtain ⟨⟨q, es⟩, choice, rfl⟩ := List.mem_map.mp free
  refine ⟨_, es, ?_, choice, exists_new_iff choice⟩
  rw [completions]
  split
  -- without choices no placeholder would be open
  next none =>
    rw [none] at choice
    cases choice
  next => rfl

/-- The chest is to be locked, and more is to be true. So many keys may be made up. -/
def lockWith (more : List Fact) (limit : Nat) : ChainOptions :=
  { lockChest with
    goal := some (⟨"locked", [⟨"chest", "c"⟩]⟩ :: more)
    checkNew := fun _ type count => type != "k" || count < limit }

def rootOf (more : List Fact) : Node FactSet := ⟨SortedSet.of (⟨"locked", [⟨"chest", "c"⟩]⟩ :: more), [], .empty⟩

/-- The player is to hold another key. -/
def holdBrass : Fact := ⟨"in", [⟨"brass", "k"⟩, ⟨"I", "I"⟩]⟩

/-- The other key is to open a box. -/
def brassFits : Fact := ⟨"match", [⟨"brass", "k"⟩, ⟨"box", "c"⟩]⟩

theorem check_counts_mentions_brass :
    freshMentions closedChestState (rootOf [holdBrass]).value "k" = 1 ∧
    {e | Newcomer closedChestState (rootOf [holdBrass]).value "k" e}.ncard = 1 ∧
    (∀ e, Newcomer closedChestState (rootOf [holdBrass]).value "k" e → MentionedOnce (rootOf [holdBrass]).value e) ∧
    ∃ found es, completions (lockWith [holdBrass] 2) closedChestState (rootOf [holdBrass]).value Core.lockContainer
        (Binding.fixed.insert Core.container ⟨"chest", "c"⟩) =
      bindChoices found (Binding.fixed.insert Core.container ⟨"chest", "c"⟩) ∧ (Core.key, es) ∈ found ∧
      ∃ e ∈ es, e ∉ pool closedChestState (rootOf [holdBrass]).value := by
  have listed : Core.key ∈ Core.lockContainer.placeholders := by decide
  have unbound : Core.key ∉ (Binding.fixed.insert Core.container ⟨"chest", "c"⟩ : Binding) := by decide
  have mentioned : freshMentions closedChestState (rootOf [holdBrass]).value "k" = 1 := by decide
  have one : {e | Newcomer closedChestState (rootOf [holdBrass]).value "k" e}.ncard = 1 := by
    rw [ncard_newcomers]
    decide
  obtain ⟨⟨found, es, same, choice, asked⟩, -, once⟩ :=
    check_counts_mentions (lockWith [holdBrass] 2) closedChestState (rootOf [holdBrass]) listed unbound
  refine ⟨mentioned, one, once.mp (mentioned.trans one.symm), found, es, same, choice, asked.mpr ?_⟩
  decide

/-- One key that is mentioned twice counts as two. So where two keys may be made up, none is made up beside it for the
chest, and the search fails; where three may be, it succeeds. -/
theorem spare_key_counts_twice :
    {e | Newcomer closedChestState (rootOf [holdBrass, brassFits]).value "k" e}.ncard = 1 ∧
    freshMentions closedChestState (rootOf [holdBrass, brassFits]).value "k" = 2 ∧
    Chain.find closedChestState (lockWith [holdBrass, brassFits] 2) = .error (.noChain .backwardExhausted) ∧
    ∃ chain, Chain.find closedChestState (lockWith [holdBrass, brassFits] 3) = .ok chain ∧
      chain.actions.map Action.command = ["lock chest with k_0"] := by
  have fails : (Search.fromRoot (strategy (lockWith [holdBrass, brassFits] 2) closedChestState
      [⟨"locked", [⟨"chest", "c"⟩]⟩, holdBrass, brassFits]) (rootOf [holdBrass, brassFits]).root none).map
        (·.actions.map Action.command) = .error (.noChain .backwardExhausted) := by
    rw [Search.fromRoot_eq_tour]
    decide +kernel
  have way : (Search.descend (strategy (lockWith [holdBrass, brassFits] 3) closedChestState
      [⟨"locked", [⟨"chest", "c"⟩]⟩, holdBrass, brassFits]) 1 (rootOf [holdBrass, brassFits]) none).map
        (·.actions.map Action.command) = some ["lock chest with k_0"] := by decide +kernel
  refine ⟨?_, by decide, ?_, ?_⟩
  · rw [ncard_newcomers]
    decide
  · exact bind_eq_error_iff.mpr (.inr ⟨(), rfl, map_eq_error_iff.mp fails⟩)
  · obtain ⟨chain, way, commands⟩ := Option.map_eq_some_iff.mp way
    exact ⟨chain, bind_eq_ok_iff.mpr ⟨(), rfl, Search.fromRoot_of_descend way (by decide)⟩, commands⟩

end Adventure.Backward
