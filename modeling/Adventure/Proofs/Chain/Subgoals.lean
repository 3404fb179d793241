import Adventure.Chain.Basic
import Adventure.Proofs.Sorted
import Mathlib.Data.List.Induction

namespace Adventure

/-- The actions of a subgoal among actions that are put to subgoals. -/
def stepsOf (number : Nat) (steps : List (Nat × Action)) : List Action :=
  (steps.filter fun step => step.1 = number).map Prod.snd

section Steps

variable {number other : Nat} {action : Action} {steps more : List (Nat × Action)}

@[simp]
theorem stepsOf_nil : stepsOf number [] = [] := rfl

@[simp]
theorem stepsOf_append : stepsOf number (steps ++ more) = stepsOf number steps ++ stepsOf number more := by
  simp [stepsOf]

@[simp]
theorem stepsOf_cons_self : stepsOf number ((number, action) :: steps) = action :: stepsOf number steps := by
  simp [stepsOf]

theorem stepsOf_cons_of_ne (different : other ≠ number) :
    stepsOf number ((other, action) :: steps) = stepsOf number steps := by
  simp [stepsOf, different]

theorem mem_stepsOf : action ∈ stepsOf number steps ↔ (number, action) ∈ steps := by
  simp [stepsOf]

/-- A subgoal that has actions has a last one. -/
theorem exists_last_step (served : stepsOf number steps ≠ []) : ∃ earlier action later,
    steps = earlier ++ (number, action) :: later ∧ stepsOf number later = [] := by
  induction steps with
  | nil => exact absurd rfl served
  | cons step steps ih =>
    by_cases ends : stepsOf number steps = []
    · obtain ⟨other, action⟩ := step
      have same : other = number := Decidable.byContradiction fun different =>
        served ((stepsOf_cons_of_ne different).trans ends)
      exact ⟨[], action, steps, by rw [same]; rfl, ends⟩
    · obtain ⟨earlier, action, later, rfl, last⟩ := ih ends
      exact ⟨step :: earlier, action, later, rfl, last⟩

end Steps

namespace Dependencies

variable {links : Dependencies} {action : Action} {number : Nat}

/-- Actions with the subgoals that they are put to. -/
def labelled (links : Dependencies) : List Action → List (Nat × Action)
  | [] => []
  | action :: rest => ((links.record action).1, action) :: labelled (links.record action).2 rest

@[simp]
theorem labelled_actions (links : Dependencies) (actions : List Action) :
    (links.labelled actions).map Prod.snd = actions := by
  induction actions generalizing links with
  | nil => rfl
  | cons action rest ih => rw [labelled, List.map_cons, ih]

/-- Facts serve only subgoals that there are. -/
def Numbered (links : Dependencies) : Prop :=
  ∀ (fact : Fact) (number : Nat), links.facts[fact]? = some number → number < links.subgoals

theorem Numbered.empty : empty.Numbered := by
  intro fact number here
  simp [Dependencies.empty] at here

theorem getElem?_of_erased {facts : SortedMap Fact Nat} {removed : List Fact} {fact : Fact}
    (here : (removed.foldl (fun facts fact => facts.erase fact) facts)[fact]? = some number) :
    facts[fact]? = some number := by
  induction removed generalizing facts with
  | nil => exact here
  | cons first removed ih => exact SortedMap.getElem?_of_erase (ih here)

theorem eq_or_of_inserted {facts : SortedMap Fact Nat} {added : List Fact} {fact : Fact} {subgoal : Nat}
    (here : (added.foldl (fun facts fact => facts.insert fact subgoal) facts)[fact]? = some number) :
    number = subgoal ∨ facts[fact]? = some number := by
  induction added generalizing facts with
  | nil => exact .inr here
  | cons first added ih =>
    rcases ih here with same | before
    · exact .inl same
    · rcases SortedMap.eq_or_of_insert before with ⟨-, rfl⟩ | older
      · exact .inl rfl
      · exact .inr older

theorem Numbered.joined_lt (numbered : links.Numbered) (joined : links.joined action = some number) :
    number < links.subgoals := by
  have member := List.min?_mem joined
  obtain ⟨fact, -, here⟩ := List.mem_filterMap.mp member
  exact numbered fact number here

/-- An action is put to a subgoal that there was, or opens the next one. -/
theorem record_cases (numbered : links.Numbered) (action : Action) :
    ((links.record action).1 < links.subgoals ∧ (links.record action).2.subgoals = links.subgoals) ∨
    ((links.record action).1 = links.subgoals ∧ (links.record action).2.subgoals = links.subgoals + 1) := by
  unfold record
  cases joined : links.joined action with
  | none => exact .inr ⟨rfl, rfl⟩
  | some subgoal => exact .inl ⟨numbered.joined_lt joined, rfl⟩

theorem Numbered.record (numbered : links.Numbered) (action : Action) : (links.record action).2.Numbered := by
  intro fact number here
  have bound := record_cases numbered action
  rcases eq_or_of_inserted here with same | before
  · have same : number = (links.record action).1 := same
    omega
  · have before := numbered fact number (getElem?_of_erased before)
    omega

theorem getD_modify_append {parts : List (List Action)} {subgoal : Nat} (inside : subgoal < parts.length) :
    (parts.modify subgoal (· ++ [action])).getD number [] =
      parts.getD number [] ++ if subgoal = number then [action] else [] := by
  simp only [List.getD_eq_getElem?_getD, List.getElem?_modify]
  by_cases same : subgoal = number
  · subst same
    simp [List.getElem?_eq_getElem inside]
  · simp [same]

theorem getD_append_nil {parts : List (List Action)} : (parts ++ [[]]).getD number [] = parts.getD number [] := by
  simp only [List.getD_eq_getElem?_getD]
  rcases Nat.lt_trichotomy number parts.length with inside | rfl | beyond
  · rw [List.getElem?_append_left inside]
  · simp
  · rw [List.getElem?_eq_none (by simp; omega), List.getElem?_eq_none (by omega)]

/-- Splitting actions puts those of each subgoal together, after those that it had, in their order. -/
theorem split_eq (numbered : links.Numbered) {parts : List (List Action)} (opened : parts.length = links.subgoals)
    (actions : List Action) : links.split parts actions =
      (List.range (actions.foldl follow links).subgoals).map fun number =>
        parts.getD number [] ++ stepsOf number (links.labelled actions) := by
  induction actions generalizing links parts with
  | nil =>
    refine List.ext_getElem (by simp [split, opened]) fun number inside _ => ?_
    have inside : number < parts.length := inside
    simp [split, labelled, List.getElem?_eq_getElem inside]
  | cons action rest ih =>
    have bound := record_cases numbered action
    let next := if (links.record action).1 = parts.length then parts ++ [[]] else parts
    have nextLength : next.length = (links.record action).2.subgoals := by
      dsimp only [next]
      split
      · rw [List.length_append, List.length_singleton]
        omega
      · omega
    have nextPart (number : Nat) : next.getD number [] = parts.getD number [] := by
      dsimp only [next]
      split
      · rw [getD_append_nil]
      · rfl
    have step : links.split parts (action :: rest) =
        (links.record action).2.split (next.modify (links.record action).1 (· ++ [action])) rest := rfl
    rw [step, ih (numbered.record action) (by rw [List.length_modify, nextLength])]
    refine List.map_congr_left fun number _ => ?_
    rw [getD_modify_append (by omega), nextPart, labelled, List.append_assoc]
    by_cases same : (links.record action).1 = number
    · rw [if_pos same, same, stepsOf_cons_self]
      rfl
    · rw [if_neg same, stepsOf_cons_of_ne same]
      rfl

/-- The number of subgoals of the actions up to each one. -/
def runningBreadths (actions : List Action) : List Nat :=
  (List.range actions.length).map fun number => (ofActions (actions.take (number + 1))).subgoals

theorem runningBreadths_concat (actions : List Action) (action : Action) : runningBreadths (actions ++ [action]) =
    runningBreadths actions ++ [(ofActions (actions ++ [action])).subgoals] := by
  rw [runningBreadths, List.length_append, List.length_singleton, List.range_succ, List.map_append, List.map_singleton,
    runningBreadths]
  congr 1
  · refine List.map_congr_left fun number inside => ?_
    have inside := List.mem_range.mp inside
    rw [List.take_append_of_le_length (by omega)]
  · rw [List.take_of_length_le (by simp)]

theorem breadths_append (links : Dependencies) (actions more : List Action) : links.breadths (actions ++ more) =
    links.breadths actions ++ (actions.foldl follow links).breadths more := by
  induction actions generalizing links with
  | nil => rfl
  | cons action rest ih => rw [List.cons_append, breadths, ih, breadths, List.foldl_cons, List.cons_append]

theorem breadths_empty (actions : List Action) : empty.breadths actions = runningBreadths actions := by
  induction actions using List.reverseRecOn with
  | nil => rfl
  | append_singleton actions action ih =>
    rw [breadths_append, ih, runningBreadths_concat, ofActions, List.foldl_append]
    rfl

end Dependencies

namespace Chain

/-- The actions of a chain with the subgoals that they are put to. -/
def labelled (chain : Chain) : List (Nat × Action) := Dependencies.empty.labelled chain.actions

theorem splitByBreadth_eq (chain : Chain) : chain.splitByBreadth =
    (List.range (Dependencies.ofActions chain.actions).subgoals).map fun number => stepsOf number chain.labelled := by
  rw [splitByBreadth, Dependencies.split_eq Dependencies.Numbered.empty rfl]
  rfl

end Chain

end Adventure
