import Adventure.Proofs.Chain.Subgoals
import Adventure.Proofs.Play.Moves
import Mathlib.Data.List.Induction

namespace Adventure

namespace Event

variable {steps actions : List Action} {action : Action} {pointer : Nat} {t : State} {moves : Moves}

/-- Where an event that is only a sequence of steps stands after an action. -/
def retrace (steps : List Action) (pointer : Nat) (action : Action) : Nat :=
  if steps[pointer]? = some action then pointer + 1 else (undoneAt (steps.take pointer) action).getD pointer

/-- Where such an event stands after actions. -/
def retraced (steps actions : List Action) : Nat := actions.foldl (retrace steps) 0

theorem advance_eq_retrace : advance ⟨steps, ∅⟩ pointer action t = retrace steps pointer action := by
  have holds : holdsIn ⟨steps, ∅⟩ t = true := holdsIn_iff.mpr (by simp)
  rw [advance, holds, retrace]
  simp

theorem pointer_eq_retraced : Event.pointer ⟨steps, ∅⟩ moves = retraced steps (moves.map Prod.fst).reverse := by
  induction moves with
  | nil => rfl
  | cons move earlier ih =>
    rw [Event.pointer, advance_eq_retrace, ih, List.map_cons, List.reverse_cons, retraced, retraced, List.foldl_append]
    rfl

theorem retraced_append_singleton :
    retraced steps (actions ++ [action]) = retrace steps (retraced steps actions) action := by
  rw [retraced, List.foldl_append]
  rfl

theorem retrace_of_expected (expected : steps[pointer]? = some action) : retrace steps pointer action = pointer + 1 :=
  if_pos expected

theorem retrace_le_of_unexpected (unexpected : steps[pointer]? ≠ some action) :
    retrace steps pointer action ≤ pointer := by
  rw [retrace, if_neg unexpected]
  exact undone_le

theorem retrace_le_succ : retrace steps pointer action ≤ pointer + 1 := by
  by_cases expected : steps[pointer]? = some action
  · exact Nat.le_of_eq (retrace_of_expected expected)
  · exact Nat.le_succ_of_le (retrace_le_of_unexpected expected)

theorem retrace_eq_of_harmless (unexpected : steps[pointer]? ≠ some action)
    (harmless : ∀ step ∈ steps.take pointer, ¬ action.Undoes step) : retrace steps pointer action = pointer := by
  rw [retrace, if_neg unexpected, undoneAt_eq_none_iff.mpr harmless]
  rfl

theorem retrace_lt_of_undone (unexpected : steps[pointer]? ≠ some action) {step : Action}
    (member : step ∈ steps.take pointer) (undoes : action.Undoes step) : retrace steps pointer action < pointer := by
  rw [retrace, if_neg unexpected]
  cases undone : undoneAt (steps.take pointer) action with
  | none => exact absurd undoes (undoneAt_eq_none_iff.mp undone step member)
  | some number =>
    have bound := undoneAt_lt undone
    rw [List.length_take] at bound
    exact Nat.lt_of_lt_of_le bound (Nat.min_le_left ..)

end Event

/-- No action of another subgoal comes in the way of a subgoal that is not finished: none is the next action of the
subgoal, and none undoes an action that was taken for it. -/
def Undisturbed (number : Nat) (steps : List (Nat × Action)) : Prop :=
  ∀ earlier other action later, steps = earlier ++ (other, action) :: later → other ≠ number →
    ∀ next ∈ (stepsOf number later).head?,
      action ≠ next ∧ ∀ step ∈ stepsOf number earlier, ¬ action.Undoes step

/-- No action of a subgoal is one of another subgoal too. -/
def Separate (number : Nat) (steps : List (Nat × Action)) : Prop :=
  ∀ step ∈ steps, step.2 ∈ stepsOf number steps → step.1 = number

/-- Where a subgoal stands after the earlier ones of some steps. -/
def standing (number : Nat) (steps earlier : List (Nat × Action)) : Nat :=
  Event.retraced (stepsOf number steps) (earlier.map Prod.snd)

/-- At some point all actions of a subgoal stand. -/
def Retraced (number : Nat) (steps : List (Nat × Action)) : Prop :=
  ∃ earlier later, steps = earlier ++ later ∧ standing number steps earlier = (stepsOf number steps).length

instance (number : Nat) (steps : List (Nat × Action)) : Decidable (Separate number steps) :=
  inferInstanceAs (Decidable (∀ step ∈ steps, step.2 ∈ stepsOf number steps → step.1 = number))

variable {number other : Nat} {action : Action} {steps earlier middle later : List (Nat × Action)}

theorem undisturbed_iff : (∀ place : Fin steps.length, steps[place].1 ≠ number →
      ∀ next ∈ (stepsOf number (steps.drop (place + 1))).head?,
        steps[place].2 ≠ next ∧ ∀ step ∈ stepsOf number (steps.take place), ¬ steps[place].2.Undoes step) ↔
    Undisturbed number steps := by
  constructor
  · rintro undisturbed earlier other action later rfl
    simpa using undisturbed ⟨earlier.length, by simp⟩
  · intro undisturbed place
    have whole : steps = steps.take place ++ steps[place] :: steps.drop (place + 1) := by
      rw [Fin.getElem_fin, ← List.drop_eq_getElem_cons, List.take_append_drop]
    exact undisturbed _ _ _ _ whole

instance (number : Nat) (steps : List (Nat × Action)) : Decidable (Undisturbed number steps) :=
  decidable_of_iff _ undisturbed_iff

theorem getElem?_stepsOf (whole : steps = earlier ++ later) :
    (stepsOf number steps)[(stepsOf number earlier).length]? = (stepsOf number later).head? := by
  rw [whole, stepsOf_append, List.getElem?_append_right (Nat.le_refl _), Nat.sub_self, List.head?_eq_getElem?]

theorem take_stepsOf (whole : steps = earlier ++ later) :
    (stepsOf number steps).take (stepsOf number earlier).length = stepsOf number earlier := by
  rw [whole, stepsOf_append, List.take_left']
  rfl

theorem length_stepsOf_le (number : Nat) (whole : steps = earlier ++ later) :
    (stepsOf number earlier).length ≤ (stepsOf number steps).length := by
  rw [whole, stepsOf_append, List.length_append]
  exact Nat.le_add_right ..

theorem standing_append_singleton : standing number steps (earlier ++ [(other, action)]) =
    Event.retrace (stepsOf number steps) (standing number steps earlier) action := by
  rw [standing, List.map_append, List.map_singleton, Event.retraced_append_singleton, ← standing]

/-- A subgoal that stands where its own actions have brought it goes on by the next one. -/
theorem standing_own (whole : steps = earlier ++ (number, action) :: later)
    (before : standing number steps earlier = (stepsOf number earlier).length) :
    standing number steps (earlier ++ [(number, action)]) = (stepsOf number (earlier ++ [(number, action)])).length := by
  have here : (stepsOf number steps)[(stepsOf number earlier).length]? = _ := getElem?_stepsOf whole
  rw [stepsOf_cons_self, List.head?_cons] at here
  rw [standing_append_singleton, before, Event.retrace_of_expected here]
  simp

/-- As long as a subgoal is undisturbed and not finished, it stands where its own actions have brought it. -/
theorem Undisturbed.standing_eq (undisturbed : Undisturbed number steps) (whole : steps = earlier ++ later)
    (unfinished : stepsOf number later ≠ []) : standing number steps earlier = (stepsOf number earlier).length := by
  induction earlier using List.reverseRecOn generalizing later with
  | nil => rfl
  | append_singleton earlier step ih =>
    obtain ⟨other, action⟩ := step
    rw [List.append_assoc, List.singleton_append] at whole
    by_cases same : other = number
    · subst same
      exact standing_own whole (ih whole (by simp))
    · have before := ih whole (by rwa [stepsOf_cons_of_ne same])
      have here : (stepsOf number steps)[(stepsOf number earlier).length]? = _ := getElem?_stepsOf whole
      rw [stepsOf_cons_of_ne same, List.head?_eq_some_head unfinished] at here
      obtain ⟨different, harmless⟩ := undisturbed earlier other action later whole same _
        (List.head?_eq_some_head unfinished)
      rw [standing_append_singleton, before, stepsOf_append, stepsOf_cons_of_ne same, stepsOf_nil, List.append_nil]
      refine Event.retrace_eq_of_harmless ?_ (by rwa [take_stepsOf whole])
      rw [here]
      exact fun equal => different (Option.some.inj equal).symm

theorem Undisturbed.retraced (undisturbed : Undisturbed number steps) (served : stepsOf number steps ≠ []) :
    Retraced number steps := by
  obtain ⟨earlier, action, later, whole, last⟩ := exists_last_step served
  refine ⟨earlier ++ [(number, action)], later, by simpa using whole, ?_⟩
  rw [standing_own whole (undisturbed.standing_eq whole (by simp)), whole]
  simp [last]

theorem Separate.unexpected (separate : Separate number steps) (member : (other, action) ∈ steps)
    (different : other ≠ number) {pointer : Nat} : (stepsOf number steps)[pointer]? ≠ some action :=
  fun expected => different (separate _ member (List.mem_of_getElem? expected))

/-- A subgoal that has its actions for itself goes on by at most one for each of them. -/
theorem Separate.standing_add_le (separate : Separate number steps) (whole : steps = earlier ++ middle ++ later) :
    standing number steps (earlier ++ middle) + (stepsOf number earlier).length ≤
      standing number steps earlier + (stepsOf number (earlier ++ middle)).length := by
  induction middle using List.reverseRecOn generalizing later with
  | nil => exact Nat.le_of_eq (by rw [List.append_nil])
  | append_singleton middle step ih =>
    obtain ⟨other, action⟩ := step
    have whole : steps = earlier ++ middle ++ (other, action) :: later := by simpa using whole
    have before := ih whole
    rw [← List.append_assoc, standing_append_singleton, stepsOf_append, List.length_append]
    generalize standing number steps (earlier ++ middle) = pointer at before ⊢
    by_cases same : other = number
    · have next : Event.retrace (stepsOf number steps) pointer action ≤ pointer + 1 := Event.retrace_le_succ
      rw [same, stepsOf_cons_self, stepsOf_nil, List.length_singleton]
      omega
    · have member : (other, action) ∈ steps := by simp [whole]
      have next : Event.retrace (stepsOf number steps) pointer action ≤ pointer :=
        Event.retrace_le_of_unexpected (separate.unexpected member same)
      rw [stepsOf_cons_of_ne same, stepsOf_nil, List.length_nil]
      omega

theorem Separate.standing_le (separate : Separate number steps) (whole : steps = earlier ++ later) :
    standing number steps earlier ≤ (stepsOf number earlier).length := by
  have bound := separate.standing_add_le (show steps = [] ++ earlier ++ later from whole)
  simpa [standing, Event.retraced] using bound

/-- When one of its actions is undone, such a subgoal falls behind them. -/
theorem Separate.standing_lt (separate : Separate number steps) (whole : steps = earlier ++ (other, action) :: later)
    (different : other ≠ number) {step : Action} (taken : step ∈ stepsOf number earlier)
    (undoes : action.Undoes step) :
    standing number steps (earlier ++ [(other, action)]) < (stepsOf number earlier).length := by
  have member : (other, action) ∈ steps := by simp [whole]
  rw [standing_append_singleton]
  rcases Nat.lt_or_eq_of_le (separate.standing_le whole) with less | same
  · exact Nat.lt_of_le_of_lt (Event.retrace_le_of_unexpected (separate.unexpected member different)) less
  · rw [same]
    refine Event.retrace_lt_of_undone (separate.unexpected member different) ?_ undoes
    rwa [take_stepsOf whole]

/-- Once it is disturbed, a subgoal that has its actions for itself is not brought to its end by them any more. -/
theorem Separate.undisturbed (separate : Separate number steps) (retraced : Retraced number steps) :
    Undisturbed number steps := by
  intro earlier other action later whole different next first
  have ahead : next ∈ stepsOf number later := List.mem_of_mem_head? first
  refine ⟨?_, fun step taken undoes => ?_⟩
  · rintro rfl
    have member : (number, action) ∈ steps := by
      rw [whole]
      exact List.mem_append_right _ (List.mem_cons_of_mem _ (mem_stepsOf.mp ahead))
    exact different (separate (other, action) (by simp [whole]) (mem_stepsOf.mpr member))
  · obtain ⟨done, rest, split, all⟩ := retraced
    have behind := separate.standing_lt whole different taken undoes
    have unfinished : (stepsOf number earlier).length < (stepsOf number steps).length := by
      have positive := List.length_pos_of_mem ahead
      rw [whole, stepsOf_append, stepsOf_cons_of_ne different, List.length_append]
      omega
    -- The point where all actions stand is neither before the disturbance nor after it.
    have early (gap : List (Nat × Action)) (before : earlier = done ++ gap) : False := by
      have bound := separate.standing_le split
      have size := length_stepsOf_le number before
      omega
    rcases List.append_eq_append_iff.mp (split.symm.trans whole) with ⟨gap, before, -⟩ | ⟨gap, after, tail⟩
    · exact early gap before
    · cases gap with
      | nil => exact early [] (by simp [after])
      | cons step gap =>
        obtain ⟨rfl, -⟩ := List.cons.inj tail
        have same : done = earlier ++ [(other, action)] ++ gap := by simp [after]
        have bound := separate.standing_add_le (same ▸ split)
        have size := length_stepsOf_le number split
        rw [← same, all, stepsOf_append, stepsOf_cons_of_ne different, stepsOf_nil, List.append_nil] at bound
        omega

end Adventure
