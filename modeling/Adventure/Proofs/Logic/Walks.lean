import Adventure.Logic.Walk
import Mathlib.Logic.Relation

namespace Adventure

/-- The search without a bound: whether the goal comes up before no name waits any more. -/
inductive Searches (next : String → List String) (turn : Turn) (goal : String) :
    (waiting : List String) → (seen : SortedSet String) → (found : Bool) → Prop
  | lost {seen : SortedSet String} : Searches next turn goal [] seen false
  | hit {waiting : List String} {seen : SortedSet String} : Searches next turn goal (goal :: waiting) seen true
  | skip {name : String} {waiting : List String} {seen : SortedSet String} {found : Bool} (other : name ≠ goal)
      (old : name ∈ seen) (rest : Searches next turn goal waiting seen found) :
      Searches next turn goal (name :: waiting) seen found
  | visit {name : String} {waiting : List String} {seen : SortedSet String} {found : Bool} (other : name ≠ goal)
      (new : name ∉ seen) (rest : Searches next turn goal (turn.join waiting (next name)) (seen.insert name) found) :
      Searches next turn goal (name :: waiting) seen found

/-- The climb without a bound: all that has been found when no name waits any more. -/
inductive Lists (next : String → List String) : (waiting found result : List String) → Prop
  | done {found : List String} : Lists next [] found found
  | skip {name : String} {waiting found result : List String} (old : name ∈ found)
      (rest : Lists next waiting found result) : Lists next (name :: waiting) found result
  | take {name : String} {waiting found result : List String} (new : name ∉ found)
      (rest : Lists next (waiting ++ next name) (found ++ [name]) result) : Lists next (name :: waiting) found result

/-- The collection without a bound: all that has been found when the stack is empty. -/
inductive Collects (next : String → List String) :
    (stack : List String) → (found result : SortedSet String) → Prop
  | done {found : SortedSet String} : Collects next [] found found
  | take {name : String} {stack : List String} {found result : SortedSet String}
      (rest : Collects next (pile (next name) stack found).1 (pile (next name) stack found).2 result) :
      Collects next (name :: stack) found result

section Bounds

variable {next : String → List String} {declared waiting found : List String} {seen : SortedSet String}
  {name : String} {steps : Nat}

/-- How many names the declared ones that have not been visited lead to. -/
def unvisited (next : String → List String) (declared : List String) (visited : String → Bool) : Nat :=
  ((declared.filter (!visited ·)).flatMap next).length

theorem unvisited_cons (first : String) (visited : String → Bool) :
    unvisited next (first :: declared) visited =
      (if visited first then 0 else (next first).length) + unvisited next declared visited := by
  rw [unvisited, unvisited, List.filter_cons]
  cases visited first <;> simp

/-- A visit to a name takes what it leads to from the count. -/
theorem unvisited_visit {before after : String → Bool} (new : before name = false)
    (visit : ∀ other, after other = (other == name || before other)) (listed : next name ≠ [] → name ∈ declared) :
    unvisited next declared after + (next name).length ≤ unvisited next declared before := by
  have less (rest : List String) : unvisited next rest after ≤ unvisited next rest before := by
    induction rest with
    | nil => exact Nat.le_refl _
    | cons first rest ih =>
      rw [unvisited_cons, unvisited_cons, visit first]
      cases first == name <;> cases before first <;> simp <;> omega
  by_cases leaf : next name = []
  · rw [leaf]
    exact less declared
  · replace listed := listed leaf
    induction declared with
    | nil => cases listed
    | cons first rest ih =>
      rw [unvisited_cons, unvisited_cons, visit first]
      rcases List.mem_cons.mp listed with rfl | later
      · have fewer := less rest
        simp [new]
        omega
      · have fewer := ih later
        cases first == name <;> cases before first <;> simp <;> omega

/-- Wherever names come to wait, they wait with the others. -/
theorem unvisited_le_length (names : List String) (visited : String → Bool) :
    unvisited (fun name => [name]) names visited ≤ names.length := by
  rw [unvisited, List.flatMap_singleton']
  exact List.length_filter_le ..

theorem Turn.mem_join {turn : Turn} {others : List String} :
    name ∈ turn.join waiting others ↔ name ∈ waiting ∨ name ∈ others := by
  cases turn with
  | queue => exact List.mem_append
  | stack => rw [join, List.mem_append, List.mem_reverse, or_comm]

theorem Turn.length_join (turn : Turn) (waiting others : List String) :
    (turn.join waiting others).length = waiting.length + others.length := by
  cases turn with
  | queue => exact List.length_append
  | stack => rw [join, List.length_append, List.length_reverse, Nat.add_comm]

theorem contains_insert (seen : SortedSet String) (name other : String) :
    (seen.insert name).contains other = (other == name || seen.contains other) := by
  rw [Std.ExtTreeSet.contains_insert]
  congr 1
  rw [Bool.eq_iff_iff, beq_iff_eq, beq_iff_eq, Std.LawfulEqOrd.compare_eq_iff_eq, eq_comm]

/-- Each name that waits is looked at once, and so is each of those that an unvisited name leads to. -/
theorem searches_search {turn : Turn} {goal : String} (listed : ∀ name, next name ≠ [] → name ∈ declared)
    (enough : waiting.length + unvisited next declared seen.contains ≤ steps) :
    Searches next turn goal waiting seen (search next turn goal steps waiting seen) := by
  induction steps generalizing waiting seen with
  | zero =>
    have nothing : waiting = [] := List.length_eq_zero_iff.mp (by omega)
    subst nothing
    exact .lost
  | succ steps ih =>
    cases waiting with
    | nil => exact .lost
    | cons name waiting =>
      rw [List.length_cons] at enough
      rw [search]
      split
      next same =>
        rw [beq_iff_eq] at same
        subst same
        exact .hit
      next other =>
        rw [beq_iff_eq] at other
        split
        next old => exact .skip other (Std.ExtTreeSet.contains_iff_mem.mp old) (ih (by omega))
        next new =>
          have visit := unvisited_visit (Bool.eq_false_iff.mpr new) (contains_insert seen name) (listed name)
          refine .visit other (mt Std.ExtTreeSet.contains_iff_mem.mpr new) (ih ?_)
          rw [Turn.length_join]
          omega

theorem lists_climb (listed : ∀ name, next name ≠ [] → name ∈ declared)
    (enough : waiting.length + unvisited next declared found.contains ≤ steps) :
    Lists next waiting found (climb next steps waiting found) := by
  induction steps generalizing waiting found with
  | zero =>
    have nothing : waiting = [] := List.length_eq_zero_iff.mp (by omega)
    subst nothing
    exact .done
  | succ steps ih =>
    cases waiting with
    | nil => exact .done
    | cons name waiting =>
      rw [List.length_cons] at enough
      rw [climb]
      split
      next old => exact .skip (List.contains_iff_mem.mp old) (ih (by omega))
      next new =>
        have more (other : String) : (found ++ [name]).contains other = (other == name || found.contains other) := by
          rw [List.contains_append, List.contains_cons, List.contains_nil, Bool.or_false, Bool.or_comm]
        have visit := unvisited_visit (Bool.eq_false_iff.mpr new) more (listed name)
        refine .take (mt List.contains_iff_mem.mpr new) (ih ?_)
        rw [List.length_append]
        omega

theorem mem_pile {names stack : List String} {found : SortedSet String} :
    (name ∈ (pile names stack found).1 ↔ name ∈ stack ∨ name ∈ names ∧ name ∉ found) ∧
      (name ∈ (pile names stack found).2 ↔ name ∈ found ∨ name ∈ names) := by
  induction names generalizing stack found with
  | nil => simp [pile]
  | cons first names ih =>
    rw [pile]
    split
    next old =>
      rw [Std.ExtTreeSet.contains_iff_mem] at old
      rw [ih.1, ih.2, List.mem_cons]
      by_cases same : name = first
      · subst same
        simp [old]
      · simp [same]
    next new =>
      rw [Std.ExtTreeSet.contains_iff_mem] at new
      rw [ih.1, ih.2, Std.ExtTreeSet.mem_insert, Std.LawfulEqOrd.compare_eq_iff_eq, List.mem_cons, List.mem_cons]
      by_cases same : name = first
      · subst same
        simp [new]
      · simp [same, Ne.symm same]

/-- What is put on the stack is no longer among the names to be found. -/
theorem length_pile {names stack all : List String} {found : SortedSet String} (listed : ∀ name ∈ names, name ∈ all) :
    (pile names stack found).1.length + unvisited (fun name => [name]) all (pile names stack found).2.contains ≤
      stack.length + unvisited (fun name => [name]) all found.contains := by
  induction names generalizing stack found with
  | nil => exact Nat.le_refl _
  | cons first names ih =>
    obtain ⟨here, others⟩ := List.forall_mem_cons.mp listed
    rw [pile]
    split
    next => exact ih others
    next new =>
      have visit : unvisited (fun name => [name]) all (found.insert first).contains + 1 ≤
          unvisited (fun name => [name]) all found.contains :=
        unvisited_visit (Bool.eq_false_iff.mpr new) (contains_insert found first) fun _ => here
      refine Nat.le_trans (ih others) ?_
      rw [List.length_cons]
      omega

theorem collects_collect {stack all : List String} {found : SortedSet String}
    (listed : ∀ name, ∀ other ∈ next name, other ∈ all)
    (enough : stack.length + unvisited (fun name => [name]) all found.contains ≤ steps) :
    Collects next stack found (collect next steps stack found) := by
  induction steps generalizing stack found with
  | zero =>
    have nothing : stack = [] := List.length_eq_zero_iff.mp (by omega)
    subst nothing
    exact .done
  | succ steps ih =>
    cases stack with
    | nil => exact .done
    | cons name stack =>
      rw [List.length_cons] at enough
      refine .take (ih (Nat.le_trans (length_pile (listed name)) ?_))
      omega

end Bounds

section Searching

variable {next : String → List String} {turn : Turn} {goal name : String} {waiting : List String}
  {seen : SortedSet String} {found result : Bool}

theorem Searches.unique (searches : Searches next turn goal waiting seen found)
    (again : Searches next turn goal waiting seen result) : found = result := by
  induction searches with
  | lost =>
    cases again
    rfl
  | hit =>
    cases again with
    | hit => rfl
    | skip other => exact absurd rfl other
    | visit other => exact absurd rfl other
  | skip other old _ ih =>
    cases again with
    | hit => exact absurd rfl other
    | skip _ _ rest => exact ih rest
    | visit _ new => exact absurd old new
  | visit other new _ ih =>
    cases again with
    | hit => exact absurd rfl other
    | skip _ old => exact absurd old new
    | visit _ _ rest => exact ih rest

theorem Searches.sound (searches : Searches next turn goal waiting seen found) (hit : found = true) :
    ∃ name ∈ waiting, Relation.ReflTransGen (fun a b => b ∈ next a) name goal := by
  induction searches with
  | lost => cases hit
  | hit => exact ⟨goal, List.mem_cons_self, .refl⟩
  | skip _ _ _ ih =>
    obtain ⟨name, waits, way⟩ := ih hit
    exact ⟨name, List.mem_cons_of_mem _ waits, way⟩
  | @visit first waiting _ _ _ _ _ ih =>
    obtain ⟨name, waits, way⟩ := ih hit
    rcases Turn.mem_join.mp waits with before | step
    · exact ⟨name, List.mem_cons_of_mem _ before, way⟩
    · exact ⟨first, List.mem_cons_self, .head step way⟩

/-- A way from what was seen to what was not leads through a name that waits. -/
theorem exists_exit (closed : ∀ a ∈ seen, ∀ b ∈ next a, b ∈ seen ∨ b ∈ waiting) (outside : goal ∉ seen)
    (inside : name ∈ seen) (way : Relation.ReflTransGen (fun a b => b ∈ next a) name goal) :
    ∃ name ∈ waiting, name ∉ seen ∧ Relation.ReflTransGen (fun a b => b ∈ next a) name goal := by
  induction way using Relation.ReflTransGen.head_induction_on with
  | refl => exact absurd inside outside
  | @head a b step rest ih =>
    by_cases known : b ∈ seen
    · exact ih known
    · exact ⟨b, (closed a inside b step).resolve_left known, known, rest⟩

/-- A search misses nothing: while the goal is ahead, a way to it goes on from a name that waits and was not seen. -/
theorem Searches.complete (searches : Searches next turn goal waiting seen found)
    (closed : ∀ a ∈ seen, ∀ b ∈ next a, b ∈ seen ∨ b ∈ waiting) (outside : goal ∉ seen)
    (ahead : ∃ name ∈ waiting, name ∉ seen ∧ Relation.ReflTransGen (fun a b => b ∈ next a) name goal) :
    found = true := by
  induction searches with
  | lost =>
    obtain ⟨name, waits, -⟩ := ahead
    cases waits
  | hit => rfl
  | @skip first waiting seen _ _ old _ ih =>
    have drop {name : String} (waits : name ∈ first :: waiting) : name ∈ seen ∨ name ∈ waiting := by
      rcases List.mem_cons.mp waits with rfl | later
      · exact .inl old
      · exact .inr later
    refine ih (fun a known b step => ?_) outside ?_
    · exact (closed a known b step).elim .inl drop
    · obtain ⟨name, waits, new, way⟩ := ahead
      exact ⟨name, (drop waits).resolve_left new, new, way⟩
  | @visit first waiting seen _ other new _ ih =>
    have member {name : String} : name ∈ seen.insert first ↔ first = name ∨ name ∈ seen := by
      rw [Std.ExtTreeSet.mem_insert, Std.LawfulEqOrd.compare_eq_iff_eq]
    have move {name : String} (waits : name ∈ first :: waiting) :
        name ∈ seen.insert first ∨ name ∈ turn.join waiting (next first) := by
      rcases List.mem_cons.mp waits with rfl | later
      · exact .inl (member.mpr (.inl rfl))
      · exact .inr (Turn.mem_join.mpr (.inl later))
    have closed' : ∀ a ∈ seen.insert first, ∀ b ∈ next a,
        b ∈ seen.insert first ∨ b ∈ turn.join waiting (next first) := by
      intro a known b step
      rcases member.mp known with rfl | before
      · exact .inr (Turn.mem_join.mpr (.inr step))
      · exact (closed a before b step).elim (fun old => .inl (member.mpr (.inr old))) move
    have outside' : goal ∉ seen.insert first := mt member.mp (not_or.mpr ⟨other, outside⟩)
    refine ih closed' outside' ?_
    obtain ⟨name, waits, -, way⟩ := ahead
    by_cases known : name ∈ seen.insert first
    · exact exists_exit closed' outside' known way
    · exact ⟨name, (move waits).resolve_left known, known, way⟩

/-- From some names a search finds what they lead to, in whatever turn they are taken. -/
theorem Searches.iff {starts : List String} (searches : Searches next turn goal (turn.join [] starts) ∅ found) :
    found = true ↔ ∃ name ∈ starts, Relation.ReflTransGen (fun a b => b ∈ next a) name goal := by
  have waits {name : String} : name ∈ turn.join [] starts ↔ name ∈ starts := by
    rw [Turn.mem_join, or_iff_right List.not_mem_nil]
  constructor
  · intro hit
    obtain ⟨name, first, way⟩ := searches.sound hit
    exact ⟨name, waits.mp first, way⟩
  · rintro ⟨name, start, way⟩
    have unseen (name : String) : name ∉ (∅ : SortedSet String) := Std.ExtTreeSet.not_mem_empty
    exact searches.complete (fun a known => absurd known (unseen a)) (unseen goal)
      ⟨name, waits.mpr start, unseen name, way⟩

end Searching

theorem Lists.unique {next : String → List String} {waiting found result other : List String}
    (lists : Lists next waiting found result) (again : Lists next waiting found other) : result = other := by
  induction lists with
  | done =>
    cases again
    rfl
  | skip old _ ih =>
    cases again with
    | skip _ rest => exact ih rest
    | take new => exact absurd old new
  | take new _ ih =>
    cases again with
    | skip old => exact absurd old new
    | take _ rest => exact ih rest

section Collecting

variable {next : String → List String} {stack : List String} {found result other : SortedSet String} {name : String}

namespace Collects

theorem unique (collects : Collects next stack found result) (again : Collects next stack found other) :
    result = other := by
  induction collects with
  | done =>
    cases again
    rfl
  | take _ ih =>
    obtain _ | ⟨rest⟩ := again
    exact ih rest

theorem sound (collects : Collects next stack found result) (member : name ∈ result) :
    name ∈ found ∨ ∃ start ∈ stack, Relation.TransGen (fun a b => b ∈ next a) start name := by
  induction collects with
  | done => exact .inl member
  | @take first stack found _ _ ih =>
    rcases ih member with known | ⟨start, piled, way⟩
    · rcases mem_pile.2.mp known with before | step
      · exact .inl before
      · exact .inr ⟨first, List.mem_cons_self, .single step⟩
    · rcases mem_pile.1.mp piled with before | ⟨step, -⟩
      · exact .inr ⟨start, List.mem_cons_of_mem _ before, way⟩
      · exact .inr ⟨first, List.mem_cons_self, .head step way⟩

theorem subset (collects : Collects next stack found result) (known : name ∈ found) : name ∈ result := by
  induction collects with
  | done => exact known
  | take _ ih => exact ih (mem_pile.2.mpr (.inl known))

/-- What is found is on the stack, or all that it leads to is found. In the end the stack is empty. -/
theorem closed (collects : Collects next stack found result)
    (settled : ∀ a ∈ found, a ∈ stack ∨ ∀ b ∈ next a, b ∈ found) :
    ∀ a, a ∈ stack ∨ a ∈ result → ∀ b ∈ next a, b ∈ result := by
  induction collects with
  | done =>
    rintro a (none | known)
    · cases none
    · exact (settled a known).resolve_left List.not_mem_nil
  | @take first stack found result rest ih =>
    have after : ∀ a ∈ (pile (next first) stack found).2,
        a ∈ (pile (next first) stack found).1 ∨ ∀ b ∈ next a, b ∈ (pile (next first) stack found).2 := by
      intro a known
      by_cases before : a ∈ found
      · rcases settled a before with waits | all
        · rcases List.mem_cons.mp waits with rfl | later
          · exact .inr fun b step => mem_pile.2.mpr (.inr step)
          · exact .inl (mem_pile.1.mpr (.inl later))
        · exact .inr fun b step => mem_pile.2.mpr (.inl (all b step))
      · exact .inl (mem_pile.1.mpr (.inr ⟨(mem_pile.2.mp known).resolve_left before, before⟩))
    rintro a (waits | known) b step
    · rcases List.mem_cons.mp waits with rfl | later
      · exact rest.subset (mem_pile.2.mpr (.inr step))
      · exact ih after a (.inl (mem_pile.1.mpr (.inl later))) b step
    · exact ih after a (.inr known) b step

/-- From one name all is collected that it leads to. -/
theorem iff {start : String} (collects : Collects next [start] ∅ result) :
    name ∈ result ↔ Relation.TransGen (fun a b => b ∈ next a) start name := by
  have unseen (name : String) : name ∉ (∅ : SortedSet String) := Std.ExtTreeSet.not_mem_empty
  constructor
  · intro member
    obtain ⟨first, only, way⟩ := (collects.sound member).resolve_left (unseen name)
    exact List.mem_singleton.mp only ▸ way
  · intro way
    have closed := collects.closed fun a known => absurd known (unseen a)
    induction way with
    | single step => exact closed start (.inl List.mem_cons_self) _ step
    | tail _ step ih => exact closed _ (.inr ih) _ step

end Collects

end Collecting

end Adventure
