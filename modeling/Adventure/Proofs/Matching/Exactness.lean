import Adventure.Proofs.Core.Aspects

namespace Adventure.State

variable {s t : State} {start final : Binding} {pattern : Pattern} {patterns : List Pattern}

theorem nodup_candidates (indexed : s.Indexed) : (s.candidates pattern start).Nodup := by
  unfold candidates
  split
  next => exact indexed.nodup_factsNamed pattern.predicate
  next =>
    split
    next found _ => exact (SortedSet.nodup_toList found).filter _
    next => exact List.nodup_nil

/-- Different facts give different matches, since a match makes the pattern the fact it was found with. -/
theorem nodup_matches? (indexed : s.Indexed) : (s.matches? start pattern).Nodup := by
  refine (nodup_candidates indexed).filterMap fun fact other found first second => ?_
  have groundFirst := (Pattern.unify_eq_some_iff.mp first).2
  have groundSecond := (Pattern.unify_eq_some_iff.mp second).2
  rw [groundFirst] at groundSecond
  exact Option.some.inj groundSecond

/-- The matches of a pattern can be told apart by what they are extended to. -/
theorem Solves.middle_unique {middle other : Binding} {rest : List Pattern} (first : s.Solves [pattern] start middle)
    (second : s.Solves [pattern] start other) (onward : s.Solves rest middle final)
    (otherwise : s.Solves rest other final) : middle = other := by
  refine first.extension.unique second.extension fun p listed => ?_
  obtain ⟨e, here⟩ := SortedMap.mem_iff.mp ((first.extension.bound p).mpr (.inr listed))
  obtain ⟨f, there⟩ := SortedMap.mem_iff.mp ((second.extension.bound p).mpr (.inr listed))
  have same := onward.extension.keeps p e here
  rw [otherwise.extension.keeps p f there] at same
  rw [here, there, same]

theorem nodup_join (indexed : s.Indexed) {count : Nat} (length : patterns.length = count) :
    (s.join count patterns start).Nodup := by
  induction count generalizing patterns start with
  | zero => exact List.nodup_singleton start
  | succ count ih =>
    rw [join]
    split
    next found rest chosen =>
      obtain ⟨pattern, rfl, perm⟩ := tightest_eq_some chosen
      have left : rest.length = count := by
        have total := perm.length_eq
        rw [List.length_cons] at total
        omega
      refine List.nodup_flatMap.mpr ⟨fun middle _ => ih left, ?_⟩
      refine (nodup_matches? indexed).imp_of_mem fun {middle other} first second different final onward otherwise => ?_
      rw [mem_matches?_iff indexed] at first second
      rw [mem_join_iff indexed left] at onward otherwise
      exact different (first.middle_unique second onward otherwise)
    next => exact List.nodup_singleton start

theorem nodup_matchAll (indexed : s.Indexed) : (s.matchAll patterns start).Nodup :=
  nodup_join indexed rfl

/-- What solves patterns in a state solves them in each state with more facts. -/
theorem Solves.mono (solves : s.Solves patterns start final) (based : t.kb = s.kb)
    (more : ∀ fact ∈ s.facts, fact ∈ t.facts) : t.Solves patterns start final where
  extension := based ▸ solves.extension
  holds pattern here := by
    obtain ⟨fact, member, ground⟩ := solves.holds pattern here
    exact ⟨fact, more fact member, ground⟩

theorem violated_eq_none_iff_unsolved (indexed : s.Indexed) : s.violated = none ↔
    ∀ constraint ∈ s.kb.constraints, ∀ binding, ¬ s.Solves constraint.patterns ∅ binding := by
  simp only [violated_eq_none_iff, violates_iff indexed, not_exists]

theorem violated_eq_some_iff (indexed : s.Indexed) {name : String} : s.violated = some name ↔
    ∃ earlier constraint later, s.kb.constraints = earlier ++ constraint :: later ∧ constraint.name = name ∧
      (∃ binding, s.Solves constraint.patterns ∅ binding) ∧
      ∀ other ∈ earlier, ∀ binding, ¬ s.Solves other.patterns ∅ binding := by
  rw [violated, Option.map_eq_some_iff]
  constructor
  · rintro ⟨constraint, first, named⟩
    obtain ⟨holds, earlier, later, listed, before⟩ := List.find?_eq_some_iff_append.mp first
    refine ⟨earlier, constraint, later, listed, named, (violates_iff indexed).mp holds, ?_⟩
    intro other among binding solves
    have violates := (violates_iff indexed).mpr ⟨binding, solves⟩
    simpa [violates] using before other among
  · rintro ⟨earlier, constraint, later, listed, named, solved, before⟩
    refine ⟨constraint, List.find?_eq_some_iff_append.mpr ?_, named⟩
    refine ⟨(violates_iff indexed).mpr solved, earlier, later, listed, fun other among => ?_⟩
    rw [Bool.not_eq_true', ← Bool.not_eq_true, violates_iff indexed, not_exists]
    exact before other among

theorem violated_mono (indexed : s.Indexed) (others : t.Indexed) (based : t.kb = s.kb)
    (more : ∀ fact ∈ s.facts, fact ∈ t.facts) (violating : s.violated ≠ none) : t.violated ≠ none := by
  rw [ne_eq, violated_eq_none_iff_unsolved indexed] at violating
  rw [ne_eq, violated_eq_none_iff_unsolved others, based]
  intro unsolved
  refine violating fun constraint member binding solves => ?_
  exact unsolved constraint member binding (solves.mono based more)

/-- Matching lists each solution of the patterns once and nothing else, and with a limit the first of them. So the
violated constraint is the first that has a solution, and more facts never heal a violation. -/
theorem matching_exact (built : s.Built) (patterns : List Pattern) (start : Binding) :
    (s.matchAll patterns start).Nodup ∧
      (∀ final, final ∈ s.matchAll patterns start ↔
        (start.Extends s.kb.types final (patterns.flatMap Pattern.parameters) ∧
          ∀ pattern ∈ patterns, ∃ fact ∈ s.facts, pattern.ground final = some fact)) ∧
      (∀ limit, s.matchUpTo limit patterns start = (s.matchAll patterns start).take limit) ∧
      (∀ name, s.violated = some name ↔
        ∃ earlier constraint later, s.kb.constraints = earlier ++ constraint :: later ∧ constraint.name = name ∧
          (∃ binding, s.Solves constraint.patterns ∅ binding) ∧
          ∀ other ∈ earlier, ∀ binding, ¬ s.Solves other.patterns ∅ binding) ∧
      (s.violated = none ↔
        ∀ constraint ∈ s.kb.constraints, ∀ binding, ¬ s.Solves constraint.patterns ∅ binding) ∧
      ∀ t : State, t.Built → t.kb = s.kb → (∀ fact ∈ s.facts, fact ∈ t.facts) →
        s.violated ≠ none → t.violated ≠ none := by
  have indexed := built.indexed
  refine ⟨nodup_matchAll indexed, fun final => ?_, fun limit => matchUpTo_eq_take limit,
    fun name => violated_eq_some_iff indexed, violated_eq_none_iff_unsolved indexed, ?_⟩
  · rw [mem_matchAll_iff indexed]
    exact ⟨fun solves => ⟨solves.extension, solves.holds⟩, fun both => ⟨both.1, both.2⟩⟩
  · intro t others based more violating
    exact violated_mono indexed others.indexed based more violating

/-- A chest that is open and closed at once. -/
def ajarFacts : List Fact := [⟨"open", [⟨"chest", "c"⟩]⟩, ⟨"closed", [⟨"chest", "c"⟩]⟩]

def ajar : State := (State.empty Core.knowledge).insertAll ajarFacts

def ajarKitchen : State := (State.empty Core.knowledge).insertAll (kitchenFacts ++ ajarFacts)

/-- A thing is in the room of the player, which is said twice. -/
def company : List Pattern :=
  [Core.locatedAt Core.player Core.room, Core.locatedAt Core.thing Core.room, Core.locatedAt Core.player Core.room]

theorem matching_exact_ajar : ajar.Built ∧ ajarKitchen.Built ∧ ajar.violated = some "c/open-closed" ∧
    (∃ constraint ∈ Core.constraints, constraint.name = "c/open-closed" ∧
      ∃ binding, ajar.Solves constraint.patterns ∅ binding) ∧
    ajarKitchen.violated ≠ none ∧
    ∃ first second, ajarKitchen.matchAll company Binding.fixed = [first, second] ∧ first ≠ second ∧
      ajarKitchen.matchUpTo 1 company Binding.fixed = [first] ∧
      ∀ final, final = first ∨ final = second ↔
        (Binding.fixed.Extends Core.types final (company.flatMap Pattern.parameters) ∧
          ∀ pattern ∈ company, ∃ fact ∈ ajarKitchen.facts, pattern.ground final = some fact) := by
  have built : ajar.Built :=
    .addFacts (.empty Core.knowledge) (rfl : (State.empty Core.knowledge).addFacts ajarFacts = .ok ajar)
  have furnished : ajarKitchen.Built :=
    .addFacts (.empty Core.knowledge)
      (rfl : (State.empty Core.knowledge).addFacts (kitchenFacts ++ ajarFacts) = .ok ajarKitchen)
  have violating : ajar.violated = some "c/open-closed" := by decide +kernel
  have more : ∀ fact ∈ ajar.facts, fact ∈ ajarKitchen.facts := by
    intro fact member
    have listed : ajar.facts.toList.all (ajarKitchen.facts.contains ·) = true := by decide +kernel
    simpa using List.all_eq_true.mp listed fact (Std.ExtTreeSet.mem_toList.mpr member)
  obtain ⟨-, -, -, first, -, grown⟩ := matching_exact built [] ∅
  obtain ⟨earlier, constraint, later, listed, named, solved, -⟩ := (first _).mp violating
  have member : constraint ∈ Core.constraints := by
    rw [show Core.constraints = earlier ++ constraint :: later from listed]
    exact List.mem_append_right earlier List.mem_cons_self
  have unhealed : ajarKitchen.violated ≠ none :=
    grown ajarKitchen furnished rfl more (by rw [violating]; exact Option.some_ne_none _)
  refine ⟨built, furnished, violating, ⟨constraint, member, named, solved⟩, unhealed, ?_⟩
  -- the chest and the carrot are in the kitchen with the player
  have two : (ajarKitchen.matchAll company Binding.fixed).length = 2 := by decide +kernel
  obtain ⟨one, solutions, limited, -⟩ := matching_exact furnished company Binding.fixed
  obtain ⟨first, second, all⟩ := List.length_eq_two.mp two
  rw [all] at one
  refine ⟨first, second, all, List.ne_of_not_mem_cons (List.nodup_cons.mp one).1, ?_, fun final => ?_⟩
  · rw [limited 1, all, List.take_succ_cons, List.take_zero]
  · have listed : final = first ∨ final = second ↔ final ∈ ajarKitchen.matchAll company Binding.fixed := by
      rw [all, List.mem_cons, List.mem_singleton]
    exact listed.trans (solutions final)

end Adventure.State
