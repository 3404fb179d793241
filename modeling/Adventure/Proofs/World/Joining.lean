import Adventure.Proofs.World.Placing
import Adventure.Proofs.World.View

namespace Adventure

namespace Positions

variable {exits : Exits} {positions after : Positions} {origin cell : Cell} {ways : List (Direction × String)}
  {room target : String} {direction : Direction} {fuel : Nat} {queue : List String}

/-- No two rooms are in one cell. -/
def Apart (positions : Positions) : Prop :=
  ∀ (a b : String) (cell : Cell), positions[a]? = some cell → positions[b]? = some cell → a = b

theorem Apart.empty : Apart ∅ := by
  intro a b cell here
  rw [Std.ExtTreeMap.getElem?_empty] at here
  cases here

theorem Apart.insert (apart : positions.Apart) (free : positions.occupied cell = false) :
    Apart (positions.insert room cell) := by
  have taken {other : String} (placed : positions[other]? = some cell) : False := by
    rw [occupied_iff.mpr ⟨other, placed⟩] at free
    cases free
  intro a b other inA inB
  rcases SortedMap.eq_or_of_insert inA with ⟨rfl, rfl⟩ | oldA <;>
    rcases SortedMap.eq_or_of_insert inB with ⟨rfl, same⟩ | oldB
  · rfl
  · exact (taken oldB).elim
  · exact (taken (same ▸ oldA)).elim
  · exact apart a b other oldA oldB

theorem Apart.spread (apart : positions.Apart) : (spread positions origin ways).1.Apart := by
  induction ways generalizing positions with
  | nil => exact apart
  | cons way rest ih =>
    rw [Positions.spread]
    split
    next => exact ih apart
    next free =>
      rw [Bool.or_eq_true_iff, not_or, Bool.not_eq_true, Bool.not_eq_true] at free
      exact ih (apart.insert free.2)

theorem Apart.grow (apart : positions.Apart) : (grow exits fuel queue positions).Apart := by
  induction fuel generalizing queue positions with
  | zero => exact apart
  | succ fuel ih =>
    cases queue with
    | nil => exact apart
    | cons first queue =>
      rw [Positions.grow]
      split
      next => exact ih apart
      next => exact ih apart.spread

theorem Apart.layout {s : State} (apart : positions.Apart) (laid : s.layout exits positions = .ok after) :
    after.Apart := by
  rw [State.layout] at laid
  split at laid
  next =>
    cases laid
    exact apart
  next =>
    dsimp only at laid
    split at laid
    next =>
      obtain ⟨start, -, same⟩ := bind_eq_ok_iff.mp laid
      cases same
      exact .grow (Apart.empty.insert rfl)
    next =>
      cases laid
      exact apart.grow

theorem le_foldl_max (cells : List Cell) (first : Int) :
    first ≤ cells.foldl (fun x other => max x other.x) first ∧
      ∀ cell ∈ cells, cell.x ≤ cells.foldl (fun x other => max x other.x) first := by
  induction cells generalizing first with
  | nil => simp
  | cons cell cells ih =>
    obtain ⟨low, all⟩ := ih (max first cell.x)
    rw [List.foldl_cons]
    refine ⟨by omega, fun other member => ?_⟩
    rcases List.mem_cons.mp member with rfl | later
    · omega
    · exact all other later

/-- The cell at the east end is east of all others. -/
theorem occupied_eastEnd (positions : Positions) : positions.occupied positions.eastEnd = false := by
  rw [← Bool.not_eq_true, occupied_iff]
  rintro ⟨room, placed⟩
  have member := SortedMap.mem_values.mpr ⟨room, placed⟩
  rw [eastEnd] at member
  split at member
  next none =>
    rw [none] at member
    cases member
  next first rest values =>
    rw [values] at member
    obtain ⟨low, all⟩ := le_foldl_max rest first.x
    rcases List.mem_cons.mp member with same | later
    · have east := congrArg Cell.x same
      dsimp only at east
      omega
    · have east := all _ later
      dsimp only at east
      omega

/-- A direction on which two rooms can be joined, with positions that stay apart. -/
def Fits (exits : Exits) (positions : Positions) (room target : String) (found : Direction × Positions) : Prop :=
  exits.pairFree room target found.1 = true ∧ (positions.Apart → found.2.Apart)

theorem fits_of_beside {found : Direction × Positions}
    (placed : placeBeside exits positions room target cell = some found) : Fits exits positions room target found := by
  obtain ⟨direction, -, chosen⟩ := List.exists_of_findSome?_eq_some placed
  obtain ⟨good, same⟩ := Option.ite_none_right_eq_some.mp chosen
  cases same
  rw [Bool.and_eq_true, Bool.not_eq_true'] at good
  exact ⟨good.1, fun apart => apart.insert good.2⟩

theorem fits_of_next {found : Direction × Positions}
    (placed : placeNext exits positions room target cell = some found) : Fits exits positions room target found := by
  obtain ⟨direction, -, chosen⟩ := List.exists_of_findSome?_eq_some placed
  obtain ⟨free, chosen⟩ := Option.ite_none_right_eq_some.mp chosen
  dsimp only at chosen
  split at chosen
  next =>
    obtain ⟨-, same⟩ := Option.ite_none_right_eq_some.mp chosen
    cases same
    exact ⟨free, id⟩
  next =>
    split at chosen
    next => cases chosen
    next empty =>
      cases chosen
      exact ⟨free, fun apart => apart.insert (Bool.not_eq_true _ ▸ empty)⟩

/-- A direction is chosen that is free on both sides, unless there is none. -/
theorem chooseExit_cases (exits : Exits) (positions : Positions) (room target : String) :
    (∃ found, chooseExit exits positions room target = .ok found ∧ Fits exits positions room target found) ∨
    chooseExit exits positions room target = .error (.noFreeExit room target) ∧
      ∀ direction, exits.pairFree room target direction = false := by
  rw [chooseExit]
  dsimp only
  split
  next found beside =>
    split at beside
    next => cases beside
    next =>
      obtain ⟨cell, -, placed⟩ := Option.bind_eq_some_iff.mp beside
      exact .inl ⟨found, rfl, fits_of_beside placed⟩
  next =>
    generalize start : (if positions.contains room || positions.contains target then positions
      else positions.insert room positions.eastEnd) = begun
    have kept (apart : positions.Apart) : begun.Apart := by
      rw [← start]
      split
      next => exact apart
      next => exact apart.insert (occupied_eastEnd positions)
    split
    next found next =>
      obtain ⟨cell, -, placed⟩ := Option.bind_eq_some_iff.mp next
      obtain ⟨free, apart⟩ := fits_of_next placed
      exact .inl ⟨found, rfl, free, fun before => apart (kept before)⟩
    next =>
      split
      next direction first => exact .inl ⟨_, rfl, List.find?_some first, kept⟩
      next none =>
        refine .inr ⟨rfl, fun direction => ?_⟩
        exact Bool.not_eq_true _ ▸ List.find?_eq_none.mp none direction direction.mem_all

end Positions

namespace State

variable {s t u : State} {direction : Direction} {a b x y : Entity} {fact : Fact} {pairs : List (Entity × Entity)}

/-- A fact says what lies in a direction of a room. -/
def Occupied (s : State) (direction : Direction) (room : Entity) : Prop :=
  ∃ target, ⟨direction.predicate, [target, room]⟩ ∈ s.facts

/-- What a fact says of a direction, another says from the other room. -/
def Mirrored (s : State) : Prop :=
  ∀ (direction : Direction) (a b : Entity), ⟨direction.predicate, [a, b]⟩ ∈ s.facts →
    ⟨direction.opposite.predicate, [b, a]⟩ ∈ s.facts

/-- No direction of a room leads to two rooms. -/
def Unambiguous (s : State) : Prop :=
  ∀ (direction : Direction) (room a b : Entity), ⟨direction.predicate, [a, room]⟩ ∈ s.facts →
    ⟨direction.predicate, [b, room]⟩ ∈ s.facts → a = b

/-- The facts that join two rooms, the second in a direction from the first. -/
def joint (direction : Direction) (a b : Entity) : List Fact :=
  [⟨direction.predicate, [b, a]⟩, ⟨direction.opposite.predicate, [a, b]⟩]

theorem mem_joint : fact ∈ joint direction a b ↔
    fact = ⟨direction.predicate, [b, a]⟩ ∨ fact = ⟨direction.opposite.predicate, [a, b]⟩ := List.mem_pair

/-- Pairs of rooms are joined one after the other, each in a direction that nothing occupies on either side. -/
inductive Joins : State → List (Entity × Entity) → State → Prop
  | done (s : State) : Joins s [] s
  | next {s t u : State} {direction : Direction} {a b : Entity} {pairs : List (Entity × Entity)} :
      ¬ s.Occupied direction a → ¬ s.Occupied direction.opposite b → s.addFacts (joint direction a b) = .ok t →
      Joins t pairs u → Joins s ((a, b) :: pairs) u

theorem mem_joined (added : s.addFacts (joint direction a b) = .ok t) : fact ∈ t.facts ↔
    fact = ⟨direction.predicate, [b, a]⟩ ∨ fact = ⟨direction.opposite.predicate, [a, b]⟩ ∨ fact ∈ s.facts := by
  obtain ⟨-, rfl⟩ := addFacts_eq_ok_iff.mp added
  rw [mem_insertAll, mem_joint, or_assoc]

theorem Mirrored.joined (mirrored : s.Mirrored) (added : s.addFacts (joint direction a b) = .ok t) : t.Mirrored := by
  intro other x y holds
  simp only [mem_joined added, Fact.mk.injEq, List.cons.injEq, and_true] at holds ⊢
  rcases holds with ⟨same, rfl, rfl⟩ | ⟨same, rfl, rfl⟩ | old
  · cases Direction.predicate_injective same
    exact .inr (.inl ⟨rfl, rfl, rfl⟩)
  · cases Direction.predicate_injective same
    exact .inl ⟨congrArg Direction.predicate direction.opposite_opposite, rfl, rfl⟩
  · exact .inr (.inr (mirrored other x y old))

/-- What is said of an exit after a pair was joined was said before, or is the only thing said of it. -/
theorem old_or_sole (freeA : ¬ s.Occupied direction a) (freeB : ¬ s.Occupied direction.opposite b)
    (added : s.addFacts (joint direction a b) = .ok t) {other : Direction}
    (holds : ⟨other.predicate, [x, y]⟩ ∈ t.facts) : ⟨other.predicate, [x, y]⟩ ∈ s.facts ∨
      ¬ s.Occupied other y ∧ ∀ z, ⟨other.predicate, [z, y]⟩ ∈ t.facts → z = x := by
  have turned := direction.opposite_ne
  simp only [mem_joined added, Fact.mk.injEq, List.cons.injEq, and_true] at holds ⊢
  rcases holds with ⟨same, rfl, rfl⟩ | ⟨same, rfl, rfl⟩ | old
  · cases Direction.predicate_injective same
    refine .inr ⟨freeA, ?_⟩
    rintro z (⟨-, rfl, -⟩ | ⟨same, -, -⟩ | old)
    · rfl
    · exact absurd (Direction.predicate_injective same).symm turned
    · exact absurd ⟨z, old⟩ freeA
  · cases Direction.predicate_injective same
    refine .inr ⟨freeB, ?_⟩
    rintro z (⟨same, -, -⟩ | ⟨-, rfl, -⟩ | old)
    · exact absurd (Direction.predicate_injective same) turned
    · rfl
    · exact absurd ⟨z, old⟩ freeB
  · exact .inl old

namespace Joins

theorem kb (joins : Joins s pairs t) : t.kb = s.kb := by
  induction joins with
  | done => rfl
  | next _ _ added _ ih =>
    obtain ⟨-, rfl⟩ := addFacts_eq_ok_iff.mp added
    rw [ih, insertAll_kb]

theorem built (joins : Joins s pairs t) (built : s.Built) : t.Built := by
  induction joins with
  | done => exact built
  | next _ _ added _ ih => exact ih (.addFacts built added)

theorem keeps (joins : Joins s pairs t) (holds : fact ∈ s.facts) : fact ∈ t.facts := by
  induction joins with
  | done => exact holds
  | next _ _ added _ ih => exact ih ((mem_joined added).mpr (.inr (.inr holds)))

/-- Only directions between the rooms of a pair are new. -/
theorem old_or_joint (joins : Joins s pairs t) (holds : fact ∈ t.facts) : fact ∈ s.facts ∨
    ∃ pair ∈ pairs, ∃ direction, fact ∈ joint direction pair.1 pair.2 := by
  induction joins with
  | done => exact .inl holds
  | @next _ _ _ direction a b pairs _ _ added _ ih =>
    rcases ih holds with before | ⟨pair, later, direction, member⟩
    · rcases (mem_joined added).mp before with new | new | old
      · exact .inr ⟨(a, b), List.mem_cons_self, direction, mem_joint.mpr (.inl new)⟩
      · exact .inr ⟨(a, b), List.mem_cons_self, direction, mem_joint.mpr (.inr new)⟩
      · exact .inl old
    · exact .inr ⟨pair, List.mem_cons_of_mem _ later, direction, member⟩

theorem mirrored (joins : Joins s pairs t) (mirrored : s.Mirrored) : t.Mirrored := by
  induction joins with
  | done => exact mirrored
  | next _ _ added _ ih => exact ih (mirrored.joined added)

/-- What is said of an exit in the end was said at first, or is the only thing said of it. -/
theorem old_or_sole (joins : Joins s pairs t) (holds : ⟨direction.predicate, [x, y]⟩ ∈ t.facts) :
    ⟨direction.predicate, [x, y]⟩ ∈ s.facts ∨
      ¬ s.Occupied direction y ∧ ∀ z, ⟨direction.predicate, [z, y]⟩ ∈ t.facts → z = x := by
  induction joins generalizing x with
  | done => exact .inl holds
  | next freeA freeB added _ ih =>
    rcases ih holds with before | ⟨free, sole⟩
    · refine (State.old_or_sole freeA freeB added before).imp_right fun ⟨free, sole⟩ => ⟨free, fun z also => ?_⟩
      -- The exit is occupied once the pair is joined, so no later pair can have used it.
      exact sole z ((ih also).resolve_right fun later => later.1 ⟨x, before⟩)
    · exact .inr ⟨fun ⟨z, old⟩ => free ⟨z, (mem_joined added).mpr (.inr (.inr old))⟩, sole⟩

theorem unambiguous (joins : Joins s pairs t) (unambiguous : s.Unambiguous) : t.Unambiguous := by
  intro direction room a b holdsA holdsB
  rcases joins.old_or_sole holdsA with oldA | ⟨-, sole⟩
  · rcases joins.old_or_sole holdsB with oldB | ⟨free, -⟩
    · exact unambiguous direction room a b oldA oldB
    · exact absurd ⟨a, oldA⟩ free
  · exact (sole b holdsB).symm

/-- The rooms of each pair are joined in the end. -/
theorem exists_direction (joins : Joins s pairs t) (member : (a, b) ∈ pairs) : ∃ direction : Direction,
    ⟨direction.predicate, [b, a]⟩ ∈ t.facts ∧ ⟨direction.opposite.predicate, [a, b]⟩ ∈ t.facts := by
  induction joins with
  | done => cases member
  | @next _ _ _ direction _ _ _ _ _ added rest ih =>
    rcases List.mem_cons.mp member with same | later
    · cases same
      exact ⟨direction, rest.keeps ((mem_joined added).mpr (.inl rfl)),
        rest.keeps ((mem_joined added).mpr (.inr (.inl rfl)))⟩
    · exact ih later

end Joins

theorem addFacts_eq_error {facts : List Fact} {error : Error} (failed : s.addFacts facts = .error error) :
    ∃ fact fault, error = .invalidFact fact fault := by
  rcases bind_eq_error_iff.mp failed with checks | ⟨_, -, done⟩
  · exact KnowledgeBase.checkFacts_eq_error checks
  · cases done

end State

namespace Exits

variable {exits : Exits} {s t : State} {direction : Direction} {a b : Entity} {room target : String}

theorem of_add_eq_some {origin other : String} {way : Direction}
    (leads : ((exits.add origin direction target).of room)[way]? = some other) :
    (origin = room ∧ direction = way ∧ target = other) ∨ (exits.of room)[way]? = some other := by
  rw [of_add] at leads
  split at leads
  next same => exact (SortedMap.eq_or_of_insert leads).imp_left fun ⟨turn, found⟩ => ⟨same, turn, found⟩
  next => exact .inr leads

theorem mem_of_add {origin : String} {way : Direction} : way ∈ (exits.add origin direction target).of room ↔
    (origin = room ∧ direction = way) ∨ way ∈ exits.of room := by
  rw [of_add]
  split
  next same => simp [same]
  next different => simp [different]

theorem pairFree_iff : exits.pairFree room target direction = true ↔
    direction ∉ exits.of room ∧ direction.opposite ∉ exits.of target := by
  simp [pairFree, isFree, ← Bool.not_eq_true]

theorem leadsTo_iff :
    exits.leadsTo room target = true ↔ ∃ direction : Direction, (exits.of room)[direction]? = some target := by
  simp [leadsTo, SortedMap.any_iff]

/-- The exits are those that facts state, each with one of the rooms that are said to lie there. -/
structure Reads (exits : Exits) (s : State) : Prop where
  stated : ∀ (room : String) (direction : Direction) target, (exits.of room)[direction]? = some target →
    ∃ a b : Entity, ⟨direction.predicate, [a, b]⟩ ∈ s.facts ∧ a.name = target ∧ b.name = room
  taken : ∀ (direction : Direction) (a b : Entity), ⟨direction.predicate, [a, b]⟩ ∈ s.facts →
    direction ∈ exits.of b.name

theorem reads_ofFacts (s : State) : (ofFacts s.facts.toList).Reads s where
  stated room direction target leads := by
    obtain ⟨⟨predicate, arguments⟩, listed, a, b, read, named⟩ := exists_of_ofFacts leads
    obtain ⟨rfl, rfl⟩ := direction?_eq_some read
    exact ⟨a, b, Std.ExtTreeSet.mem_toList.mp listed, named⟩
  taken direction a b holds :=
    SortedMap.mem_iff.mpr (exists_leads (Std.ExtTreeSet.mem_toList.mpr holds))

theorem Reads.joined (reads : exits.Reads s) (added : s.addFacts (State.joint direction a b) = .ok t) :
    ((exits.add a.name direction b.name).add b.name direction.opposite a.name).Reads t where
  stated room way target leads := by
    rcases of_add_eq_some leads with ⟨named, rfl, same⟩ | leads
    · exact ⟨a, b, (State.mem_joined added).mpr (.inr (.inl rfl)), same, named⟩
    rcases of_add_eq_some leads with ⟨named, rfl, same⟩ | leads
    · exact ⟨b, a, (State.mem_joined added).mpr (.inl rfl), same, named⟩
    obtain ⟨x, y, holds, named⟩ := reads.stated room way target leads
    exact ⟨x, y, (State.mem_joined added).mpr (.inr (.inr holds)), named⟩
  taken way x y holds := by
    rw [mem_of_add, mem_of_add]
    simp only [State.mem_joined added, Fact.mk.injEq, List.cons.injEq, and_true] at holds
    rcases holds with ⟨same, -, rfl⟩ | ⟨same, -, rfl⟩ | old
    · exact .inr (.inl ⟨rfl, (Direction.predicate_injective same).symm⟩)
    · exact .inl ⟨rfl, (Direction.predicate_injective same).symm⟩
    · exact .inr (.inr (reads.taken way x y old))

theorem Reads.not_occupied (reads : exits.Reads s) (free : direction ∉ exits.of a.name) : ¬ s.Occupied direction a :=
  fun ⟨x, holds⟩ => free (reads.taken direction x a holds)

end Exits

namespace World

variable {exits : Exits} {s t : State} {positions after : Positions} {facts : List Fact} {fact back : Fact}
  {a b : Entity} {pair : Entity × Entity} {pairs queued : List (Entity × Entity)}

theorem connection?_eq_some : connection? fact = some (a, b) ↔
    ((∃ door, fact = ⟨"link", [a, door, b]⟩) ∨ fact = ⟨"free", [a, b]⟩) ∧ a ≠ b := by
  obtain ⟨predicate, arguments⟩ := fact
  rw [connection?, Option.filter_eq_some_iff, bne_iff_ne]
  refine and_congr_left fun _ => ?_
  split
  next named listed =>
    cases named
    cases listed
    simp
  next named listed =>
    cases named
    cases listed
    simp
  next notLink notFree =>
    refine iff_of_false nofun ?_
    rintro (⟨door, same⟩ | same)
    · cases same
      exact notLink _ _ _ rfl rfl
    · cases same
      exact notFree _ _ rfl rfl

theorem reversed?_eq_some : reversed? fact = some back ↔
    (∃ a door b, fact = ⟨"link", [a, door, b]⟩ ∧ back = ⟨"link", [b, door, a]⟩) ∨
    ∃ a b, fact = ⟨"free", [a, b]⟩ ∧ back = ⟨"free", [b, a]⟩ := by
  obtain ⟨predicate, arguments⟩ := fact
  rw [reversed?]
  split
  next named listed =>
    cases named
    cases listed
    simp [eq_comm]
  next named listed =>
    cases named
    cases listed
    simp [eq_comm]
  next notLink notFree =>
    refine iff_of_false nofun ?_
    rintro (⟨a, door, b, same, -⟩ | ⟨a, b, same, -⟩)
    · cases same
      exact notLink _ _ _ rfl rfl
    · cases same
      exact notFree _ _ rfl rfl

theorem unplaced_eq_nil (led : ∀ fact ∈ facts, ∀ room target,
    connection? fact = some (room, target) → exits.leadsTo room.name target.name = true) :
    unplaced exits [] facts = [] := by
  induction facts with
  | nil => rfl
  | cons fact facts ih =>
    obtain ⟨here, others⟩ := List.forall_mem_cons.mp led
    rw [unplaced]
    split
    next => exact ih others
    next room target joins => rw [here room target joins, Bool.true_or, Bool.true_or, if_pos rfl, ih others]

theorem subset_unplaced (member : pair ∈ queued) : pair ∈ unplaced exits queued facts := by
  fun_induction unplaced exits queued facts with
  | case1 => exact List.mem_reverse.mpr member
  | case2 _ _ _ _ ih => exact ih member
  | case3 _ _ _ _ _ _ _ ih => exact ih member
  | case4 _ _ _ _ _ _ _ ih => exact ih (List.mem_cons_of_mem _ member)

/-- Each connection is on an exit, or is to be placed one way or the other. -/
theorem unplaced_covers (member : fact ∈ facts) (joins : connection? fact = some (a, b)) :
    exits.leadsTo a.name b.name = true ∨ (a, b) ∈ unplaced exits queued facts ∨
      (b, a) ∈ unplaced exits queued facts := by
  fun_induction unplaced exits queued facts with
  | case1 => cases member
  | case2 _ _ _ unread ih =>
    rcases List.mem_cons.mp member with rfl | later
    · rw [joins] at unread
      cases unread
    · exact ih later
  | case3 queued _ _ _ _ read known ih =>
    rcases List.mem_cons.mp member with rfl | later
    · rw [joins] at read
      cases read
      simp only [Bool.or_eq_true, List.contains_iff_mem] at known
      rcases known with (leads | placed) | placed
      · exact .inl leads
      · exact .inr (.inl (subset_unplaced placed))
      · exact .inr (.inr (subset_unplaced placed))
    · exact ih later
  | case4 _ _ _ _ _ read _ ih =>
    rcases List.mem_cons.mp member with rfl | later
    · rw [joins] at read
      cases read
      exact .inr (.inl (subset_unplaced List.mem_cons_self))
    · exact ih later

theorem exists_connection (member : (a, b) ∈ unplaced exits queued facts) : (a, b) ∈ queued ∨
    exits.leadsTo a.name b.name = false ∧ ∃ fact ∈ facts, connection? fact = some (a, b) := by
  fun_induction unplaced exits queued facts with
  | case1 => exact .inl (List.mem_reverse.mp member)
  | case2 _ _ _ _ ih =>
    exact (ih member).imp_right fun ⟨free, fact, later, joins⟩ => ⟨free, fact, List.mem_cons_of_mem _ later, joins⟩
  | case3 _ _ _ _ _ _ _ ih =>
    exact (ih member).imp_right fun ⟨free, fact, later, joins⟩ => ⟨free, fact, List.mem_cons_of_mem _ later, joins⟩
  | case4 _ _ _ _ _ read free ih =>
    rcases ih member with here | ⟨unled, fact, later, joins⟩
    · rcases List.mem_cons.mp here with same | queued
      · cases same
        simp only [Bool.or_eq_true, not_or, Bool.not_eq_true] at free
        exact .inr ⟨free.1.1, _, List.mem_cons_self, read⟩
      · exact .inl queued
    · exact .inr ⟨unled, fact, List.mem_cons_of_mem _ later, joins⟩

/-- Rooms are joined on exits that no fact speaks of, and no two rooms come to be in one cell. -/
theorem joins_of_connect (reads : exits.Reads s) (connected : connect s exits positions pairs = .ok (t, after)) :
    s.Joins pairs t ∧ (positions.Apart → after.Apart) := by
  induction pairs generalizing s exits positions with
  | nil =>
    cases connected
    exact ⟨.done _, id⟩
  | cons pair rest ih =>
    obtain ⟨a, b⟩ := pair
    rw [connect] at connected
    obtain ⟨⟨direction, moved⟩, chosen, connected⟩ := bind_eq_ok_iff.mp connected
    obtain ⟨next, added, connected⟩ := bind_eq_ok_iff.mp connected
    rcases Positions.chooseExit_cases exits positions a.name b.name with ⟨found, same, free, apart⟩ | ⟨failed, -⟩
    · cases chosen.symm.trans same
      obtain ⟨freeA, freeB⟩ := Exits.pairFree_iff.mp free
      obtain ⟨joins, keeps⟩ := ih (reads.joined added) connected
      exact ⟨.next (reads.not_occupied freeA) (reads.not_occupied freeB) added joins, keeps ∘ apart⟩
    · cases chosen.symm.trans failed

/-- Joining gives up at a pair for which no direction is left. -/
theorem connect_eq_error {room target : String} (reads : exits.Reads s)
    (failed : connect s exits positions pairs = .error (.noFreeExit room target)) :
    ∃ earlier a b later joined, pairs = earlier ++ (a, b) :: later ∧ a.name = room ∧ b.name = target ∧
      s.Joins earlier joined ∧ ∃ left : Exits, left.Reads joined ∧
        ∀ direction, left.pairFree room target direction = false := by
  induction pairs generalizing s exits positions with
  | nil => cases failed
  | cons pair rest ih =>
    obtain ⟨a, b⟩ := pair
    rw [connect] at failed
    rcases bind_eq_error_iff.mp failed with wrong | ⟨⟨direction, moved⟩, found, failed⟩
    · rcases Positions.chooseExit_cases exits positions a.name b.name with ⟨_, chosen, -⟩ | ⟨chosen, full⟩
      · cases chosen.symm.trans wrong
      · cases chosen.symm.trans wrong
        exact ⟨[], a, b, rest, s, rfl, rfl, rfl, .done s, exits, reads, full⟩
    · rcases Positions.chooseExit_cases exits positions a.name b.name with ⟨_, chosen, free, -⟩ | ⟨chosen, -⟩
      · cases chosen.symm.trans found
        rcases bind_eq_error_iff.mp failed with wrong | ⟨next, added, failed⟩
        · obtain ⟨fact, fault, same⟩ := State.addFacts_eq_error wrong
          cases same
        · obtain ⟨freeA, freeB⟩ := Exits.pairFree_iff.mp free
          obtain ⟨earlier, x, y, later, joined, rfl, roomX, roomY, joins, stuck⟩ := ih (reads.joined added) failed
          exact ⟨(a, b) :: earlier, x, y, later, joined, rfl, roomX, roomY,
            .next (reads.not_occupied freeA) (reads.not_occupied freeB) added joins, stuck⟩
      · cases chosen.symm.trans found

end World

end Adventure
