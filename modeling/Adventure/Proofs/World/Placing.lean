import Adventure.Proofs.Sorted
import Adventure.World.Layout

namespace Adventure

namespace Exits

/-- The rooms that exits lead to, as often as they do. -/
def targets (exits : Exits) : List String := exits.values.flatMap fun ways => ways.values

theorem mem_targets {exits : Exits} {room target : String} {direction : Direction}
    (leads : (exits.of room)[direction]? = some target) : target ∈ exits.targets := by
  have known : room ∈ exits := by
    refine Classical.byContradiction fun absent => ?_
    rw [of, Std.ExtTreeMap.getD_eq_fallback absent, Std.ExtTreeMap.getElem?_empty] at leads
    cases leads
  obtain ⟨ways, here⟩ := SortedMap.mem_iff.mp known
  rw [of, Std.ExtTreeMap.getD_eq_getD_getElem?, here] at leads
  exact List.mem_flatMap.mpr ⟨ways, SortedMap.mem_values.mpr ⟨room, here⟩, SortedMap.mem_values.mpr ⟨direction, leads⟩⟩

end Exits

namespace Positions

variable {exits : Exits} {positions : Positions} {origin cell : Cell} {ways : List (Direction × String)} {room : String}

theorem occupied_iff : positions.occupied cell = true ↔ ∃ room : String, positions[room]? = some cell := by
  simp only [occupied, SortedMap.any_iff, beq_iff_eq, exists_eq_right]

/-- What leaves every placed room where it is leaves its cell occupied. -/
theorem occupied_of_keeps {after : Positions}
    (keeps : ∀ (room : String) cell, positions[room]? = some cell → after[room]? = some cell)
    (taken : positions.occupied cell = true) : after.occupied cell = true := by
  obtain ⟨room, placed⟩ := occupied_iff.mp taken
  exact occupied_iff.mpr ⟨room, keeps room cell placed⟩

theorem spread_keeps (placed : positions[room]? = some cell) : (spread positions origin ways).1[room]? = some cell := by
  induction ways generalizing positions with
  | nil => exact placed
  | cons way rest ih =>
    rw [spread]
    split
    next => exact ih placed
    next free =>
      refine ih ?_
      have other : way.2 ≠ room := by
        rintro rfl
        have known := Std.ExtTreeMap.contains_iff_mem.mpr (SortedMap.mem_iff.mpr ⟨cell, placed⟩)
        simp [known] at free
      rw [Std.ExtTreeMap.getElem?_insert, if_neg (by simpa using other)]
      exact placed

/-- A room that is placed is where it was, or is listed and one step away. -/
theorem of_spread (placed : (spread positions origin ways).1[room]? = some cell) : positions[room]? = some cell ∨
    room ∈ (spread positions origin ways).2 ∧ ∃ direction, (direction, room) ∈ ways ∧ cell = origin.step direction := by
  induction ways generalizing positions with
  | nil => exact .inl placed
  | cons way rest ih =>
    rw [spread] at placed ⊢
    split at placed
    next taken =>
      rw [if_pos taken]
      refine (ih placed).imp_right fun ⟨listed, direction, member, here⟩ => ?_
      exact ⟨listed, direction, List.mem_cons_of_mem _ member, here⟩
    next free =>
      rw [if_neg free]
      rcases ih placed with before | ⟨listed, direction, member, here⟩
      · rcases SortedMap.eq_or_of_insert before with ⟨rfl, rfl⟩ | older
        · exact .inr ⟨List.mem_cons_self, way.1, List.mem_cons_self, rfl⟩
        · exact .inl older
      · exact .inr ⟨List.mem_cons_of_mem _ listed, direction, List.mem_cons_of_mem _ member, here⟩

/-- No exit is passed over without a reason. -/
theorem spread_closed {way : Direction × String} (member : way ∈ ways) :
    way.2 ∈ (spread positions origin ways).1 ∨
      (spread positions origin ways).1.occupied (origin.step way.1) = true := by
  induction ways generalizing positions with
  | nil => cases member
  | cons first rest ih =>
    rw [spread]
    split
    next taken =>
      rcases List.mem_cons.mp member with rfl | later
      · rcases Bool.or_eq_true_iff.mp taken with known | occupied
        · obtain ⟨cell, placed⟩ := SortedMap.mem_iff.mp (Std.ExtTreeMap.contains_iff_mem.mp known)
          exact .inl (SortedMap.mem_iff.mpr ⟨cell, spread_keeps placed⟩)
        · exact .inr (occupied_of_keeps (fun _ _ => spread_keeps) occupied)
      · exact ih later
    next =>
      rcases List.mem_cons.mp member with rfl | later
      · exact .inl (SortedMap.mem_iff.mpr ⟨_, spread_keeps Std.ExtTreeMap.getElem?_insert_self⟩)
      · exact ih later

/-- The number of exits that lead to rooms which are not placed. -/
def pending (exits : Exits) (positions : Positions) : Nat :=
  (exits.targets.filter (!positions.contains ·)).length

theorem pending_insert (target : room ∈ exits.targets) (unplaced : room ∉ positions) :
    pending exits (positions.insert room cell) + 1 ≤ pending exits positions := by
  have split : exits.targets.filter (!(positions.insert room cell).contains ·) =
      (exits.targets.filter (!positions.contains ·)).filter (!· == room) := by
    rw [List.filter_filter]
    refine List.filter_congr fun other _ => ?_
    rw [Std.ExtTreeMap.contains_insert, Bool.not_or]
    congr 2
    rw [Bool.eq_iff_iff, beq_iff_eq, beq_iff_eq, Std.LawfulEqOrd.compare_eq_iff_eq]
    exact eq_comm
  have fewer : ((exits.targets.filter (!positions.contains ·)).filter (!· == room)).length <
      (exits.targets.filter (!positions.contains ·)).length := by
    refine List.length_filter_lt_length_iff_exists.mpr ⟨room, List.mem_filter.mpr ⟨target, ?_⟩, ?_⟩
    · rw [Bool.not_eq_true', ← Bool.not_eq_true, Std.ExtTreeMap.contains_iff_mem]
      exact unplaced
    · simp
  rw [pending, split]
  exact fewer

/-- Every room that is listed takes an exit from those that lead to rooms not placed. -/
theorem pending_spread (targets : ∀ way ∈ ways, way.2 ∈ exits.targets) :
    pending exits (spread positions origin ways).1 + (spread positions origin ways).2.length ≤
      pending exits positions := by
  induction ways generalizing positions with
  | nil => exact Nat.le_refl _
  | cons way rest ih =>
    obtain ⟨first, others⟩ := List.forall_mem_cons.mp targets
    rw [spread]
    split
    next => exact ih others
    next free =>
      have unplaced : way.2 ∉ positions := by
        intro known
        simp [Std.ExtTreeMap.contains_iff_mem.mpr known] at free
      have one : pending exits (positions.insert way.2 (origin.step way.1)) + 1 ≤ pending exits positions :=
        pending_insert first unplaced
      have more := @ih (positions.insert way.2 (origin.step way.1)) others
      show pending exits (spread (positions.insert way.2 (origin.step way.1)) origin rest).1 +
        ((spread (positions.insert way.2 (origin.step way.1)) origin rest).2.length + 1) ≤ _
      omega

theorem growth_eq (exits : Exits) (positions : Positions) :
    growth exits positions = exits.targets.length + positions.size := by
  rw [growth, Exits.targets]
  induction exits.values with
  | nil => exact (Nat.zero_add _).symm
  | cons ways rest ih =>
    have size : ways.values.length = ways.size := by
      rw [SortedMap.values_eq, List.length_map, Std.ExtTreeMap.length_toList]
    rw [List.foldr_cons, ih, List.flatMap_cons, List.length_append, size]
    omega

variable {fuel : Nat} {queue : List String}

theorem grow_keeps (placed : positions[room]? = some cell) : (grow exits fuel queue positions)[room]? = some cell := by
  induction fuel generalizing queue positions with
  | zero => exact placed
  | succ fuel ih =>
    cases queue with
    | nil => exact placed
    | cons first queue =>
      rw [grow]
      split
      next => exact ih placed
      next => exact ih (spread_keeps placed)

/-- What holds of the rooms placed and goes on from a room along its exits holds of all that are placed from there. -/
theorem grow_sound {P : String → Cell → Prop}
    (step : ∀ room cell, P room cell → ∀ (direction : Direction) target, (exits.of room)[direction]? = some target →
      P target (cell.step direction))
    (start : ∀ (room : String) cell, positions[room]? = some cell → P room cell) (room : String) (cell : Cell)
    (placed : (grow exits fuel queue positions)[room]? = some cell) : P room cell := by
  induction fuel generalizing queue positions with
  | zero => exact start room cell placed
  | succ fuel ih =>
    cases queue with
    | nil => exact start room cell placed
    | cons first queue =>
      rw [grow] at placed
      split at placed
      next => exact ih start placed
      next origin here =>
        refine ih (fun other cell found => ?_) placed
        rcases of_spread found with before | ⟨-, direction, member, rfl⟩
        · exact start other cell before
        · exact step first origin (start first origin here) direction other
            (Std.ExtTreeMap.mem_toList_iff_getElem?_eq_some.mp member)

/-- Each exit of a room leads to a placed room or towards a cell that is taken. -/
def Settled (exits : Exits) (positions : Positions) (room : String) (cell : Cell) : Prop :=
  ∀ (direction : Direction) target, (exits.of room)[direction]? = some target →
    target ∈ positions ∨ positions.occupied (cell.step direction) = true

theorem Settled.of_keeps {after : Positions} (settled : Settled exits positions room cell)
    (keeps : ∀ (room : String) cell, positions[room]? = some cell → after[room]? = some cell) :
    Settled exits after room cell := by
  intro direction target leads
  refine (settled direction target leads).imp (fun known => ?_) (occupied_of_keeps keeps)
  obtain ⟨cell, placed⟩ := SortedMap.mem_iff.mp known
  exact SortedMap.mem_iff.mpr ⟨cell, keeps target cell placed⟩

/-- Growth ends with all rooms settled. -/
theorem grow_settled (enough : queue.length + pending exits positions ≤ fuel)
    (settled : ∀ (room : String) cell, positions[room]? = some cell → room ∈ queue ∨ Settled exits positions room cell)
    (room : String) (cell : Cell) (placed : (grow exits fuel queue positions)[room]? = some cell) :
    Settled exits (grow exits fuel queue positions) room cell := by
  -- A round takes a room from the queue, and each room it adds uses up an exit to a room not placed.
  induction fuel generalizing queue positions with
  | zero =>
    cases queue with
    | nil => exact (settled room cell placed).resolve_left List.not_mem_nil
    | cons => simp only [List.length_cons] at enough; omega
  | succ fuel ih =>
    cases queue with
    | nil => exact (settled room cell placed).resolve_left List.not_mem_nil
    | cons first queue =>
      rw [List.length_cons] at enough
      cases here : positions[first]? with
      | none =>
        have same : grow exits (fuel + 1) (first :: queue) positions = grow exits fuel queue positions := by
          rw [grow, here]
        rw [same] at placed ⊢
        refine ih (by omega) (fun other cell found => ?_) placed
        refine (settled other cell found).imp_left fun queued => ?_
        rcases List.mem_cons.mp queued with rfl | later
        · cases here.symm.trans found
        · exact later
      | some origin =>
        have same : grow exits (fuel + 1) (first :: queue) positions =
            grow exits fuel (queue ++ (spread positions origin (exits.of first).toList).2)
              (spread positions origin (exits.of first).toList).1 := by
          rw [grow, here]
        have fewer : pending exits (spread positions origin (exits.of first).toList).1 +
            (spread positions origin (exits.of first).toList).2.length ≤ pending exits positions :=
          pending_spread fun way member => Exits.mem_targets (Std.ExtTreeMap.mem_toList_iff_getElem?_eq_some.mp member)
        rw [same] at placed ⊢
        refine ih (by rw [List.length_append]; omega) (fun other cell found => ?_) placed
        rcases of_spread found with before | ⟨listed, -⟩
        · rcases settled other cell before with queued | done
          · rcases List.mem_cons.mp queued with rfl | later
            · cases here.symm.trans before
              exact .inr fun direction target leads =>
                spread_closed (Std.ExtTreeMap.mem_toList_iff_getElem?_eq_some.mpr leads)
            · exact .inl (List.mem_append_left _ later)
          · exact .inr (done.of_keeps fun _ _ => spread_keeps)
        · exact .inl (List.mem_append_right _ listed)

theorem growth_settled (room : String) (cell : Cell)
    (placed : (grow exits (growth exits positions) positions.keys positions)[room]? = some cell) :
    Settled exits (grow exits (growth exits positions) positions.keys positions) room cell := by
  have few : pending exits positions ≤ exits.targets.length := List.length_filter_le ..
  refine grow_settled ?_ (fun other cell found => ?_) room cell placed
  · rw [growth_eq, Std.ExtTreeMap.length_keys]
    omega
  · exact .inl (Std.ExtTreeMap.mem_keys.mpr (SortedMap.mem_iff.mpr ⟨cell, found⟩))

end Positions

end Adventure
