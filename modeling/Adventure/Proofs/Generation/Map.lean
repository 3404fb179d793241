import Adventure.Proofs.Generation.Chart
import Adventure.Proofs.World.Joining

namespace Adventure

/-- An exit leads from one room of a world to another. -/
def World.Leads (w : World) (a b : Room) : Prop :=
  a ∈ w.roomList ∧ b ∈ w.roomList ∧ ∃ direction : Direction, a.exits[direction]? = some b.id

namespace Draft
open Adventure.Core

variable {draft : Draft} {s : State} {fact back : Fact} {a b room : Entity} {cell other : Cell}

theorem Drawn.of_at (drawn : Drawn draft fact) (placement : fact.predicate = "at") :
    ∃ room, draft.cells[(⟨0, 0⟩ : Cell)]? = some room ∧ fact = ⟨"at", [⟨"P", "P"⟩, room]⟩ := by
  have states : ∀ state ∈ World.openStates, state ≠ "at" := by decide
  cases drawn with
  | player here => exact ⟨_, here, rfl⟩
  | @way _ direction => exact absurd placement (by cases direction <;> decide : direction.predicate ≠ "at")
  | link => exact absurd placement (by decide : "link" ≠ "at")
  | free => exact absurd placement (by decide : "free" ≠ "at")
  | @door state _ among => exact absurd placement (states state among)

/-- Doors and passages are drawn from both sides. -/
theorem Sound.reversed (sound : draft.Sound) (member : fact ∈ draft.facts) (made : World.reversed? fact = some back) :
    back ∈ draft.facts := by
  cases sound.drawn fact member with
  | player => cases made
  | @way _ direction => cases direction <;> cases made
  | link _ _ back =>
    cases made
    exact back
  | free _ back =>
    cases made
    exact back
  | @door state door among =>
    have none : ∀ state ∈ World.openStates, World.reversed? ⟨state, [door]⟩ = none := by
      simp [World.openStates, World.reversed?]
    rw [none state among] at made
    cases made

theorem Sound.joined (sound : draft.Sound) (member : fact ∈ draft.facts)
    (joins : World.connection? fact = some (a, b)) : Joined draft.facts a b := by
  obtain ⟨ends, -⟩ := Option.filter_eq_some_iff.mp joins
  cases sound.drawn fact member with
  | player => cases ends
  | @way _ direction => cases direction <;> cases ends
  | link joined =>
    cases ends
    exact joined
  | free joined =>
    cases ends
    exact joined
  | @door state door among =>
    have none : ∀ state ∈ World.openStates, World.connection? ⟨state, [door]⟩ = none := by
      simp [World.openStates, World.connection?]
    rw [none state among] at joins
    cases joins

/-- A room of the given name is drawn in a cell. -/
def Lies (draft : Draft) (name : String) (cell : Cell) : Prop :=
  ∃ room, draft.cells[cell]? = some room ∧ room.name = name

theorem Sound.eq_of_lies (sound : draft.Sound) (here : draft.cells[cell]? = some room)
    (lies : draft.Lies room.name other) : other = cell := by
  obtain ⟨also, there, shared⟩ := lies
  rw [(sound.minted other also there).eq_of_name (sound.minted cell room here) shared] at there
  exact sound.apart other cell room there here

namespace Charts

variable {positions : Positions} {name : String}

/-- Growth along the exits finds the map as drawn. -/
theorem grow_iff (charts : Charts draft s)
    (drawn : ∀ (name : String) cell, positions[name]? = some cell → draft.Lies name cell)
    (first : ∀ start, draft.cells[(⟨0, 0⟩ : Cell)]? = some start → start.name ∈ positions) :
    (Positions.grow (Exits.ofFacts s.facts.toList) (Positions.growth (Exits.ofFacts s.facts.toList) positions)
      positions.keys positions)[name]? = some cell ↔ draft.Lies name cell := by
  have sound := charts.sound
  generalize same : Positions.grow (Exits.ofFacts s.facts.toList)
    (Positions.growth (Exits.ofFacts s.facts.toList) positions) positions.keys positions = placed
  have lies (name : String) (cell : Cell) (here : placed[name]? = some cell) : draft.Lies name cell := by
    rw [← same] at here
    refine Positions.grow_sound (fun name cell found direction target leads => ?_) drawn name cell here
    obtain ⟨a, here, rfl⟩ := found
    obtain ⟨b, stated, rfl⟩ := (charts.leads_iff here).mp leads
    exact ⟨b, sound.step here stated, rfl⟩
  have settled (name : String) (cell : Cell) (here : placed[name]? = some cell) :
      Positions.Settled (Exits.ofFacts s.facts.toList) placed name cell := by
    rw [← same] at here ⊢
    exact Positions.growth_settled name cell here
  obtain ⟨start, origin, -, connected⟩ := sound.connected
  have reached (room : Entity) (path : Relation.ReflTransGen (Joined draft.facts) start room) : room.name ∈ placed := by
    induction path with
    | refl =>
      obtain ⟨cell, here⟩ := SortedMap.mem_iff.mp (first start origin)
      exact SortedMap.mem_iff.mpr ⟨cell, same ▸ Positions.grow_keeps here⟩
    | @tail a b _ joined ih =>
      obtain ⟨cell, -, here, -⟩ := sound.exists_cells joined
      obtain ⟨direction, stated, -⟩ := charts.exists_way joined
      obtain ⟨other, found⟩ := SortedMap.mem_iff.mp ih
      cases sound.eq_of_lies here (lies a.name other found)
      refine (settled a.name _ found direction b.name ((charts.leads_iff here).mpr ⟨b, stated, rfl⟩)).elim id ?_
      -- Rooms are only placed where they are drawn, so a cell that is taken holds the very room that was to go there.
      intro taken
      obtain ⟨name, there⟩ := Positions.occupied_iff.mp taken
      obtain ⟨c, present, rfl⟩ := lies name _ there
      cases present.symm.trans (sound.step here stated)
      exact SortedMap.mem_iff.mpr ⟨_, there⟩
  refine ⟨lies name cell, ?_⟩
  rintro ⟨room, here, rfl⟩
  obtain ⟨other, found⟩ := SortedMap.mem_iff.mp (reached room (connected cell room here))
  cases sound.eq_of_lies here (lies room.name other found)
  exact found

theorem eq_player (charts : Charts draft s) {start : Entity} (origin : draft.cells[(⟨0, 0⟩ : Cell)]? = some start)
    (holds : fact ∈ s.facts) (placement : fact.predicate = "at") : fact = ⟨"at", [⟨"P", "P"⟩, start]⟩ := by
  obtain ⟨room, also, rfl⟩ := (charts.sound.drawn fact ((charts.facts fact).mp holds)).of_at placement
  cases origin.symm.trans also
  rfl

theorem playerRoomIn_eq (charts : Charts draft s) {start : Entity}
    (origin : draft.cells[(⟨0, 0⟩ : Cell)]? = some start) :
    playerRoomIn (s.factsNamed "at") = .ok (some start.name) := by
  have indexed := charts.built.indexed
  obtain ⟨room, also, player, -⟩ := charts.sound.connected
  have listed := indexed.mem_factsNamed.mpr ⟨(charts.facts _).mpr player, rfl⟩
  obtain ⟨fact, rest, facts⟩ := List.exists_cons_of_ne_nil (List.ne_nil_of_mem listed)
  obtain ⟨holds, placement⟩ := indexed.mem_factsNamed.mp (facts ▸ List.mem_cons_self : fact ∈ s.factsNamed "at")
  rw [facts, charts.eq_player origin holds placement]
  rfl

/-- The layout of the rooms is that of the draft, from nothing and also from itself. -/
theorem exists_layout (charts : Charts draft s)
    (before : positions = ∅ ∨ ∀ (name : String) cell, positions[name]? = some cell ↔ draft.Lies name cell) :
    ∃ placed, s.layout (Exits.ofFacts s.facts.toList) positions = .ok placed ∧
      ∀ (name : String) cell, placed[name]? = some cell ↔ draft.Lies name cell := by
  obtain ⟨start, origin, -⟩ := charts.sound.connected
  have listed : start.name ∈ s.roomNames := charts.mem_roomNames.mpr ⟨_, start, origin, rfl⟩
  obtain ⟨first, rest, names⟩ := List.exists_cons_of_ne_nil (List.ne_nil_of_mem listed)
  rcases before with rfl | exact
  · have only {name : String} {cell : Cell}
        (found : ((∅ : Positions).insert start.name ⟨0, 0⟩)[name]? = some cell) : draft.Lies name cell := by
      rcases SortedMap.eq_or_of_insert found with ⟨rfl, rfl⟩ | none
      · exact ⟨start, origin, rfl⟩
      · rw [Std.ExtTreeMap.getElem?_empty] at none
        cases none
    refine ⟨_, ?_, fun name cell => charts.grow_iff (fun _ _ => only) fun room also => ?_⟩
    · rw [State.layout, names]
      simp only [Std.ExtTreeMap.isEmpty_empty, if_true, charts.playerRoomIn_eq origin]
      rfl
    · cases origin.symm.trans also
      exact SortedMap.mem_iff.mpr ⟨_, Std.ExtTreeMap.getElem?_insert_self⟩
  · have placed : positions[start.name]? = some ⟨0, 0⟩ := (exact _ _).mpr ⟨start, origin, rfl⟩
    have filled : ¬ positions.isEmpty = true := by
      intro empty
      rw [Std.ExtTreeMap.isEmpty_iff.mp empty, Std.ExtTreeMap.getElem?_empty] at placed
      cases placed
    refine ⟨_, ?_, fun name cell => charts.grow_iff (fun name cell => (exact name cell).mp) fun room also => ?_⟩
    · rw [State.layout, names]
      simp only [filled]
      rfl
    · cases origin.symm.trans also
      exact SortedMap.mem_iff.mpr ⟨_, placed⟩

/-- Every connection is on an exit already. -/
theorem unplaced_eq_nil (charts : Charts draft s) {facts : List Fact} (drawn : ∀ fact ∈ facts, fact ∈ draft.facts) :
    World.unplaced (Exits.ofFacts s.facts.toList) [] facts = [] := by
  refine World.unplaced_eq_nil fun fact member room target joins => ?_
  have joined := charts.sound.joined (drawn fact member) joins
  obtain ⟨cell, -, here, -⟩ := charts.sound.exists_cells joined
  obtain ⟨direction, stated, -⟩ := charts.exists_way joined
  exact SortedMap.any_iff.mpr ⟨direction, _, (charts.leads_iff here).mpr ⟨target, stated, rfl⟩, beq_self_eq_true _⟩

/-- The ways back are all there, so that stating them changes nothing. -/
theorem exists_reversed (charts : Charts draft s) :
    ∃ full, s.addFacts (s.facts.toList.filterMap World.reversed?) = .ok full ∧ Charts draft full := by
  have known (fact : Fact) (made : fact ∈ s.facts.toList.filterMap World.reversed?) : fact ∈ draft.facts := by
    obtain ⟨other, listed, reversed⟩ := List.mem_filterMap.mp made
    exact charts.sound.reversed ((charts.facts other).mp (Std.ExtTreeSet.mem_toList.mp listed)) reversed
  have run : s.addFacts (s.facts.toList.filterMap World.reversed?) =
      .ok (s.insertAll (s.facts.toList.filterMap World.reversed?)) :=
    State.addFacts_eq_ok_iff.mpr ⟨fun fact made => charts.core ▸ charts.sound.stated (known fact made), rfl⟩
  refine ⟨_, run, charts.sound, charts.complete, .addFacts charts.built run, ?_, fun fact => ?_⟩
  · rw [State.insertAll_kb, charts.core]
  · rw [State.mem_insertAll, charts.facts]
    exact ⟨fun either => either.elim (known fact) id, .inr⟩

end Charts

/-- The facts of a draft can be stated, with the opposite of each direction. -/
theorem Sound.exists_mapped (sound : draft.Sound) : ∃ stated mapped,
    draft.world.state.addFacts draft.facts = .ok stated ∧
    stated.addFacts (stated.facts.toList.filterMap World.opposite?) = .ok mapped ∧ Charts draft.completed mapped := by
  have core : draft.world.state.kb = knowledge := by rw [sound.blank]; rfl
  have built : draft.world.state.Built := sound.blank ▸ .empty knowledge
  have first : draft.world.state.addFacts draft.facts = .ok (draft.world.state.insertAll draft.facts) :=
    State.addFacts_eq_ok_iff.mpr ⟨fun fact member => core ▸ sound.stated member, rfl⟩
  generalize same : draft.world.state.insertAll draft.facts = stated at first
  have kb : stated.kb = knowledge := by rw [← same, State.insertAll_kb, core]
  have listed (fact : Fact) : fact ∈ stated.facts.toList ↔ fact ∈ draft.facts := by
    rw [Std.ExtTreeSet.mem_toList, ← same, State.mem_insertAll, sound.blank]
    simp [State.empty]
  have opposites (fact : Fact) : fact ∈ stated.facts.toList.filterMap World.opposite? ↔
      fact ∈ draft.facts.filterMap World.opposite? := by
    simp only [World.mem_opposites, listed]
  have second : stated.addFacts (stated.facts.toList.filterMap World.opposite?) =
      .ok (stated.insertAll (stated.facts.toList.filterMap World.opposite?)) := by
    refine State.addFacts_eq_ok_iff.mpr ⟨fun fact made => kb ▸ sound.completed.stated ?_, rfl⟩
    exact List.mem_append_right _ ((opposites fact).mp made)
  refine ⟨stated, _, first, second, sound.completed, fun _ _ _ => opposite_mem_completed,
    .addFacts (.addFacts built first) second, ?_, fun fact => ?_⟩
  · rw [State.insertAll_kb, kb]
  · rw [State.mem_insertAll, opposites, ← Std.ExtTreeSet.mem_toList, listed, or_comm]
    exact List.mem_append.symm

/-- A world that is as drawn. -/
structure Depicts (draft : Draft) (w : World) : Prop where
  charts : Charts draft w.state
  placed : ∀ (name : String) cell, w.positions[name]? = some cell ↔ draft.Lies name cell

/-- A draft makes a world that is as drawn: no direction is left to be chosen, and the layout agrees. -/
theorem Sound.exists_addFacts (sound : draft.Sound) :
    ∃ w, draft.world.addFacts draft.facts = .ok w ∧ draft.completed.Depicts w := by
  obtain ⟨stated, mapped, first, second, charts⟩ := sound.exists_mapped
  obtain ⟨positions, laid, exact⟩ := charts.exists_layout (.inl rfl)
  have none := charts.unplaced_eq_nil fun fact (member : fact ∈ draft.facts) => List.mem_append_left _ member
  obtain ⟨full, third, whole⟩ := charts.exists_reversed
  obtain ⟨last, again, same⟩ := whole.exists_layout (.inr exact)
  refine ⟨{ draft.world with state := full, positions := last }, ?_, ⟨whole, same⟩⟩
  refine bind_eq_ok_iff.mpr ⟨stated, first, bind_eq_ok_iff.mpr ⟨mapped, second, ?_⟩⟩
  refine bind_eq_ok_iff.mpr ⟨positions, sound.unplaced ▸ laid, ?_⟩
  rw [none]
  refine bind_eq_ok_iff.mpr ⟨(mapped, positions), rfl, bind_eq_ok_iff.mpr ⟨full, third, ?_⟩⟩
  exact bind_eq_ok_iff.mpr ⟨last, again, rfl⟩

namespace Depicts

variable {w : World}

theorem exists_room (depicts : draft.Depicts w) (here : draft.cells[cell]? = some a) :
    ∃ room, w.rooms[a.name]? = some room ∧ room.position = some cell := by
  have known : a.name ∈ w.rooms := World.mem_rooms.mpr (depicts.charts.mem_roomNames.mpr ⟨cell, a, here, rfl⟩)
  obtain ⟨room, found⟩ := SortedMap.mem_iff.mp known
  exact ⟨room, found, (World.position_of_rooms found).trans ((depicts.placed a.name cell).mpr ⟨a, here, rfl⟩)⟩

theorem exists_cell (depicts : draft.Depicts w) {room : Room} (member : room ∈ w.roomList) :
    ∃ (cell : Cell) (a : Entity), draft.cells[cell]? = some a ∧ w.rooms[a.name]? = some room ∧
      room.position = some cell := by
  obtain ⟨name, found⟩ := SortedMap.mem_values.mp member
  obtain ⟨cell, a, here, rfl⟩ := depicts.charts.mem_roomNames.mp (World.rooms_eq_some found).2.2
  obtain ⟨other, also, position⟩ := depicts.exists_room here
  cases found.symm.trans also
  exact ⟨cell, a, here, found, position⟩

theorem length_roomList (depicts : draft.Depicts w) : w.roomList.length = draft.cells.size := by
  have sound := depicts.charts.sound
  have cells : draft.cells.toList.Nodup := by
    refine .of_map Prod.fst ?_
    rw [Std.ExtTreeMap.map_fst_toList_eq_keys]
    exact SortedMap.nodup_keys _
  have different : (draft.cells.toList.map fun entry => entry.2.name).Nodup := by
    refine cells.map_on ?_
    rintro ⟨c, a⟩ inC ⟨d, b⟩ inD same
    have here := Std.ExtTreeMap.mem_toList_iff_getElem?_eq_some.mp inC
    have there := Std.ExtTreeMap.mem_toList_iff_getElem?_eq_some.mp inD
    cases (sound.minted c a here).eq_of_name (sound.minted d b there) same
    rw [sound.apart c d a here there]
  have names : w.rooms.keys.Perm (draft.cells.toList.map fun entry => entry.2.name) := by
    refine (List.perm_ext_iff_of_nodup (SortedMap.nodup_keys _) different).mpr fun name => ?_
    rw [Std.ExtTreeMap.mem_keys, World.mem_rooms, depicts.charts.mem_roomNames]
    simp [Std.ExtTreeMap.mem_toList_iff_getElem?_eq_some]
  calc w.roomList.length = w.rooms.keys.length := by
        rw [World.roomList, SortedMap.values_eq, ← Std.ExtTreeMap.map_fst_toList_eq_keys, List.length_map,
          List.length_map]
    _ = draft.cells.size := by rw [names.length_eq, List.length_map, Std.ExtTreeMap.length_toList]

theorem playerRoom_eq (depicts : draft.Depicts w) {start : Entity}
    (origin : draft.cells[(⟨0, 0⟩ : Cell)]? = some start) : w.playerRoom = w.rooms[start.name]? := by
  have charts := depicts.charts
  obtain ⟨room, also, player, -⟩ := charts.sound.connected
  cases origin.symm.trans also
  have place : w.playerPlace = some start.name := by
    refine World.playerPlace_eq_some rfl ((charts.facts _).mpr player) fun thing other _ holds => ?_
    cases charts.eq_player origin holds rfl
    rfl
  rw [World.playerRoom, place, Option.bind_some]

theorem leads (depicts : draft.Depicts w) (joined : Joined draft.facts a b) {x y : Room}
    (here : w.rooms[a.name]? = some x) (there : w.rooms[b.name]? = some y) : w.Leads x y := by
  obtain ⟨cell, -, drawn, -⟩ := depicts.charts.sound.exists_cells joined
  obtain ⟨direction, stated, -⟩ := depicts.charts.exists_way joined
  refine ⟨SortedMap.mem_values.mpr ⟨_, here⟩, SortedMap.mem_values.mpr ⟨_, there⟩, direction, ?_⟩
  rw [(World.rooms_eq_some here).2.1, (World.rooms_eq_some there).1]
  exact (depicts.charts.leads_iff drawn).mpr ⟨b, stated, rfl⟩

theorem reaches (depicts : draft.Depicts w) (path : Relation.ReflTransGen (Joined draft.facts) a b) {x y : Room}
    (here : w.rooms[a.name]? = some x) (there : w.rooms[b.name]? = some y) : Relation.ReflTransGen w.Leads x y := by
  induction path generalizing y with
  | refl =>
    cases here.symm.trans there
    exact .refl
  | @tail b c _ joined ih =>
    obtain ⟨cell, -, drawn, -⟩ := depicts.charts.sound.exists_cells joined
    obtain ⟨between, found, -⟩ := depicts.exists_room drawn
    exact (ih found).tail (depicts.leads joined found there)

theorem eq_of_position (depicts : draft.Depicts w) {x y : Room} (inX : x ∈ w.roomList) (inY : y ∈ w.roomList)
    (same : x.position = y.position) : x = y := by
  obtain ⟨cell, a, hereX, foundX, positionX⟩ := depicts.exists_cell inX
  obtain ⟨other, b, hereY, foundY, positionY⟩ := depicts.exists_cell inY
  cases positionX.symm.trans (same.trans positionY)
  cases hereX.symm.trans hereY
  exact Option.some.inj (foundX.symm.trans foundY)

/-- An exit leads to the room in the next cell. -/
theorem exists_beside (depicts : draft.Depicts w) {x : Room} (member : x ∈ w.roomList) {direction : Direction}
    {target : String} (leads : x.exits[direction]? = some target) :
    ∃ y ∈ w.roomList, y.id = target ∧ y.position = x.position.map (·.step direction) := by
  obtain ⟨cell, a, here, found, position⟩ := depicts.exists_cell member
  rw [(World.rooms_eq_some found).2.1] at leads
  obtain ⟨b, stated, rfl⟩ := (depicts.charts.leads_iff here).mp leads
  obtain ⟨y, there, beside⟩ := depicts.exists_room (depicts.charts.sound.step here stated)
  refine ⟨y, SortedMap.mem_values.mpr ⟨_, there⟩, (World.rooms_eq_some there).1, ?_⟩
  rw [position, beside]
  rfl

end Depicts

end Draft

/-- A map of any number of rooms comes out whole, whatever is drawn. It passes the check, all of its rooms can be
reached from the player's, and each room has a cell of its own, next to those that its exits lead to. -/
theorem makeMap_whole {count : Nat} (positive : 0 < count) (rng : Rng) : ∃ w start,
    (makeMap Core.knowledge count rng).1 = .ok w ∧ w.roomList.length = count ∧ w.check = .ok () ∧
    w.playerRoom = some start ∧ (∀ room ∈ w.roomList, Relation.ReflTransGen w.Leads start room) ∧
    (∀ room ∈ w.roomList, ∃ cell, room.position = some cell) ∧
    (∀ a ∈ w.roomList, ∀ b ∈ w.roomList, a.position = b.position → a = b) ∧
    ∀ a ∈ w.roomList, ∀ (direction : Direction) target, a.exits[direction]? = some target →
      ∃ b ∈ w.roomList, b.id = target ∧ b.position = a.position.map (·.step direction) := by
  obtain ⟨first, one⟩ := Draft.sound_start
  obtain ⟨sound, size⟩ := first.extendTimes (count - 1) rng
  obtain ⟨w, made, depicts⟩ := sound.exists_addFacts
  obtain ⟨start, origin, -, connected⟩ := depicts.charts.sound.connected
  obtain ⟨startRoom, found, -⟩ := depicts.exists_room origin
  refine ⟨w, startRoom, ?_, ?_, depicts.charts.check, (depicts.playerRoom_eq origin).trans found, ?_, ?_, ?_, ?_⟩
  · rw [makeMap, if_neg (by omega)]
    exact made
  · rw [depicts.length_roomList]
    exact size.trans (by omega)
  · intro room member
    obtain ⟨cell, a, here, also, -⟩ := depicts.exists_cell member
    exact depicts.reaches (connected cell a here) found also
  · intro room member
    obtain ⟨cell, -, -, -, position⟩ := depicts.exists_cell member
    exact ⟨cell, position⟩
  · exact fun x inX y inY => depicts.eq_of_position inX inY
  · exact fun x member direction target => depicts.exists_beside member

theorem makeMap_whole_seven : 0 < 7 ∧ ∃ w start,
    (makeMap Core.knowledge 7 (Rng.ofSeed 42)).1 = .ok w ∧ w.roomList.length = 7 ∧ w.check = .ok () ∧
    w.playerRoom = some start ∧ (∀ room ∈ w.roomList, Relation.ReflTransGen w.Leads start room) ∧
    (∀ room ∈ w.roomList, ∃ cell, room.position = some cell) ∧
    (∀ a ∈ w.roomList, ∀ b ∈ w.roomList, a.position = b.position → a = b) ∧
    ∀ a ∈ w.roomList, ∀ (direction : Direction) target, a.exits[direction]? = some target →
      ∃ b ∈ w.roomList, b.id = target ∧ b.position = a.position.map (·.step direction) :=
  ⟨by decide, makeMap_whole (by decide) (Rng.ofSeed 42)⟩

end Adventure
