import Adventure.Knowledge.Core
import Adventure.Proofs.Logic.Descent
import Adventure.Proofs.World.View
import Adventure.World.Visibility
import Mathlib.Data.List.Perm.Subperm

namespace Adventure.World

/-- A queue is worked off: the things in it are taken from the front, what each of them shows is put at the end, and at
last nothing is left. -/
inductive Drains (things : List Thing) : (queue seen : List Thing) → Prop
  | done : Drains things [] []
  | next {thing : Thing} {queue seen : List Thing} :
      Drains things (queue ++ shownBy things thing) seen → Drains things (thing :: queue) (thing :: seen)

section Drains

variable {things queue seen taken : List Thing} {thing : Thing} {P : Thing → Prop}

theorem Drains.unique {other : List Thing} (drains : Drains things queue seen) (also : Drains things queue other) :
    seen = other := by
  induction drains generalizing other with
  | done =>
    cases also
    rfl
  | next _ ih =>
    cases also with
    | next rest => rw [ih rest]

theorem Drains.subset (drains : Drains things queue seen) : ∀ thing ∈ queue, thing ∈ seen := by
  induction drains with
  | done => exact fun thing member => member
  | next _ ih =>
    refine List.forall_mem_cons.mpr ⟨List.mem_cons_self, fun other member => ?_⟩
    exact List.mem_cons_of_mem _ (ih other (List.mem_append_left _ member))

/-- What is seen shows nothing that is not seen. -/
theorem Drains.closed (drains : Drains things queue seen) :
    ∀ holder ∈ seen, ∀ thing ∈ shownBy things holder, thing ∈ seen := by
  induction drains with
  | done => exact fun _ member => absurd member List.not_mem_nil
  | next rest ih =>
    refine List.forall_mem_cons.mpr ⟨fun other shown => ?_, fun holder member other shown => ?_⟩
    · exact List.mem_cons_of_mem _ (rest.subset other (List.mem_append_right _ shown))
    · exact List.mem_cons_of_mem _ (ih holder member other shown)

/-- What holds of the queue, and of all that a thing shows of which it holds, holds of everything seen. -/
theorem Drains.least (drains : Drains things queue seen) (start : ∀ thing ∈ queue, P thing)
    (step : ∀ holder, P holder → ∀ thing ∈ shownBy things holder, P thing) : ∀ thing ∈ seen, P thing := by
  induction drains with
  | done => exact fun _ member => absurd member List.not_mem_nil
  | next _ ih =>
    obtain ⟨first, others⟩ := List.forall_mem_cons.mp start
    refine List.forall_mem_cons.mpr ⟨first, ih fun thing member => ?_⟩
    exact (List.mem_append.mp member).elim (others thing) (step _ first thing)

theorem mem_shownBy {holder : Thing} : thing ∈ shownBy things holder ↔ thing ∈ things ∧
    (thing.location = .onto holder.id ∨ thing.location = .inside holder.id ∧ holder.has "open" = true) := by
  rw [shownBy, List.mem_filter]
  cases thing.location <;> simp

/-- No thing is shown by two holders of different names: it has one location. -/
theorem id_eq_of_shownBy {holder other : Thing} (shown : thing ∈ shownBy things holder)
    (also : thing ∈ shownBy things other) : holder.id = other.id := by
  obtain ⟨-, first⟩ := mem_shownBy.mp shown
  obtain ⟨-, second⟩ := mem_shownBy.mp also
  rcases first with place | ⟨place, -⟩ <;> rcases second with also | ⟨also, -⟩ <;> simp_all

/-- How a look around a room stands: things that were taken and things in the queue, no two of them the same. Each lies
on the floor, or is shown by one that was taken. -/
structure Looks (things : List Thing) (room : String) (taken queue : List Thing) : Prop where
  different : (taken ++ queue).Nodup
  known : ∀ thing ∈ taken ++ queue, thing ∈ things
  origin : ∀ thing ∈ taken ++ queue, thing.location = .room room ∨ ∃ holder ∈ taken, thing ∈ shownBy things holder

variable {room : String}

/-- Whatever a thing shows is new, since nothing else shows it and the thing was not taken before. -/
theorem Looks.next (looks : Looks things room taken (thing :: queue)) (distinct : (things.map Thing.id).Nodup) :
    Looks things room (taken ++ [thing]) (queue ++ shownBy things thing) := by
  have moved : taken ++ [thing] ++ (queue ++ shownBy things thing) =
      (taken ++ thing :: queue) ++ shownBy things thing := by simp
  have here : thing ∈ things := looks.known thing (List.mem_append_right _ List.mem_cons_self)
  have untaken : thing ∉ taken := fun before =>
    (List.nodup_append.mp looks.different).2.2 thing before thing List.mem_cons_self rfl
  have new : ∀ other ∈ shownBy things thing, other ∉ taken ++ thing :: queue := by
    intro other shown member
    rcases looks.origin other member with place | ⟨holder, before, also⟩
    · rcases (mem_shownBy.mp shown).2 with elsewhere | ⟨elsewhere, -⟩ <;> rw [place] at elsewhere <;> cases elsewhere
    · have same : holder = thing := List.inj_on_of_nodup_map distinct
        (looks.known holder (List.mem_append_left _ before)) here (id_eq_of_shownBy also shown)
      exact untaken (same ▸ before)
  refine ⟨?_, ?_, ?_⟩
  · rw [moved, List.nodup_append]
    refine ⟨looks.different, (List.Nodup.of_map _ distinct).filter _, ?_⟩
    rintro first member second shown rfl
    exact new first shown member
  · rw [moved]
    exact fun other member => (List.mem_append.mp member).elim (looks.known other) fun shown => (mem_shownBy.mp shown).1
  · rw [moved]
    intro other member
    rcases List.mem_append.mp member with old | shown
    · refine (looks.origin other old).imp_right fun ⟨holder, before, shown⟩ => ?_
      exact ⟨holder, List.mem_append_left _ before, shown⟩
    · exact .inr ⟨thing, List.mem_append_right _ (List.mem_singleton_self thing), shown⟩

theorem Looks.length_le (looks : Looks things room taken queue) : taken.length + queue.length ≤ things.length := by
  have few := (looks.different.subperm looks.known).length_le
  rwa [List.length_append] at few

/-- There are enough rounds if there is one for each thing that was not taken yet. -/
theorem Looks.drains (looks : Looks things room taken queue) (distinct : (things.map Thing.id).Nodup) {fuel : Nat}
    (enough : things.length ≤ taken.length + fuel) : Drains things queue (seenFrom things fuel queue) := by
  induction fuel generalizing taken queue with
  | zero =>
    have few := looks.length_le
    cases queue with
    | nil => exact .done
    | cons thing queue =>
      rw [List.length_cons] at few
      omega
  | succ fuel ih =>
    cases queue with
    | nil => exact .done
    | cons thing queue =>
      refine .next (ih (looks.next distinct) ?_)
      rw [List.length_append, List.length_singleton]
      omega

theorem Looks.nodup (looks : Looks things room taken queue) (distinct : (things.map Thing.id).Nodup)
    (drains : Drains things queue seen) : (taken ++ seen).Nodup := by
  induction drains generalizing taken with
  | done => exact looks.different
  | next _ ih =>
    have onward := ih (looks.next distinct)
    rwa [List.append_assoc, List.singleton_append] at onward

end Drains

section Facts

variable {w : World}

theorem nodup_thingIds (w : World) : (w.thingList.map Thing.id).Nodup := by
  have named : w.thingList.map Thing.id = w.things.keys := by
    rw [thingList, SortedMap.values_eq, List.map_map, ← Std.ExtTreeMap.map_fst_toList_eq_keys]
    refine List.map_congr_left fun entry member => ?_
    exact (things_eq_some (Std.ExtTreeMap.mem_toList_iff_getElem?_eq_some.mp member)).1
  rw [named]
  exact SortedMap.nodup_keys _

theorem looks_floor (w : World) (room : String) :
    Looks w.thingList room [] (w.thingList.filter (·.location == .room room)) where
  different := (List.Nodup.of_map _ (nodup_thingIds w)).filter _
  known _ member := List.mem_of_mem_filter member
  origin _ member := .inl (by simpa using List.of_mem_filter member)

theorem drains_visibleIn (w : World) (room : String) :
    Drains w.thingList (w.thingList.filter (·.location == .room room)) (w.visibleIn room) :=
  (looks_floor w room).drains (nodup_thingIds w) (Nat.le_add_left _ _)

/-- Where a fact puts an entity: on the floor of a room, in the inventory, or in or on a holder. -/
theorem placement?_eq_some_iff {fact : Fact} {name : String} {location : Location} :
    placement? fact = some (name, location) ↔ ∃ e place, e.name = name ∧
      (fact = ⟨"at", [e, place]⟩ ∧ e.type ≠ "P" ∧ location = .room place.name ∨
        fact = ⟨"in", [e, place]⟩ ∧ location = (if place.type = "I" then .inventory else .inside place.name) ∨
        fact = ⟨"on", [e, place]⟩ ∧ location = .onto place.name) := by
  obtain ⟨predicate, arguments⟩ := fact
  constructor
  · intro put
    rw [placement?] at put
    split at put
    next e place pair =>
      dsimp only at pair
      subst pair
      split at put
      next named =>
        dsimp only at named
        subst named
        obtain ⟨kind, same⟩ := Option.ite_none_left_eq_some.mp put
        cases same
        exact ⟨e, place, rfl, .inl ⟨rfl, kind, rfl⟩⟩
      next named =>
        dsimp only at named
        subst named
        cases put
        exact ⟨e, place, rfl, .inr (.inl ⟨rfl, rfl⟩)⟩
      next named =>
        dsimp only at named
        subst named
        cases put
        exact ⟨e, place, rfl, .inr (.inr ⟨rfl, rfl⟩)⟩
      next => cases put
    next => cases put
  · rintro ⟨e, place, rfl, ⟨same, kind, rfl⟩ | ⟨same, rfl⟩ | ⟨same, rfl⟩⟩ <;> cases same
    · exact if_neg kind
    · rfl
    · rfl

theorem places_of_placement? {fact : Fact} {name : String} {location : Location}
    (put : placement? fact = some (name, location)) : ∃ e, e.name = name ∧ Places fact e := by
  obtain ⟨e, place, named, ⟨rfl, -⟩ | ⟨rfl, -⟩ | ⟨rfl, -⟩⟩ := placement?_eq_some_iff.mp put <;>
    exact ⟨e, named, rfl, rfl⟩

theorem location_of_things {name : String} {thing : Thing} (here : w.things[name]? = some thing) :
    thing.location = w.locations.getD name .nowhere := by
  obtain ⟨entity, -, same⟩ := List.mem_map.mp (SortedMap.mem_of_eq_some here)
  cases same
  rfl

/-- Names tell entities apart, and of no thing do two facts say where it is. -/
structure Unambiguous (w : World) : Prop where
  named : ∀ a ∈ w.state.entities, ∀ b ∈ w.state.entities, a.name = b.name → a = b
  placed : ∀ e ∈ w.state.entities, w.isThing e = true → ∀ f ∈ w.state.facts, ∀ g ∈ w.state.facts,
    Places f e → Places g e → f = g

/-- An entity is in sight in a room if it lies there, on something in sight, or in something open in sight. -/
inductive InSight (w : World) (room : String) : Entity → Prop
  | floor {e place : Entity} : w.isThing e = true → place.name = room → ⟨"at", [e, place]⟩ ∈ w.state.facts →
      InSight w room e
  | onto {e holder : Entity} : w.isThing e = true → InSight w room holder → ⟨"on", [e, holder]⟩ ∈ w.state.facts →
      InSight w room e
  | inside {e holder : Entity} : w.isThing e = true → InSight w room holder → ⟨"in", [e, holder]⟩ ∈ w.state.facts →
      ⟨"open", [holder]⟩ ∈ w.state.facts → InSight w room e

variable {room : String} {thing : Thing} {e holder : Entity}

theorem InSight.iff : InSight w room e ↔ w.isThing e = true ∧
    ((∃ place : Entity, place.name = room ∧ ⟨"at", [e, place]⟩ ∈ w.state.facts) ∨
      ∃ holder, InSight w room holder ∧ (⟨"on", [e, holder]⟩ ∈ w.state.facts ∨
        ⟨"in", [e, holder]⟩ ∈ w.state.facts ∧ ⟨"open", [holder]⟩ ∈ w.state.facts)) := by
  constructor
  · intro sight
    cases sight with
    | floor kind named holds => exact ⟨kind, .inl ⟨_, named, holds⟩⟩
    | onto kind seen holds => exact ⟨kind, .inr ⟨_, seen, .inl holds⟩⟩
    | inside kind seen holds opened => exact ⟨kind, .inr ⟨_, seen, .inr ⟨holds, opened⟩⟩⟩
  · rintro ⟨kind, ⟨place, named, holds⟩ | ⟨holder, seen, holds | ⟨holds, opened⟩⟩⟩
    · exact .floor kind named holds
    · exact .onto kind seen holds
    · exact .inside kind seen holds opened

theorem type_ne_of_isThing (kind : w.isThing e = true) : e.type ≠ "P" ∧ e.type ≠ "I" := by
  constructor <;> intro same <;> simp [World.isThing, descends, same, TypeHierarchy.descends_refl] at kind

section Unambiguous

variable (built : w.state.Built) (clear : Unambiguous w) (listed : thing ∈ w.thingList)

include built in
theorem mem_entities_of_mem {fact : Fact} (holds : fact ∈ w.state.facts) (mentioned : e ∈ fact.arguments) :
    e ∈ w.state.entities :=
  built.indexed.mem_entities.mpr ⟨fact, holds, mentioned⟩

include built clear listed in
/-- A thing is where the one fact about its place puts it. -/
theorem location_eq_iff {location : Location} (somewhere : location ≠ .nowhere) :
    thing.location = location ↔ ∃ fact ∈ w.state.facts, placement? fact = some (thing.id, location) := by
  obtain ⟨name, here⟩ := SortedMap.mem_values.mp listed
  obtain ⟨rfl, known, kind, -⟩ := things_eq_some here
  have stated {fact : Fact} {found : Location} (holds : fact ∈ w.state.facts)
      (put : placement? fact = some (thing.id, found)) : Places fact thing.entity := by
    obtain ⟨e, named, places⟩ := places_of_placement? put
    have also := mem_entities_of_mem built holds (List.mem_of_mem_head? places.2)
    exact clear.named e also thing.entity known named ▸ places
  have entered {found : Location} (put : w.locations[thing.id]? = some found) :
      ∃ fact ∈ w.state.facts, placement? fact = some (thing.id, found) := by
    obtain ⟨fact, holds, put⟩ := List.mem_filterMap.mp (SortedMap.mem_of_eq_some put)
    exact ⟨fact, Std.ExtTreeSet.mem_toList.mp holds, put⟩
  rw [location_of_things here, Std.ExtTreeMap.getD_eq_getD_getElem?]
  constructor
  · intro found
    cases put : w.locations[thing.id]? with
    | none => exact absurd (by simpa [put] using found.symm) somewhere
    | some other =>
      rw [put, Option.getD_some] at found
      exact entered (found ▸ put)
  · rintro ⟨fact, holds, put⟩
    have present : thing.id ∈ w.locations := by
      refine SortedMap.mem_of.mpr (List.mem_map.mpr ⟨(thing.id, location), ?_, rfl⟩)
      exact List.mem_filterMap.mpr ⟨fact, Std.ExtTreeSet.mem_toList.mpr holds, put⟩
    obtain ⟨found, final⟩ := SortedMap.mem_iff.mp present
    obtain ⟨other, also, last⟩ := entered final
    cases clear.placed _ known kind _ holds _ also (stated holds put) (stated also last)
    rw [final, Option.getD_some]
    exact (Prod.mk.inj (Option.some.inj (last.symm.trans put))).2

include built clear listed in
theorem location_eq_iff_stated {location : Location} (somewhere : location ≠ .nowhere) :
    thing.location = location ↔ ∃ place : Entity,
      (⟨"at", [thing.entity, place]⟩ ∈ w.state.facts ∧ location = .room place.name) ∨
      (⟨"in", [thing.entity, place]⟩ ∈ w.state.facts ∧
        location = if place.type = "I" then .inventory else .inside place.name) ∨
      (⟨"on", [thing.entity, place]⟩ ∈ w.state.facts ∧ location = .onto place.name) := by
  obtain ⟨name, here⟩ := SortedMap.mem_values.mp listed
  obtain ⟨-, known, kind, -⟩ := things_eq_some here
  have same {predicate : String} {e place : Entity} (holds : ⟨predicate, [e, place]⟩ ∈ w.state.facts)
      (named : e.name = thing.id) : ⟨predicate, [thing.entity, place]⟩ ∈ w.state.facts :=
    clear.named e (mem_entities_of_mem built holds List.mem_cons_self) thing.entity known named ▸ holds
  rw [location_eq_iff built clear listed somewhere]
  simp only [placement?_eq_some_iff]
  constructor
  · rintro ⟨fact, holds, e, place, named, ⟨rfl, -, put⟩ | ⟨rfl, put⟩ | ⟨rfl, put⟩⟩
    · exact ⟨place, .inl ⟨same holds named, put⟩⟩
    · exact ⟨place, .inr (.inl ⟨same holds named, put⟩)⟩
    · exact ⟨place, .inr (.inr ⟨same holds named, put⟩)⟩
  · rintro ⟨place, ⟨holds, put⟩ | ⟨holds, put⟩ | ⟨holds, put⟩⟩
    · exact ⟨_, holds, thing.entity, place, rfl, .inl ⟨rfl, (type_ne_of_isThing kind).1, put⟩⟩
    · exact ⟨_, holds, thing.entity, place, rfl, .inr (.inl ⟨rfl, put⟩)⟩
    · exact ⟨_, holds, thing.entity, place, rfl, .inr (.inr ⟨rfl, put⟩)⟩

include built clear listed in
theorem location_eq_room_iff : thing.location = .room room ↔
    ∃ place : Entity, place.name = room ∧ ⟨"at", [thing.entity, place]⟩ ∈ w.state.facts := by
  rw [location_eq_iff_stated built clear listed (by simp)]
  grind

include built clear listed in
theorem location_eq_onto_iff {name : String} : thing.location = .onto name ↔
    ∃ holder : Entity, holder.name = name ∧ ⟨"on", [thing.entity, holder]⟩ ∈ w.state.facts := by
  rw [location_eq_iff_stated built clear listed (by simp)]
  grind

include built clear listed in
theorem location_eq_inside_iff {name : String} : thing.location = .inside name ↔ ∃ holder : Entity,
    holder.name = name ∧ holder.type ≠ "I" ∧ ⟨"in", [thing.entity, holder]⟩ ∈ w.state.facts := by
  rw [location_eq_iff_stated built clear listed (by simp)]
  grind

include built clear listed in
theorem has_open_iff : thing.has "open" = true ↔ ⟨"open", [thing.entity]⟩ ∈ w.state.facts := by
  obtain ⟨name, here⟩ := SortedMap.mem_values.mp listed
  obtain ⟨named, known, -, properties⟩ := things_eq_some here
  rw [Thing.has, properties, Std.ExtTreeSet.contains_iff_mem, mem_properties]
  constructor
  · rintro ⟨e, holds, rfl⟩
    exact clear.named e (mem_entities_of_mem built holds List.mem_cons_self) thing.entity known named.symm ▸ holds
  · exact fun holds => ⟨thing.entity, holds, named⟩

include built clear in
theorem exists_thing {fact : Fact} (holds : fact ∈ w.state.facts) (mentioned : e ∈ fact.arguments)
    (kind : w.isThing e = true) : ∃ thing ∈ w.thingList, thing.entity = e := by
  have known := mem_entities_of_mem built holds mentioned
  exact exists_mem_thingList known kind fun other also _ named => clear.named other also e known named

include built clear in
/-- One thing shows another exactly if a fact puts it there. -/
theorem mem_shownBy_iff (listed : thing ∈ w.thingList) {holder : Thing} (also : holder ∈ w.thingList) :
    thing ∈ shownBy w.thingList holder ↔ ⟨"on", [thing.entity, holder.entity]⟩ ∈ w.state.facts ∨
      ⟨"in", [thing.entity, holder.entity]⟩ ∈ w.state.facts ∧ ⟨"open", [holder.entity]⟩ ∈ w.state.facts := by
  obtain ⟨name, here⟩ := SortedMap.mem_values.mp also
  obtain ⟨-, known, kind, -⟩ := things_eq_some here
  have same {predicate : String} {e place : Entity} (holds : ⟨predicate, [e, place]⟩ ∈ w.state.facts)
      (named : place.name = holder.id) : ⟨predicate, [e, holder.entity]⟩ ∈ w.state.facts :=
    clear.named place (mem_entities_of_mem built holds (by simp)) holder.entity known named ▸ holds
  rw [mem_shownBy, and_iff_right listed, location_eq_onto_iff built clear listed,
    location_eq_inside_iff built clear listed, has_open_iff built clear also]
  refine or_congr ⟨fun ⟨place, named, holds⟩ => same holds named, fun holds => ⟨holder.entity, rfl, holds⟩⟩ ?_
  refine and_congr_left fun _ => ⟨fun ⟨place, named, _, holds⟩ => same holds named, fun holds => ?_⟩
  exact ⟨holder.entity, rfl, (type_ne_of_isThing kind).2, holds⟩

theorem mem_thingList_of_mem_visibleIn (seen : thing ∈ w.visibleIn room) : thing ∈ w.thingList :=
  (drains_visibleIn w room).least (P := (· ∈ w.thingList)) (fun _ member => List.mem_of_mem_filter member)
    (fun _ _ _ shown => (mem_shownBy.mp shown).1) thing seen

include built clear in
theorem inSight_of_mem_visibleIn (seen : thing ∈ w.visibleIn room) : InSight w room thing.entity := by
  have kind {thing : Thing} (listed : thing ∈ w.thingList) : w.isThing thing.entity = true := by
    obtain ⟨name, here⟩ := SortedMap.mem_values.mp listed
    exact (things_eq_some here).2.2.1
  -- Things in the queue are listed, so that their locations can be read off the facts.
  refine ((drains_visibleIn w room).least (P := fun thing => thing ∈ w.thingList ∧ InSight w room thing.entity)
    (fun thing member => ?_) (fun holder ⟨also, sight⟩ thing shown => ?_) thing seen).2
  · obtain ⟨listed, lies⟩ := List.mem_filter.mp member
    obtain ⟨place, named, holds⟩ := (location_eq_room_iff built clear listed).mp (by simpa using lies)
    exact ⟨listed, .floor (kind listed) named holds⟩
  · have listed := (mem_shownBy.mp shown).1
    refine ⟨listed, ?_⟩
    rcases (mem_shownBy_iff built clear listed also).mp shown with holds | ⟨holds, opened⟩
    · exact .onto (kind listed) sight holds
    · exact .inside (kind listed) sight holds opened

include built clear in
theorem InSight.exists_mem_visibleIn (sight : InSight w room e) : ∃ thing ∈ w.visibleIn room, thing.entity = e := by
  have drains := drains_visibleIn w room
  induction sight with
  | floor kind named holds =>
    obtain ⟨thing, listed, rfl⟩ := exists_thing built clear holds List.mem_cons_self kind
    refine ⟨thing, drains.subset thing (List.mem_filter.mpr ⟨listed, ?_⟩), rfl⟩
    simpa using (location_eq_room_iff built clear listed).mpr ⟨_, named, holds⟩
  | onto kind _ holds ih =>
    obtain ⟨thing, listed, rfl⟩ := exists_thing built clear holds List.mem_cons_self kind
    obtain ⟨holder, seen, rfl⟩ := ih
    refine ⟨thing, drains.closed holder seen thing ?_, rfl⟩
    exact (mem_shownBy_iff built clear listed (mem_thingList_of_mem_visibleIn seen)).mpr (.inl holds)
  | inside kind _ holds opened ih =>
    obtain ⟨thing, listed, rfl⟩ := exists_thing built clear holds List.mem_cons_self kind
    obtain ⟨holder, seen, rfl⟩ := ih
    refine ⟨thing, drains.closed holder seen thing ?_, rfl⟩
    exact (mem_shownBy_iff built clear listed (mem_thingList_of_mem_visibleIn seen)).mpr (.inr ⟨holds, opened⟩)

include built clear in
theorem mem_visibleIn_iff : e ∈ (w.visibleIn room).map Thing.entity ↔ InSight w room e := by
  rw [List.mem_map]
  refine ⟨?_, fun sight => sight.exists_mem_visibleIn built clear⟩
  rintro ⟨thing, seen, rfl⟩
  exact inSight_of_mem_visibleIn built clear seen

end Unambiguous

end Facts

/-- In every world a look around a room comes to an end, with a list in which no entity is twice. If names tell entities
apart and of no thing two facts say where it is, the list has exactly what is in sight: the things on the floor, on
things in the list, and in open things in the list. Such a look can be taken in every state in which to be at a place is
said of two entities only. -/
theorem visibleIn_exact :
    (∀ (w : World) (room : String),
      (∀ seen, Drains w.thingList (w.thingList.filter (·.location == .room room)) seen ↔ seen = w.visibleIn room) ∧
      ((w.visibleIn room).map Thing.entity).Nodup ∧
      (w.state.Built → Unambiguous w → ∀ e : Entity,
        (e ∈ (w.visibleIn room).map Thing.entity ↔ InSight w room e) ∧
        (e ∈ (w.visibleIn room).map Thing.entity ↔ w.isThing e = true ∧
          ((∃ place : Entity, place.name = room ∧ ⟨"at", [e, place]⟩ ∈ w.state.facts) ∨
            ∃ holder ∈ (w.visibleIn room).map Thing.entity, ⟨"on", [e, holder]⟩ ∈ w.state.facts ∨
              ⟨"in", [e, holder]⟩ ∈ w.state.facts ∧ ⟨"open", [holder]⟩ ∈ w.state.facts)))) ∧
    ∀ s : State, s.Built → (∀ signature ∈ s.kb.signatures, signature.predicate = "at" → signature.types.length = 2) →
      ∃ w, World.ofState s = .ok w ∧ w.state = s := by
  refine ⟨fun w room => ⟨fun seen => ?_, ?_, fun built clear => ?_⟩, fun s built binary => ?_⟩
  · have drains := drains_visibleIn w room
    exact ⟨fun also => also.unique drains, fun same => same ▸ drains⟩
  · have different := (looks_floor w room).nodup (nodup_thingIds w) (drains_visibleIn w room)
    refine different.map_on fun a first b second same => ?_
    exact List.inj_on_of_nodup_map (nodup_thingIds w) (mem_thingList_of_mem_visibleIn first)
      (mem_thingList_of_mem_visibleIn second) (congrArg Entity.name same)
  · refine fun e => ⟨mem_visibleIn_iff built clear, ?_⟩
    simp only [mem_visibleIn_iff built clear]
    exact InSight.iff
  · have long : ∀ fact ∈ s.factsNamed "at", 2 ≤ fact.arguments.length := by
      intro fact member
      obtain ⟨holds, named⟩ := built.indexed.mem_factsNamed.mp member
      obtain ⟨-, signature, declared, about, length, -⟩ := KnowledgeBase.checkFact_eq_ok_iff.mp (built.checked holds)
      exact Nat.le_of_eq ((binary signature declared (about.trans named)).symm.trans length)
    obtain ⟨w, made⟩ := exists_ofState long
    exact ⟨w, made, ofState_state made⟩

/-- The core world in which anything can be in or on anything. -/
def nestingKnowledge : KnowledgeBase :=
  { Core.knowledge with
    signatures := [⟨"at", ["t", "r"]⟩, ⟨"in", ["t", "t"]⟩, ⟨"on", ["t", "t"]⟩, ⟨"open", ["t"]⟩] }

/-- A coin in an open chest on a table, and a crate and a barrel in each other. -/
def nestingFacts : List Fact :=
  [⟨"at", [⟨"table", "s"⟩, ⟨"kitchen", "r"⟩]⟩, ⟨"on", [⟨"chest", "c"⟩, ⟨"table", "s"⟩]⟩, ⟨"open", [⟨"chest", "c"⟩]⟩,
    ⟨"in", [⟨"coin", "o"⟩, ⟨"chest", "c"⟩]⟩, ⟨"in", [⟨"crate", "c"⟩, ⟨"barrel", "c"⟩]⟩,
    ⟨"in", [⟨"barrel", "c"⟩, ⟨"crate", "c"⟩]⟩, ⟨"open", [⟨"crate", "c"⟩]⟩, ⟨"open", [⟨"barrel", "c"⟩]⟩]

def nesting : State := (State.empty nestingKnowledge).insertAll nestingFacts

theorem visibleIn_exact_nesting : nesting.Built ∧ ∃ w, World.ofState nesting = .ok w ∧ Unambiguous w ∧
    ((w.visibleIn "kitchen").map Thing.entity) = [⟨"table", "s"⟩, ⟨"chest", "c"⟩, ⟨"coin", "o"⟩] ∧
    InSight w "kitchen" ⟨"coin", "o"⟩ ∧ ¬ InSight w "kitchen" ⟨"crate", "c"⟩ := by
  have built : nesting.Built :=
    .addFacts (.empty nestingKnowledge) (rfl : (State.empty nestingKnowledge).addFacts nestingFacts = .ok nesting)
  have stated (fact : Fact) (holds : fact ∈ nesting.facts) : fact ∈ nestingFacts := by
    simpa [nesting, State.mem_insertAll, State.empty] using holds
  have single : ∀ f ∈ nestingFacts, ∀ g ∈ nestingFacts, placePredicates.contains f.predicate = true →
      placePredicates.contains g.predicate = true → f.arguments.head? = g.arguments.head? → f = g := by decide
  obtain ⟨every, views⟩ := visibleIn_exact
  obtain ⟨w, made, same⟩ := views nesting built (by decide)
  have clear : Unambiguous w := by
    refine ⟨?_, ?_⟩
    · rw [same]
      decide
    · rw [same]
      intro e _ _ f first g second putsF putsG
      exact single f (stated f first) g (stated g second) putsF.1 putsG.1 (putsF.2.trans putsG.2.symm)
  have seen : (w.visibleIn "kitchen").map Thing.entity = [⟨"table", "s"⟩, ⟨"chest", "c"⟩, ⟨"coin", "o"⟩] := by
    have looked : (do return ((← World.ofState nesting).visibleIn "kitchen").map Thing.entity) =
        (.ok [⟨"table", "s"⟩, ⟨"chest", "c"⟩, ⟨"coin", "o"⟩] : Except Error (List Entity)) := by decide
    rw [made] at looked
    exact Except.ok.inj looked
  have listed (e : Entity) := ((every w "kitchen").2.2 (same ▸ built) clear e).1
  rw [seen] at listed
  exact ⟨built, w, made, clear, seen, (listed _).mp (by decide), fun sight => absurd ((listed _).mpr sight) (by decide)⟩

end Adventure.World
