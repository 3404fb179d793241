import Adventure.Proofs.Record.Notation
import Adventure.Proofs.Sorted

namespace Adventure

open Readable Keepable

section Fields

variable {ν : Type}

theorem lookup_filter (test : String → Bool) (name : String) (given : List (String × ν)) :
    (given.filter fun field => test field.1).lookup name = if test name then given.lookup name else none := by
  induction given with
  | nil => simp
  | cons field rest ih => grind

theorem defaulted_of_lookup {α : Type} [Readable ν] {fields : List (String × ν)} {name : String} {value : ν}
    {fallback found : α} {read : ν → Option α} (here : fields.lookup name = some value)
    (taken : read value = some found) : defaulted fields name fallback read = some found := by
  rw [defaulted, here]
  exact taken

end Fields

namespace Json

theorem canonicalItems_eq (items : List Json) : canonicalItems items = items.map canonical := by
  induction items with
  | nil => rfl
  | cons item rest ih => rw [canonicalItems, ih, List.map_cons]

theorem canonicalFields_eq (fields : List (String × Json)) :
    canonicalFields fields = fields.map fun field => (field.1, field.2.canonical) := by
  induction fields with
  | nil => rfl
  | cons field rest ih => rw [canonicalFields, ih, List.map_cons]

mutual

theorem canonical_canonical : (value : Json) → value.canonical.canonical = value.canonical
  | .null => rfl
  | .bool _ => rfl
  | .int _ => rfl
  | .float _ => rfl
  | .text _ => rfl
  | .list items => by
    simp only [canonical, canonicalItems_eq, List.map_map]
    exact congrArg list (List.map_congr_left (canonical_items items))
  | .object fields => by
    have fixed : ∀ field ∈ (SortedMap.of (canonicalFields fields)).toList, field.2.canonical = field.2 := by
      rintro ⟨key, value⟩ listed
      have here := Std.ExtTreeMap.mem_toList_iff_getElem?_eq_some.mp listed
      have member := SortedMap.mem_of_eq_some here
      rw [canonicalFields_eq] at member
      obtain ⟨field, given, same⟩ := List.mem_map.mp member
      cases same
      exact canonical_fields fields field given
    have same : (SortedMap.of (canonicalFields fields)).toList.map (fun field => (field.1, field.2.canonical)) =
        (SortedMap.of (canonicalFields fields)).toList :=
      (List.map_congr_left fun field listed => congrArg (Prod.mk field.1) (fixed field listed)).trans (List.map_id _)
    rw [canonical, canonical, canonicalFields_eq (SortedMap.of _).toList, same, SortedMap.of_toList]

theorem canonical_items : (items : List Json) → ∀ item ∈ items, item.canonical.canonical = item.canonical
  | [] => List.forall_mem_nil _
  | item :: rest => List.forall_mem_cons.mpr ⟨canonical_canonical item, canonical_items rest⟩

theorem canonical_fields :
    (fields : List (String × Json)) → ∀ field ∈ fields, field.2.canonical.canonical = field.2.canonical
  | [] => List.forall_mem_nil _
  | (_, value) :: rest => List.forall_mem_cons.mpr ⟨canonical_canonical value, canonical_fields rest⟩

end

/-- What is written in this format is read from it as it stands. -/
theorem conveys : Conveys fun value : Json => value where
  text _ := rfl
  int _ _ := rfl
  flag _ := rfl
  absent := rfl
  someText _ := rfl
  someInt _ := rfl
  list items := congrArg some (List.map_id items).symm
  kind _ _ := rfl
  fields _ fields named different :=
    (known_of_named named different).trans (congrArg some (List.map_id fields).symm)

end Json

section Unknown

variable {ν : Type} [Keepable ν]

/-- The last value given under a key, as it can be kept from `level` records deep. -/
def lastKept (level : Nat) (given : List (String × ν)) (key : String) : Option Json :=
  (given.reverse.lookup key).bind fun value => (keep? level value).map Json.canonical

theorem lookup_of_map_eq {α β : Type} (read : α → Option β) {key : String} {entries : List (String × α)}
    {kept : List (String × β)}
    (all : (entries.map fun entry => (read entry.2).map (entry.1, ·)) = kept.map some) :
    kept.lookup key = (entries.lookup key).bind read := by
  induction entries generalizing kept with
  | nil => cases kept with
    | nil => rfl
    | cons => cases all
  | cons entry rest ih => cases kept with
    | nil => cases all
    | cons first others =>
      obtain ⟨same, later⟩ := List.cons.inj all
      obtain ⟨value, taken, rfl⟩ := Option.map_eq_some_iff.mp same
      rw [List.lookup_cons, List.lookup_cons, ih later]
      split
      · exact taken.symm
      · rfl

/-- A record keeps of the fields given to it those that it does not know, and of each the last. -/
theorem getElem?_extras {level : Nat} {names : List String} {given : List (String × ν)}
    {extras : SortedMap String Json} (kept : extrasOf? level names given = some extras) (key : String) :
    extras[key]? = if key ∈ names then none else lastKept level given key := by
  obtain ⟨entries, all, rfl⟩ := Option.map_eq_some_iff.mp (Option.map_eq_bind.trans kept)
  rw [mapM_eq_some_iff] at all
  -- The entry that counts is the last one of its key, so it is the first from behind.
  have reversed : ((given.reverse.filter fun field => !names.contains field.1).map fun field =>
      ((keep? level field.2).map Json.canonical).map (field.1, ·)) = entries.reverse.map some := by
    simpa [← List.map_reverse, Function.comp_def] using congrArg List.reverse all
  rw [SortedMap.getElem?_of, lookup_of_map_eq (fun value => (keep? level value).map Json.canonical) reversed,
    lookup_filter fun name => !names.contains name]
  by_cases own : key ∈ names <;> simp [own, lastKept]

/-- What a record keeps beside its own fields is what it was given beside them, the last of each name. -/
def Retains (level : Nat) (names : List String) (value : ν) (extras : SortedMap String Json) : Prop :=
  ∃ given, entries? value = some given ∧
    ∀ key, extras[key]? = if key ∈ names then none else lastKept level given key

theorem Retains.apart {level : Nat} {names : List String} {value : ν} {extras : SortedMap String Json}
    (retains : Retains level names value extras) : ∀ key ∈ extras, key ∉ names := by
  intro key member own
  obtain ⟨given, -, kept⟩ := retains
  obtain ⟨_, here⟩ := SortedMap.mem_iff.mp member
  rw [kept, if_pos own] at here
  cases here

theorem Retains.canonical {level : Nat} {names : List String} {value : ν} {extras : SortedMap String Json}
    (retains : Retains level names value extras) : (extras.map fun _ => Json.canonical) = extras := by
  obtain ⟨given, -, kept⟩ := retains
  apply Std.ExtTreeMap.ext_getElem?
  intro key
  rw [Std.ExtTreeMap.getElem?_map, kept, lastKept]
  split
  · rfl
  · simp [Option.map_bind, Function.comp_def, Json.canonical_canonical]

end Unknown

section Written

variable {names : List String} {own : List (String × Json)} {extras : SortedMap String Json}

theorem not_contains_of_apart (apart : ∀ key ∈ extras, key ∉ names) :
    ∀ field ∈ extras.toList, ¬ names.contains field.1 = true := by
  rintro ⟨key, value⟩ listed owned
  have here := Std.ExtTreeMap.mem_toList_iff_getElem?_eq_some.mp listed
  exact apart key (SortedMap.mem_iff.mpr ⟨value, here⟩) (List.contains_iff_mem.mp owned)

/-- The own fields of a record are found again if it keeps none of their names beside them. -/
theorem known_append (named : own.map Prod.fst = names) (different : names.Nodup)
    (apart : ∀ key ∈ extras, key ∉ names) : known names (own ++ extras.toList) = some own := by
  rw [known_eq_some_iff, List.filter_append, List.filter_eq_self.mpr (contains_of_named named),
    List.filter_eq_nil_iff.mpr (not_contains_of_apart apart), List.append_nil, named]
  exact ⟨rfl, different⟩

theorem extrasOf_append (level : Nat) (named : own.map Prod.fst = names) (apart : ∀ key ∈ extras, key ∉ names) :
    extrasOf? level names (own ++ extras.toList) = some (extras.map fun _ => Json.canonical) := by
  have unknown : ((own ++ extras.toList).filter fun field => !names.contains field.1) = extras.toList := by
    have owned : ∀ field ∈ own, ¬ (!names.contains field.1) = true := by simpa using contains_of_named named
    have foreign : ∀ field ∈ extras.toList, (!names.contains field.1) = true := by
      simpa using not_contains_of_apart apart
    rw [List.filter_append, List.filter_eq_nil_iff.mpr owned, List.filter_eq_self.mpr foreign, List.nil_append]
  have kept : extras.toList.mapM (fun field => (keep? level field.2).map fun value => (field.1, value.canonical)) =
      some (extras.map fun _ => Json.canonical).toList := by
    rw [mapM_eq_some_iff, Std.ExtTreeMap.toList_map, List.map_map]
    rfl
  simp only [extrasOf?, unknown, kept, Option.bind_eq_bind, Option.bind_some]
  exact congrArg some (SortedMap.of_toList _)

theorem tableOf_write {α : Type} {read : Json → Option α} {write : α → Json} (back : ∀ x, read (write x) = some x)
    (table : SortedMap String α) :
    tableOf? read (.object (table.toList.map fun entry => (entry.1, write entry.2))) = some table := by
  have entries : (table.toList.map fun entry => (entry.1, write entry.2)).mapM
      (fun entry => (read entry.2).map (entry.1, ·)) = some table.toList :=
    mapM_map_eq_some fun entry _ => congrArg (Option.map (entry.1, ·)) (back entry.2)
  change Option.bind (List.mapM _ _) _ = _
  rw [entries, Option.bind_some, SortedMap.of_toList]
  rfl

end Written

/-- The metadata with the objects that they keep beside their own fields in order. -/
def Metadata.canonical (metadata : Metadata) : Metadata :=
  { metadata with extras := metadata.extras.map fun _ => Json.canonical }

/-- The record with the objects that it keeps beside its own fields in order. -/
def GameRecord.canonical (record : GameRecord) : GameRecord :=
  { record with metadata := record.metadata.canonical, extras := record.extras.map fun _ => Json.canonical }

/-- A record keeps no field under the name of one of its own. -/
structure GameRecord.Apart (record : GameRecord) : Prop where
  extras : ∀ key ∈ record.extras, key ∉ GameRecord.fieldNames
  metadata : ∀ key ∈ record.metadata.extras, key ∉ Metadata.fieldNames

theorem Metadata.read_write {metadata : Metadata} (apart : ∀ key ∈ metadata.extras, key ∉ Metadata.fieldNames) :
    Metadata.read? metadata.write = some metadata.canonical := by
  have entries : entries? metadata.write = some _ := rfl
  have seeds := tableOf_write Json.conveys.word64 metadata.seeds
  have walkthrough := Json.conveys.texts metadata.walkthrough
  rw [Metadata.read?, entries, Option.bind_eq_bind, Option.bind_some, known_append ?named ?different apart,
    extrasOf_append 2 ?named apart, Option.bind_eq_bind, Option.bind_some]
  case named => rfl
  case different => simp [fieldNames]
  refine Option.bind_eq_some_iff.mpr ⟨_, defaulted_of_lookup (by rfl) seeds, ?_⟩
  refine Option.bind_eq_some_iff.mpr ⟨_, defaulted_of_lookup (by rfl) walkthrough, ?_⟩
  refine Option.bind_eq_some_iff.mpr ⟨metadata.objective, rfl, ?_⟩
  refine Option.bind_eq_some_iff.mpr ⟨metadata.uuid, rfl, ?_⟩
  rfl

theorem GameRecord.read_write {record : GameRecord} (apart : record.Apart) :
    GameRecord.read? record.write = some record.canonical := by
  have entries : entries? record.write = some _ := rfl
  have version := Json.conveys.word32 record.version
  have world := Json.conveys.facts record.world
  have infos := tableOf_write Json.conveys.info record.infos
  have quests := Json.conveys.listOf fun quest (_ : quest ∈ record.quests) => Json.conveys.quest quest
  have metadata := Metadata.read_write apart.metadata
  rw [GameRecord.read?, entries, Option.bind_eq_bind, Option.bind_some, known_append ?named ?different apart.extras,
    extrasOf_append 1 ?named apart.extras, Option.bind_eq_bind, Option.bind_some]
  case named => rfl
  case different => simp [fieldNames]
  refine Option.bind_eq_some_iff.mpr ⟨_, defaulted_of_lookup (by rfl) version, ?_⟩
  refine Option.bind_eq_some_iff.mpr ⟨record.kbId, rfl, ?_⟩
  refine Option.bind_eq_some_iff.mpr ⟨_, defaulted_of_lookup (by rfl) world, ?_⟩
  refine Option.bind_eq_some_iff.mpr ⟨_, defaulted_of_lookup (by rfl) infos, ?_⟩
  refine Option.bind_eq_some_iff.mpr ⟨_, defaulted_of_lookup (by rfl) quests, ?_⟩
  refine Option.bind_eq_some_iff.mpr ⟨_, defaulted_of_lookup (by rfl) metadata, ?_⟩
  rfl

section Read

variable {ν : Type} [Keepable ν]

theorem Metadata.retains {value : ν} {metadata : Metadata} (here : Metadata.read? value = some metadata) :
    Retains 2 Metadata.fieldNames value metadata.extras := by
  simp only [Metadata.read?, Option.bind_eq_bind, Option.bind_eq_some_iff] at here
  obtain ⟨given, entries, fields, -, seeds, -, walkthrough, -, objective, -, uuid, -, extras, kept, ⟨⟩⟩ := here
  exact ⟨given, entries, getElem?_extras kept⟩

namespace GameRecord

theorem retains {value : ν} {record : GameRecord} (here : GameRecord.read? value = some record) :
    Retains 1 GameRecord.fieldNames value record.extras ∧
      ∀ given, entries? value = some given →
        defaulted given "metadata" Metadata.empty Metadata.read? = some record.metadata := by
  simp only [GameRecord.read?, Option.bind_eq_bind, Option.bind_eq_some_iff] at here
  obtain ⟨given, entries, fields, own, version, -, kbId, -, world, -, infos, -, quests, -, metadata, described,
    extras, kept, ⟨⟩⟩ := here
  refine ⟨⟨given, entries, getElem?_extras kept⟩, ?_⟩
  intro again same
  cases entries.symm.trans same
  obtain ⟨rfl, -⟩ := known_eq_some_iff.mp own
  rw [defaulted, lookup_filter fun name => GameRecord.fieldNames.contains name] at described
  exact described

theorem retains_metadata {value part : ν} {record : GameRecord} {given : List (String × ν)}
    (here : GameRecord.read? value = some record) (entries : entries? value = some given)
    (described : given.lookup "metadata" = some part) :
    Retains 2 Metadata.fieldNames part record.metadata.extras := by
  have taken := (retains here).2 given entries
  rw [defaulted, described] at taken
  exact Metadata.retains taken

theorem apart_of_read {value : ν} {record : GameRecord} (here : GameRecord.read? value = some record) :
    record.Apart ∧ record.canonical = record := by
  obtain ⟨outer, described⟩ := retains here
  obtain ⟨given, entries, -⟩ := id outer
  have inner : (∀ key ∈ record.metadata.extras, key ∉ Metadata.fieldNames) ∧
      (record.metadata.extras.map fun _ => Json.canonical) = record.metadata.extras := by
    cases part : given.lookup "metadata" with
    | none =>
      have taken := described given entries
      rw [defaulted, part] at taken
      rw [← Option.some.inj taken]
      exact ⟨fun key member => absurd member Std.ExtTreeMap.not_mem_empty, rfl⟩
    | some =>
      have kept := retains_metadata here entries part
      exact ⟨kept.apart, kept.canonical⟩
  refine ⟨⟨outer.apart, inner.1⟩, ?_⟩
  rw [GameRecord.canonical, Metadata.canonical, outer.canonical, inner.2]

theorem Apart.of_canonical {record : GameRecord} (apart : record.canonical.Apart) : record.Apart where
  extras key member := apart.extras key (Std.ExtTreeMap.mem_map.mpr member)
  metadata key member := apart.metadata key (Std.ExtTreeMap.mem_map.mpr member)

end GameRecord

end Read

/-- A written record is read as it was, up to the order inside the objects it keeps, exactly if it keeps none under a
name of its own. Every record that is read is such a record, in order, and is read as it was; it keeps all that it was
given beside its own fields, whatever it is. -/
theorem GameRecord.lossless :
    (∀ record : GameRecord, GameRecord.read? record.write = some record.canonical ↔ record.Apart) ∧
    ∀ (ν : Type) [Keepable ν] (value : ν) (record : GameRecord), GameRecord.read? value = some record →
      record.Apart ∧ record.canonical = record ∧ GameRecord.read? record.write = some record ∧
      Retains 1 GameRecord.fieldNames value record.extras ∧
      ∀ given part, entries? value = some given → given.lookup "metadata" = some part →
        Retains 2 Metadata.fieldNames part record.metadata.extras := by
  constructor
  · intro record
    exact ⟨fun back => (apart_of_read back).1.of_canonical, read_write⟩
  · intro ν _ value record here
    obtain ⟨apart, ordered⟩ := apart_of_read here
    have back := read_write apart
    rw [ordered] at back
    exact ⟨apart, ordered, back, (retains here).1, fun _ _ => retains_metadata here⟩

/-- A game that says more than a record knows, in an order of its own and with fields that are null. -/
def GameRecord.annotated : Json :=
  .object [("theme", .object [("size", .int 4)]), ("kb_id", .text "core"),
    ("theme", .object [("size", .int 5), ("flags", .object [("z", .null), ("a", .null)])]),
    ("metadata", .object [("author", .null), ("uuid", .text "g")])]

theorem GameRecord.lossless_annotated :
    ∃ record : GameRecord, GameRecord.read? GameRecord.annotated = some record ∧
      record.extras["theme"]? = some (.object [("flags", .object [("a", .null), ("z", .null)]), ("size", .int 5)]) ∧
      record.metadata.extras["author"]? = some .null ∧
      record.Apart ∧ GameRecord.read? record.write = some record.canonical ∧
      GameRecord.read? record.write = some record ∧
      Retains 2 Metadata.fieldNames (Json.object [("author", .null), ("uuid", .text "g")]) record.metadata.extras := by
  have here : GameRecord.read? GameRecord.annotated = some ⟨1, "core", [], ∅, [],
      ⟨∅, [], "", "g", SortedMap.of [("author", .null)]⟩,
      SortedMap.of [("theme", .object [("flags", .object [("a", .null), ("z", .null)]), ("size", .int 5)])]⟩ := by
    decide +kernel
  obtain ⟨apart, -, back, -, described⟩ := GameRecord.lossless.2 Json _ _ here
  exact ⟨_, here, by simp [SortedMap.getElem?_of], by simp [SortedMap.getElem?_of], apart,
    (GameRecord.lossless.1 _).mpr apart, back, described _ _ rfl rfl⟩

end Adventure
