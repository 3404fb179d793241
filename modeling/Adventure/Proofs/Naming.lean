import Adventure.Naming
import Adventure.Proofs.Logic.Minting
import Adventure.Proofs.Random.Choice

namespace Adventure.Naming

variable {stock : List String} {used : SortedSet String} {tries : Nat} {rng last : Rng} {given : Title}

/-- What follows a step runs on the titles and the generator which the step leaves. -/
theorem run_bind {α β : Type} (m : Naming α) (k : α → Naming β) (used : SortedSet String) (rng : Rng) :
    (m >>= k).run used rng = (k (m.run used rng).1.1).run (m.run used rng).1.2 (m.run used rng).2 :=
  rfl

/-- Every type has a noun. -/
theorem nouns_ne_nil (kb : KnowledgeBase) (type : String) : nouns kb type ≠ [] := by
  rw [nouns]
  split
  next found =>
    rintro rfl
    exact absurd (List.find?_some found) (by decide)
  next => exact List.cons_ne_nil _ _

/-- Titles are drawn while there are tries left, up to the first that is not in use. After that the first noun in stock
is counted from two on. -/
inductive Gives (stock : List String) (used : SortedSet String) : Nat → Rng → Title → Rng → Prop
  | drawn {tries : Nat} {rng : Rng} (unused : (draw stock rng).1.text ∉ used) :
      Gives stock used (tries + 1) rng (draw stock rng).1 (draw stock rng).2
  | again {tries : Nat} {rng last : Rng} {given : Title} (met : (draw stock rng).1.text ∈ used)
      (rest : Gives stock used tries (draw stock rng).2 given last) : Gives stock used (tries + 1) rng given last
  | counted {rng : Rng} {number : Nat}
      (counts : CountsTo (fun n => (numbered (stock.headD "") n).text ∈ used) 2 number) :
      Gives stock used 0 rng (numbered (stock.headD "") number) rng

theorem Gives.unused (gives : Gives stock used tries rng given last) : given.text ∉ used := by
  induction gives with
  | drawn unused => exact unused
  | again _ _ ih => exact ih
  | counted counts => exact counts.not_taken

/-- A title made of an adjective and one of the nouns in stock, or of one of these nouns and a number. -/
def Titled (stock : List String) (given : Title) : Prop :=
  ∃ noun ∈ stock, (∃ adjective ∈ adjectives, given = ⟨adjective, noun⟩) ∨ ∃ number, given = numbered noun number

theorem titled_draw (some : stock ≠ []) (rng : Rng) : Titled stock (draw stock rng).1 := by
  obtain ⟨noun, listed, chosen⟩ := Random.exists_choose some rng
  obtain ⟨adjective, among, drawn⟩ :=
    Random.exists_choose (by decide : adjectives ≠ []) (Random.choose stock rng).2
  refine ⟨noun, listed, .inl ⟨adjective, among, ?_⟩⟩
  rw [draw, Random.bind_eq, chosen, Random.bind_eq, drawn]
  rfl

theorem Gives.titled (some : stock ≠ []) (gives : Gives stock used tries rng given last) : Titled stock given := by
  induction gives with
  | drawn _ => exact titled_draw some _
  | again _ _ ih => exact ih
  | counted _ =>
    obtain ⟨noun, rest, rfl⟩ := List.exists_cons_of_ne_nil some
    exact ⟨noun, List.mem_cons_self, .inr ⟨_, rfl⟩⟩

theorem text_numbered_injective (noun : String) (a b : Nat) (same : (numbered noun a).text = (numbered noun b).text) :
    a = b := by
  have after := (String.append_right_inj _).mp same
  exact Nat.repr_injective ((String.append_right_inj _).mp after)

/-- There are more numbers to try than titles in use. -/
theorem unusedNumber_counts (used : SortedSet String) (noun : String) (number : Nat) :
    CountsTo (fun n => (numbered noun n).text ∈ used) number (unusedNumber used noun used.size number) := by
  obtain ⟨k, near, unused⟩ := CountsTo.exists_unused (text_numbered_injective noun) used.toList number
  rw [Std.ExtTreeSet.length_toList] at near
  rw [Std.ExtTreeSet.mem_toList] at unused
  exact .of_bounded (fun _ => Std.ExtTreeSet.contains_iff_mem) (fun _ => rfl) (fun _ _ => rfl) near unused

theorem drawUnused_run (stock : List String) (tries : Nat) (used : SortedSet String) (rng : Rng) :
    (drawUnused stock (tries + 1)).run used rng =
      if used.contains (draw stock rng).1.text then (drawUnused stock tries).run used (draw stock rng).2
      else ((some (draw stock rng).1, used.insert (draw stock rng).1.text), (draw stock rng).2) := by
  have step : (drawUnused stock (tries + 1)).run used rng =
      (if used.contains (draw stock rng).1.text then drawUnused stock tries
        else do
          modify (·.insert (draw stock rng).1.text)
          return some (draw stock rng).1 : Naming _).run used (draw stock rng).2 := rfl
  rw [step]
  split <;> rfl

/-- Draws give a title that is not in use and take it into use, or leave what is in use as it is and all to counting. -/
theorem drawUnused_cases (stock : List String) (used : SortedSet String) (tries : Nat) (rng : Rng) :
    (∃ given last, (drawUnused stock tries).run used rng = ((some given, used.insert given.text), last) ∧
      Gives stock used tries rng given last) ∨
    ∃ last, (drawUnused stock tries).run used rng = ((none, used), last) ∧
      ∀ given, Gives stock used 0 last given last → Gives stock used tries rng given last := by
  induction tries generalizing rng with
  | zero => exact .inr ⟨rng, rfl, fun _ => id⟩
  | succ tries ih =>
    rw [drawUnused_run]
    split
    next met =>
      rw [Std.ExtTreeSet.contains_iff_mem] at met
      rcases ih (draw stock rng).2 with ⟨given, last, run, gives⟩ | ⟨last, run, gives⟩
      · exact .inl ⟨given, last, run, .again met gives⟩
      · exact .inr ⟨last, run, fun given counted => .again met (gives given counted)⟩
    next unmet =>
      rw [Std.ExtTreeSet.contains_iff_mem] at unmet
      exact .inl ⟨_, _, rfl, .drawn unmet⟩

/-- A title is given, which is in use from then on. -/
theorem title_run (stock : List String) (used : SortedSet String) (rng : Rng) : ∃ given last,
    (title stock).run used rng = ((given, used.insert given.text), last) ∧ Gives stock used 32 rng given last := by
  rw [title, run_bind]
  rcases drawUnused_cases stock used 32 rng with ⟨given, last, run, gives⟩ | ⟨last, run, gives⟩
  · rw [run]
    exact ⟨given, last, rfl, gives⟩
  · rw [run]
    exact ⟨_, last, rfl, gives _ (.counted (unusedNumber_counts used _ 2))⟩

theorem describe_run (kb : KnowledgeBase) (e : Entity) (used : SortedSet String) (rng : Rng) : ∃ info given last,
    (describe kb e).run used rng = ((info, used.insert given.text), last) ∧
    Gives (nouns kb e.type) used 32 rng given last ∧ info.id = e.name ∧ info.name = some given.text := by
  obtain ⟨given, last, run, gives⟩ := title_run (nouns kb e.type) used rng
  rw [describe, run_bind, run]
  exact ⟨_, given, last, rfl, gives, rfl, rfl⟩

/-- Describe entities in turn, each over a knowledge base of its own. -/
def describeAll (calls : List (KnowledgeBase × Entity)) : Naming (List EntityInfo) :=
  calls.mapM fun call => describe call.1 call.2

/-- Entities are described in turn, each by the title that its turn gives, which is in use from then on. -/
inductive Tells : SortedSet String → Rng → List (KnowledgeBase × Entity) → List EntityInfo → Prop
  | nil {used : SortedSet String} {rng : Rng} : Tells used rng [] []
  | cons {used : SortedSet String} {rng last : Rng} {kb : KnowledgeBase} {e : Entity} {given : Title}
      {info : EntityInfo} {calls : List (KnowledgeBase × Entity)} {infos : List EntityInfo}
      (gives : Gives (nouns kb e.type) used 32 rng given last) (id : info.id = e.name)
      (name : info.name = some given.text) (rest : Tells (used.insert given.text) last calls infos) :
      Tells used rng ((kb, e) :: calls) (info :: infos)

variable {calls : List (KnowledgeBase × Entity)} {infos : List EntityInfo}

theorem tells_describeAll (calls : List (KnowledgeBase × Entity)) (used : SortedSet String) (rng : Rng) :
    Tells used rng calls ((describeAll calls).run used rng).1.1 := by
  induction calls generalizing used rng with
  | nil => exact .nil
  | cons call calls ih =>
    obtain ⟨info, given, last, run, gives, id, name⟩ := describe_run call.1 call.2 used rng
    rw [describeAll, List.mapM_cons, run_bind, run]
    exact .cons gives id name (ih _ _)

namespace Tells

theorem titled (tells : Tells used rng calls infos) : List.Forall₂ (fun call info => info.id = call.2.name ∧
    ∃ given, info.name = some given.text ∧ Titled (nouns call.1 call.2.type) given) calls infos := by
  induction tells with
  | nil => exact .nil
  | cons gives id name _ ih => exact .cons ⟨id, _, name, gives.titled (nouns_ne_nil _ _)⟩ ih

theorem ids (tells : Tells used rng calls infos) : infos.map EntityInfo.id = calls.map fun call => call.2.name := by
  induction tells with
  | nil => rfl
  | cons _ id _ _ ih => rw [List.map_cons, List.map_cons, id, ih]

theorem told (tells : Tells used rng calls infos) : ∀ call ∈ calls, ∃ info ∈ infos, info.id = call.2.name ∧
    ∃ given, info.name = some given.text ∧ Titled (nouns call.1 call.2.type) given := by
  have each := tells.titled
  clear tells
  induction each with
  | nil => simp
  | cons here _ ih =>
    refine List.forall_mem_cons.mpr ⟨⟨_, List.mem_cons_self, here⟩, fun call member => ?_⟩
    obtain ⟨info, listed, there⟩ := ih call member
    exact ⟨info, List.mem_cons_of_mem _ listed, there⟩

/-- No title is given that was in use at the start. -/
theorem fresh (tells : Tells used rng calls infos) : ∀ text ∈ used, some text ∉ infos.map EntityInfo.name := by
  induction tells with
  | nil => simp
  | cons gives _ name _ ih =>
    intro text taken
    rw [List.map_cons, List.mem_cons, name, not_or]
    refine ⟨fun same => gives.unused (Option.some.inj same ▸ taken), ?_⟩
    exact ih text (Std.ExtTreeSet.mem_insert.mpr (.inr taken))

theorem nodup (tells : Tells used rng calls infos) : (infos.map EntityInfo.name).Nodup := by
  induction tells with
  | nil => exact .nil
  | cons _ _ name rest ih =>
    refine List.nodup_cons.mpr ⟨?_, ih⟩
    rw [name]
    exact rest.fresh _ Std.ExtTreeSet.mem_insert_self

end Tells

/-- Calls in turn are all answered, whatever is drawn: where no draw is new the count ends, each entity has a name, no
name was in use before, and none is given twice. -/
theorem describeAll_distinct (calls : List (KnowledgeBase × Entity)) (used : SortedSet String) (rng : Rng) :
    Tells used rng calls ((describeAll calls).run used rng).1.1 ∧
    List.Forall₂ (fun call info => info.id = call.2.name ∧
      ∃ given, info.name = some given.text ∧ Titled (nouns call.1 call.2.type) given)
      calls ((describeAll calls).run used rng).1.1 ∧
    (∀ text ∈ used, some text ∉ ((describeAll calls).run used rng).1.1.map EntityInfo.name) ∧
    (((describeAll calls).run used rng).1.1.map EntityInfo.name).Nodup := by
  have tells := tells_describeAll calls used rng
  exact ⟨tells, tells.titled, tells.fresh, tells.nodup⟩

end Adventure.Naming
