import Adventure.Logic.FreshNames
import Adventure.Proofs.Logic.Counting
import Std.Data.String.ToNat

namespace Adventure.FreshNames

variable {type : String} {taken : List String}

theorem numbered_injective {a b : Nat} (same : numbered type a = numbered type b) : a = b :=
  Nat.repr_injective ((String.append_right_inj _).mp same)

/-- A text is cut in one way at a character that does not stand behind the cut. -/
theorem append_cons_inj {c : Char} {front back before after : List Char} (absent : c ∉ back) (missing : c ∉ after)
    (same : front ++ c :: back = before ++ c :: after) : front = before ∧ back = after := by
  rcases List.append_eq_append_iff.mp same with ⟨between, rfl, rest⟩ | ⟨between, rfl, rest⟩
  · cases between with
    | nil => simpa using rest
    | cons d between => exact absurd (by simp [(List.cons.inj rest).2]) absent
  · cases between with
    | nil => simpa using rest.symm
    | cons d between => exact absurd (by simp [(List.cons.inj rest).2]) missing

theorem underscore_notMem (number : Nat) : '_' ∉ (toString number).toList := by
  have digits : (toString number).toList = Nat.toDigits 10 number := Nat.toList_repr
  rw [digits]
  exact Nat.underscore_not_in_toDigits

/-- The search ends where counting up without a bound does. -/
theorem firstFree_counts {listed : String → Prop} (lists : ∀ name, name ∈ taken ↔ listed name) (number : Nat) :
    CountsTo (fun n => listed (numbered type n)) number (firstFree type taken (taken.length + 1) number) := by
  obtain ⟨k, near, free⟩ := CountsTo.exists_unused (fun _ _ => numbered_injective) taken number
  have means (n : Nat) : taken.contains (numbered type n) = true ↔ listed (numbered type n) :=
    List.contains_iff_mem.trans (lists _)
  exact .of_bounded means (fun _ => rfl) (fun _ _ => rfl) (Nat.le_succ_of_le near) (mt (lists _).mpr free)

/-- A minted entity has the type asked for and a numbered name that is not taken. The number is not below the counter
of its type, which then stands after it. -/
theorem mint_spec (names : FreshNames) (type : String) (taken : List String) : ∃ number,
    names.counters.getD type 0 ≤ number ∧ (names.mint type taken).1 = ⟨numbered type number, type⟩ ∧
    numbered type number ∉ taken ∧ (names.mint type taken).2.counters = names.counters.insert type (number + 1) := by
  have counts : CountsTo (fun n => numbered type n ∈ taken) (names.counters.getD type 0) _ :=
    firstFree_counts (fun _ => Iff.rfl) _
  exact ⟨_, counts.first_le, rfl, counts.not_taken, rfl⟩

/-- An entity with one of the numbers of its type that have been passed. -/
def Minted (names : FreshNames) (type : String) (e : Entity) : Prop :=
  ∃ number < names.counters.getD type 0, e = ⟨numbered type number, type⟩

/-- An entity whose name is its type and a number. -/
def Coined (e : Entity) : Prop := ∃ number, e.name = numbered e.type number

variable {names : FreshNames} {e : Entity}

theorem getD_le_getD_insert {number : Nat} (above : names.counters.getD type 0 ≤ number) (other : String) :
    names.counters.getD other 0 ≤ (names.counters.insert type (number + 1)).getD other 0 := by
  rw [Std.ExtTreeMap.getD_insert]
  split
  next same =>
    have same : type = other := Std.LawfulEqOrd.eq_of_compare same
    subst same
    omega
  next => exact Nat.le_refl _

theorem Minted.coined (minted : names.Minted type e) : Coined e := by
  obtain ⟨number, -, rfl⟩ := minted
  exact ⟨number, rfl⟩

theorem getD_mint_self (names : FreshNames) (type : String) (taken : List String) : ∃ number,
    names.counters.getD type 0 ≤ number ∧ (names.mint type taken).1 = ⟨numbered type number, type⟩ ∧
    (names.mint type taken).2.counters.getD type 0 = number + 1 := by
  obtain ⟨number, above, made, -, counters⟩ := names.mint_spec type taken
  refine ⟨number, above, made, ?_⟩
  rw [counters, Std.ExtTreeMap.getD_insert_self]

theorem minted_mint (names : FreshNames) (type : String) (taken : List String) :
    (names.mint type taken).2.Minted type (names.mint type taken).1 := by
  obtain ⟨number, -, made, counter⟩ := names.getD_mint_self type taken
  exact ⟨number, by omega, made⟩

theorem Minted.mint {other : String} (minted : names.Minted other e) (type : String) (taken : List String) :
    (names.mint type taken).2.Minted other e := by
  obtain ⟨number, below, rfl⟩ := minted
  obtain ⟨next, above, -, -, counters⟩ := names.mint_spec type taken
  refine ⟨number, ?_, rfl⟩
  rw [counters]
  exact Nat.lt_of_lt_of_le below (getD_le_getD_insert above other)

theorem Minted.ne_mint (minted : names.Minted type e) (taken : List String) : e ≠ (names.mint type taken).1 := by
  obtain ⟨number, below, rfl⟩ := minted
  obtain ⟨next, above, made, -⟩ := names.getD_mint_self type taken
  rw [made]
  intro same
  have equal := numbered_injective (congrArg Entity.name same)
  omega

theorem Minted.eq_of_name {f : Entity} (first : names.Minted type e) (second : names.Minted type f)
    (same : e.name = f.name) : e = f := by
  obtain ⟨a, -, rfl⟩ := first
  obtain ⟨b, -, rfl⟩ := second
  rw [numbered_injective same]

/-- A minted name starts as its type does. -/
theorem Minted.head? {first : Char} (minted : names.Minted type e) (starts : type.toList.head? = some first) :
    e.name.toList.head? = some first := by
  obtain ⟨number, -, rfl⟩ := minted
  obtain ⟨rest, letters⟩ := List.head?_eq_some_iff.mp starts
  simp [numbered, String.toList_append, letters]

/-- A number holds no underscore, so the last one of a name stands between its type and its number. -/
theorem numbered_eq_numbered_iff {one other : String} {a b : Nat} :
    numbered one a = numbered other b ↔ one = other ∧ a = b := by
  refine ⟨fun same => ?_, fun ⟨types, numbers⟩ => types ▸ numbers ▸ rfl⟩
  have spelled (type : String) (n : Nat) : (numbered type n).toList = type.toList ++ '_' :: (toString n).toList := by
    simp [numbered]
  have split := congrArg String.toList same
  rw [spelled, spelled] at split
  have types := (append_cons_inj (underscore_notMem a) (underscore_notMem b) split).1
  have types : one = other := String.toList_inj.mp types
  subst types
  exact ⟨rfl, numbered_injective same⟩

/-- A call for a name of a type, with a predicate for the names taken, which are finitely many: those of a list. -/
structure Call where
  type : String
  taken : String → Prop
  listed : List String
  mem_listed_iff : ∀ name, name ∈ listed ↔ taken name

/-- The entities that calls in turn give. -/
def mintAll (names : FreshNames) : List Call → List Entity
  | [] => []
  | call :: calls =>
    let minted := names.mint call.type call.listed
    minted.1 :: minted.2.mintAll calls

/-- Calls in turn give entities, each with the first number from the counter of its type on whose name is not taken.
The counter is then set after it. -/
inductive Gives : FreshNames → List Call → List Entity → Prop
  | nil {names : FreshNames} : Gives names [] []
  | cons {names : FreshNames} {call : Call} {calls : List Call} {entities : List Entity} {number : Nat}
      (counts : CountsTo (fun n => call.taken (numbered call.type n)) (names.counters.getD call.type 0) number)
      (rest : Gives ⟨names.counters.insert call.type (number + 1)⟩ calls entities) :
      Gives names (call :: calls) (⟨numbered call.type number, call.type⟩ :: entities)

variable {calls : List Call} {entities : List Entity}

theorem gives_mintAll (names : FreshNames) (calls : List Call) : names.Gives calls (names.mintAll calls) := by
  induction calls generalizing names with
  | nil => exact .nil
  | cons call calls ih => exact .cons (firstFree_counts call.mem_listed_iff _) (ih _)

namespace Gives

theorem free (gives : names.Gives calls entities) :
    List.Forall₂ (fun call e => e.type = call.type ∧ ¬ call.taken e.name) calls entities := by
  induction gives with
  | nil => exact .nil
  | cons counts _ ih => exact .cons ⟨rfl, counts.not_taken⟩ ih

/-- The numbers given are not below the counters at the start. -/
theorem above (gives : names.Gives calls entities) : ∀ e ∈ entities, ∃ number,
    names.counters.getD e.type 0 ≤ number ∧ e.name = numbered e.type number := by
  induction gives with
  | nil => simp
  | cons counts _ ih =>
    refine List.forall_mem_cons.mpr ⟨⟨_, counts.first_le, rfl⟩, fun e member => ?_⟩
    obtain ⟨number, later, name⟩ := ih e member
    exact ⟨number, Nat.le_trans (getD_le_getD_insert counts.first_le e.type) later, name⟩

theorem nodup (gives : names.Gives calls entities) : (entities.map Entity.name).Nodup := by
  induction gives with
  | nil => exact .nil
  | @cons names call _ _ number _ rest ih =>
    refine List.nodup_cons.mpr ⟨fun again => ?_, ih⟩
    obtain ⟨e, member, same⟩ := List.mem_map.mp again
    obtain ⟨other, later, name⟩ := rest.above e member
    obtain ⟨type, rfl⟩ := numbered_eq_numbered_iff.mp (name.symm.trans same)
    -- The counter of the type stands after the number when the later name is sought.
    rw [type, Std.ExtTreeMap.getD_insert_self] at later
    omega

end Gives

/-- Calls in turn are all answered: each count ends, at a name that is not taken then, and no name is given twice. -/
theorem mintAll_distinct (names : FreshNames) (calls : List Call) :
    names.Gives calls (names.mintAll calls) ∧
    List.Forall₂ (fun call e => e.type = call.type ∧ ¬ call.taken e.name) calls (names.mintAll calls) ∧
    ((names.mintAll calls).map Entity.name).Nodup := by
  have gives := names.gives_mintAll calls
  exact ⟨gives, gives.free, gives.nodup⟩

end Adventure.FreshNames
