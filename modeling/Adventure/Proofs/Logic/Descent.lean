import Adventure.Logic.TypeHierarchy
import Adventure.Proofs.Logic.Walks

namespace Adventure

namespace Parents

theorem mem_keys_of_of {parents : Parents} {type : String} (some : parents.of type ≠ []) : type ∈ parents.keys := by
  rw [Std.ExtTreeMap.mem_keys]
  refine Classical.byContradiction fun absent => some ?_
  rw [Parents.of, Std.ExtTreeMap.getD_eq_fallback absent]

/-- Before a walk, all parents are still to be met. -/
theorem unvisited_eq_count (parents : Parents) {visited : String → Bool} (none : ∀ type, visited type = false) :
    unvisited parents.of parents.keys visited = parents.count := by
  have all : parents.keys.filter (!visited ·) = parents.toList.map Prod.fst := by
    rw [Std.ExtTreeMap.map_fst_toList_eq_keys, List.filter_eq_self]
    exact fun type _ => by rw [none type]; rfl
  have each : ∀ entry ∈ parents.toList, parents.of entry.1 = entry.2 := by
    intro entry listed
    rw [of, Std.ExtTreeMap.getD_eq_getD_getElem?, Std.ExtTreeMap.mem_toList_iff_getElem?_eq_some.mp listed,
      Option.getD_some]
  rw [unvisited, all, List.flatMap_map, count, List.flatMap_def, List.flatMap_def, List.map_congr_left each]

theorem searches_leadsTo (parents : Parents) (turn : Turn) (starts : List String) (goal : String) :
    Searches parents.of turn goal (turn.join [] starts) ∅ (parents.leadsTo turn starts goal) := by
  refine searches_search (fun _ => mem_keys_of_of) (Nat.le_of_eq ?_)
  rw [Turn.length_join, List.length_nil, Nat.zero_add,
    unvisited_eq_count parents fun _ => Std.ExtTreeSet.contains_empty]

theorem leadsTo_iff {parents : Parents} {turn : Turn} {starts : List String} {goal : String} :
    parents.leadsTo turn starts goal = true ↔
      ∃ start ∈ starts, Relation.ReflTransGen (fun a b => b ∈ parents.of a) start goal :=
  (parents.searches_leadsTo turn starts goal).iff

end Parents

namespace TypeHierarchy

/-- A type descends from those that any number of steps to parents lead to. -/
theorem descends_iff {types : TypeHierarchy} {a b : String} :
    types.descends a b = true ↔ Relation.ReflTransGen (fun a b => b ∈ types.parentsOf a) a b := by
  rw [descends, Bool.or_eq_true, beq_iff_eq, Parents.leadsTo_iff, Relation.reflTransGen_iff_eq_or_transGen, eq_comm,
    Relation.TransGen.head'_iff]
  rfl

theorem descends_refl (types : TypeHierarchy) (type : String) : types.descends type type = true :=
  descends_iff.mpr .refl

/-- Descent goes on from a type to what its ancestors descend from. -/
def Transitive (types : TypeHierarchy) : Prop :=
  ∀ a b c, types.descends a b = true → types.descends b c = true → types.descends a c = true

theorem transitive (types : TypeHierarchy) : types.Transitive := by
  intro a b c first second
  exact descends_iff.mpr ((descends_iff.mp first).trans (descends_iff.mp second))

end TypeHierarchy

end Adventure
