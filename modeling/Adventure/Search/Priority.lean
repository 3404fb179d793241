import Adventure.Sorted

namespace Adventure

/-- When a node of a search is taken: smaller numbers first, and of equal ones the node that came first. -/
structure Priority where
  major : Int
  minor : Int
  turn : Nat

namespace Priority

def comparePriorities : Priority → Priority → Ordering :=
  compareLex (comparePair Priority.major Priority.minor) (compareOn Priority.turn)

instance : Ord Priority := ⟨comparePriorities⟩

instance : Std.TransOrd Priority :=
  inferInstanceAs (Std.TransCmp (compareLex (comparePair Priority.major Priority.minor) (compareOn Priority.turn)))

instance : Std.LawfulEqOrd Priority where
  eq_of_compare {a b} equal := by
    have both := Ordering.then_eq_eq.mp (show comparePriorities a b = .eq from equal)
    obtain ⟨major, minor⟩ := comparePair_eq both.1
    have turn : a.turn = b.turn := Std.LawfulEqOrd.eq_of_compare both.2
    cases a; cases b; simp_all

end Priority

end Adventure
