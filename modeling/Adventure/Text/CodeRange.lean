namespace Adventure.Text

/-- A range of code points, both ends included. -/
structure CodeRange where
  first : Nat
  last : Nat

def CodeRange.holds (c : Char) (range : CodeRange) : Bool := range.first ≤ c.toNat && c.toNat ≤ range.last

/-- Whether a character is in one of some ranges. -/
def CodeRange.anyHolds (ranges : List CodeRange) (c : Char) : Bool := ranges.any (CodeRange.holds c)

end Adventure.Text
