import Adventure.Text.Blank

namespace Adventure.Text

/-- A letter or a digit without accents. -/
def isAlphanumeric (c : Char) : Bool := c.isAlpha || c.isDigit

def isJoiner (c : Char) : Bool := c == '-' || c == '_'

/-- The characters of a slug: letters and digits in lower case, joiners after the first of these, and a dash for
what stands between two of them and is neither. -/
def slugFrom : (begun gap : Bool) → List Char → List Char
  | _, _, [] => []
  | begun, gap, c :: rest =>
    if isAlphanumeric c then
      if begun && gap then '-' :: c.toLower :: slugFrom true false rest else c.toLower :: slugFrom true false rest
    else if isJoiner c then
      if begun then c :: slugFrom true false rest else slugFrom false false rest
    else slugFrom begun true rest

/-- A name that is safe for a file. -/
def slug (text : String) : String :=
  match trimList isJoiner (slugFrom false false text.toList) with
  | [] => "game"
  | chars => String.ofList chars

end Adventure.Text
