import Adventure.Text.LetterCase

namespace Adventure.Text

/-- The lower-case form of a character by itself. -/
def lowerChar (c : Char) : List Char :=
  if c.toNat < 0x80 then [c.toLower]
  else if c = '\u0130' then ['i', '\u0307']
  else
    match caseRuns.find? (·.holds c.toNat) with
    | some run => [Char.ofNat (c.toNat + run.shift).toNat]
    | none => [c]

/-- The first letter that counts, if there is one, is a cased one. -/
def meetsCased (chars : List Char) : Bool :=
  ((chars.dropWhile isCaseIgnorable).head?.map isCased).getD false

/-- The lower-case form of a text, where `before` holds the characters already passed in reverse. A capital
sigma at the end of a word takes the final form. -/
def lowerFrom : (before : List Char) → List Char → List Char
  | _, [] => []
  | before, c :: rest =>
    if c = '\u03a3' then
      (if meetsCased before && !meetsCased rest then '\u03c2' else '\u03c3') :: lowerFrom (c :: before) rest
    else lowerChar c ++ lowerFrom (c :: before) rest

def lowercase (text : String) : String := String.ofList (lowerFrom [] text.toList)

end Adventure.Text
