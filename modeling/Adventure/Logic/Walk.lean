import Adventure.Sorted

namespace Adventure

/-- Which of the names that wait comes next: the one that has waited longest, or the one that came last. -/
inductive Turn where
  | queue
  | stack

/-- The names that wait, the next one first, after others have come. -/
def Turn.join : Turn → (waiting others : List String) → List String
  | .queue, waiting, others => waiting ++ others
  | .stack, waiting, others => others.reverse ++ waiting

/-- Whether `goal` comes up among the names that wait. After each name that was not seen before, those that `next` leads
to wait too. No more than `steps` names are looked at. -/
def search (next : String → List String) (turn : Turn) (goal : String) :
    (steps : Nat) → (waiting : List String) → (seen : SortedSet String) → Bool
  | 0, _, _ => false
  | _ + 1, [], _ => false
  | steps + 1, name :: waiting, seen =>
    if name == goal then true
    else if seen.contains name then search next turn goal steps waiting seen
    else search next turn goal steps (turn.join waiting (next name)) (seen.insert name)

/-- The names found, and after them those that come up in the queue, each once. After each name that was not found
before, those that `next` leads to wait too. No more than `steps` names are looked at. -/
def climb (next : String → List String) : (steps : Nat) → (waiting found : List String) → List String
  | 0, _, found => found
  | _ + 1, [], found => found
  | steps + 1, name :: waiting, found =>
    if found.contains name then climb next steps waiting found
    else climb next steps (waiting ++ next name) (found ++ [name])

/-- Put those names on a stack that were not found before; they are found then. -/
def pile : (names stack : List String) → (found : SortedSet String) → List String × SortedSet String
  | [], stack, found => (stack, found)
  | name :: names, stack, found =>
    if found.contains name then pile names stack found else pile names (name :: stack) (found.insert name)

/-- The names found, and those that `next` leads to from the stack. A name is put on the stack when it is found. No more
than `steps` names are taken from the stack. -/
def collect (next : String → List String) :
    (steps : Nat) → (stack : List String) → (found : SortedSet String) → SortedSet String
  | 0, _, found => found
  | _ + 1, [], found => found
  | steps + 1, name :: stack, found =>
    let piled := pile (next name) stack found
    collect next steps piled.1 piled.2

end Adventure
