import Adventure.Ron.Part
import Adventure.Ron.Token

namespace Adventure.Ron

open Token

/-- The rule of a name. -/
def Rules.ofName? : String → Option Rules
  | "explicit_struct_names" => some { Rules.usual with namedRecords := true }
  | "implicit_some" => some { Rules.usual with bareValues := true }
  | "unwrap_variant_newtypes" => some { Rules.usual with bareContents := true }
  | "unwrap_newtypes" => some Rules.usual
  | _ => none

/-- Names of rules, each but the last with a comma after it, up to the closing marks. -/
def ruleNames? : (rules : Rules) → List Token → Option (Rules × List Token)
  | rules, .word name :: .mark ',' :: .mark ')' :: .mark ']' :: rest
  | rules, .plainWord name :: .mark ',' :: .mark ')' :: .mark ']' :: rest
  | rules, .word name :: .mark ')' :: .mark ']' :: rest
  | rules, .plainWord name :: .mark ')' :: .mark ']' :: rest =>
    (Rules.ofName? name).map fun rule => (rules.join rule, rest)
  | rules, .word name :: .mark ',' :: rest
  | rules, .plainWord name :: .mark ',' :: rest =>
    match Rules.ofName? name with
    | some rule => ruleNames? (rules.join rule) rest
    | none => none
  | _, _ => none

/-- The rules that stand before a value. -/
def rules? : (fuel : Nat) → Rules → List Token → Option (Rules × List Token)
  | 0, _, _ => none
  | fuel + 1, rules, .mark '#' :: rest =>
    match rest with
    | .mark '!' :: .mark '[' :: .word "enable" :: .mark '(' :: rest =>
      match ruleNames? rules rest with
      | some (rules, rest) => rules? fuel rules rest
      | none => none
    | _ => none
  | _ + 1, rules, tokens => some (rules, tokens)

/-- The tokens after a comma, or all of them before the mark that closes the value. -/
def afterItem? (closing : Char) : List Token → Option (List Token)
  | .mark c :: rest =>
    if c = ',' then some rest else if c = closing then some (.mark c :: rest) else none
  | _ => none

/-- Some tokens start with a field of a record. -/
def startsField : List Token → Bool
  | .word _ :: .mark ':' :: _ | .plainWord _ :: .mark ':' :: _ => true
  | _ => false

/-- Before the mark that closes `depth` open brackets there is more than one item. -/
def severalItems : (depth : Nat) → List Token → Bool
  | 0, _ => false
  | _, [] => false
  | depth + 1, .mark c :: rest =>
    if ['(', '[', '\x7b'].contains c then severalItems (depth + 2) rest
    else if [')', ']', '\x7d'].contains c then severalItems depth rest
    else if c = ',' ∧ depth = 0 then rest.head? != some (.mark ')')
    else severalItems (depth + 1) rest
  | depth + 1, _ :: rest => severalItems (depth + 1) rest

/-- What a word means that stands for a value by itself. -/
def keyword? : String → Option Ron
  | "true" => some (.flag true)
  | "false" => some (.flag false)
  | "None" => some (.option none)
  | name => if Number.unbounded.contains name then some (.fraction name) else none

mutual

/-- The value at the front of some tokens. It may hold others `depth` deep, where each container counts twice if
it is not empty, once for itself and once for what it holds. -/
def value? (rules : Rules) : (fuel depth : Nat) → List Token → Option (Ron × List Token)
  | 0, _, _ => none
  | fuel + 1, depth, tokens =>
    match tokens with
    | .text value :: rest => some (.text value, rest)
    | .bytes values :: rest => some (.bytes values, rest)
    | .letter value :: rest => some (.letter value, rest)
    | .number (.integer value kind) :: rest => some (.integer value kind, rest)
    | .number (.fraction digits) :: rest => some (.fraction digits, rest)
    | .word name :: rest =>
      if name = "Some" then contents? rules fuel depth rest
      else
        match keyword? name with
        | some value => some (value, rest)
        | none =>
          match rest with
          | .mark '(' :: rest => body? rules fuel depth (some name) rest
          | rest => some (.word name, rest)
    | .plainWord name :: .mark '(' :: rest => body? rules fuel depth (some name) rest
    | .plainWord name :: rest => some (.word name, rest)
    | .mark '(' :: .mark ')' :: rest => some (.tuple none [], rest)
    | .mark c :: rest =>
      if c = '(' then body? rules fuel depth none rest
      else if c = '[' then (items? rules fuel depth ']' rest).map fun (items, rest) => (.list items, rest)
      else if c = '\x7b' then (entries? rules fuel depth rest).map fun (entries, rest) => (.table entries, rest)
      else none
    | [] => none

/-- What an option holds that is there. The rules may let it stand without parentheses, or let it be several items
or fields. -/
def contents? (rules : Rules) : (fuel depth : Nat) → List Token → Option (Ron × List Token)
  | fuel + 1, depth + 1, .mark '(' :: tokens =>
    if rules.bareContents && tokens.head? == some (.mark ')') then
      some (.option (some (.tuple none [])), tokens.tail)
    else if rules.bareContents && (startsField tokens || severalItems 1 tokens) then
      (body? rules fuel depth none tokens).map fun (inner, rest) => (.option (some inner), rest)
    else
      match value? rules fuel depth tokens with
      | some (inner, .mark ')' :: rest) => some (.option (some inner), rest)
      | some (inner, .mark ',' :: .mark ')' :: rest) => some (.option (some inner), rest)
      | _ => none
  | fuel + 1, depth + 1, tokens =>
    if rules.bareValues then
      (value? rules fuel depth tokens).map fun (inner, rest) => (.option (some inner), rest)
    else none
  | _, _, _ => none

/-- What stands between parentheses: fields if the first word has a colon after it, else items. -/
def body? (rules : Rules) :
    (fuel depth : Nat) → (name : Option String) → List Token → Option (Ron × List Token)
  | 0, _, _, _ => none
  | fuel + 1, depth, name, tokens =>
    if startsField tokens then
      (members? rules fuel depth tokens).map fun (fields, rest) => (.record name fields, rest)
    else (items? rules fuel depth ')' tokens).map fun (items, rest) => (.tuple name items, rest)

/-- Items up to a closing mark. -/
def items? (rules : Rules) :
    (fuel depth : Nat) → (closing : Char) → List Token → Option (List Ron × List Token)
  | fuel + 1, depth + 1, closing, tokens =>
    if tokens.head? = some (.mark closing) then some ([], tokens.tail)
    else if depth = 0 then none
    else
      match value? rules fuel (depth - 1) tokens with
      | none => none
      | some (item, rest) =>
        match afterItem? closing rest with
        | none => none
        | some rest => (items? rules fuel (depth + 1) closing rest).map fun (items, rest) => (item :: items, rest)
  | _, _, _, _ => none

/-- Fields up to a closing parenthesis. -/
def members? (rules : Rules) : (fuel depth : Nat) → List Token → Option (List (String × Ron) × List Token)
  | fuel + 1, depth + 2, tokens =>
    match tokens with
    | .mark ')' :: rest => some ([], rest)
    | .word field :: .mark ':' :: rest | .plainWord field :: .mark ':' :: rest =>
      match value? rules fuel depth rest with
      | none => none
      | some (item, rest) =>
        match afterItem? ')' rest with
        | none => none
        | some rest =>
          (members? rules fuel (depth + 2) rest).map fun (fields, rest) => ((field, item) :: fields, rest)
    | _ => none
  | _, _, _ => none

/-- Entries up to a closing brace. -/
def entries? (rules : Rules) : (fuel depth : Nat) → List Token → Option (List (Ron × Ron) × List Token)
  | fuel + 1, depth + 1, tokens =>
    if tokens.head? = some (.mark '\x7d') then some ([], tokens.tail)
    else if depth = 0 then none
    else
      match value? rules fuel (depth - 1) tokens with
      | some (key, .mark ':' :: rest) =>
        match value? rules fuel (depth - 1) rest with
        | none => none
        | some (item, rest) =>
          match afterItem? '\x7d' rest with
          | none => none
          | some rest =>
            (entries? rules fuel (depth + 1) rest).map fun (entries, rest) => ((key, item) :: entries, rest)
      | _ => none
  | _, _, _ => none

end

/-- How deep values may be nested. -/
def maxDepth : Nat := 128

/-- The value of a text that holds rules, one value, blanks and comments. -/
def ofText? (source : String) : Option Part :=
  match Token.all source with
  | none => none
  | some tokens =>
    match rules? (tokens.length + 1) Rules.usual tokens with
    | none => none
    | some (rules, rest) =>
      match value? rules (3 * rest.length + 3) maxDepth rest with
      | some (value, []) => some ⟨rules, value⟩
      | _ => none

end Adventure.Ron
