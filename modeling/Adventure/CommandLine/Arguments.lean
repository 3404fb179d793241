import Adventure.Sorted

namespace Adventure.CommandLine

/-- What the player can ask the program to do. -/
inductive Command where
  | play
  | make
deriving DecidableEq

def Command.ofName? : String → Option Command
  | "play" => some .play
  | "make" => some .make
  | _ => none

/-- An option that takes a value. -/
inductive Setting where
  | config
  | kb
  | seed
  | rooms
  | objects
  | questLength
  | output
deriving DecidableEq

def Setting.ofName? : String → Option Setting
  | "config" => some .config
  | "kb" => some .kb
  | "seed" => some .seed
  | "rooms" => some .rooms
  | "objects" => some .objects
  | "quest-length" => some .questLength
  | "output" => some .output
  | _ => none

/-- The options that can be given before a command, or after it. -/
def Setting.allowed (command : Option Command) : Setting → Bool
  | .config | .kb => true
  | .output => command = some .make
  | _ => command.isSome

/-- A natural number below a bound, in digits after an optional plus sign. -/
def number? (bound : Nat) (text : String) : Option Nat :=
  let digits := match text.toList with
    | '+' :: rest => rest
    | chars => chars
  if digits.isEmpty || !digits.all Char.isDigit then none
  else
    let value := digits.foldl (fun value c => 10 * value + (c.toNat - '0'.toNat)) 0
    if value < bound then some value else none

/-- Whether an option can have a value. -/
def Setting.accepts (value : String) : Setting → Bool
  | .config | .kb | .output => !value.isEmpty
  | _ => (number? 0x10000000000000000 value).isSome

/-- The arguments as far as they have been read. The options before and after the command are kept apart. -/
structure Given where
  command : Option Command
  before : List (Setting × String)
  after : List (Setting × String)
  game : Option String
  escaped : Bool

/-- What help can be asked for. -/
inductive Topic where
  | program
  | command (command : Command)
  | help
deriving DecidableEq

def Topic.ofCommand (command : Option Command) : Topic := command.elim .program .command

/-- Why the arguments are not carried out. -/
inductive Stop where
  | usage
  | version
  | help (topic : Topic)
deriving DecidableEq

namespace Given

def nothing : Given := ⟨none, [], [], none, false⟩

def find? (given : Given) (setting : Setting) : Option String :=
  (given.after ++ given.before).lookup setting

/-- Give an option a value, which can be done once before the command and once after it. -/
def set (given : Given) (setting : Setting) (value : String) : Except Stop Given :=
  let here := if given.command.isSome then given.after else given.before
  if !setting.allowed given.command || !setting.accepts value || (here.lookup setting).isSome then .error .usage
  else if given.command.isSome then .ok { given with after := (setting, value) :: given.after }
  else .ok { given with before := (setting, value) :: given.before }

/-- Take a plain argument: the command, or the game to play. -/
def plain (given : Given) (value : String) : Except Stop Given :=
  match given.command with
  | none =>
    match Command.ofName? value with
    | some command => if given.escaped then .error .usage else .ok { given with command := some command }
    | none => .error .usage
  | some .play =>
    if given.game.isSome || value.isEmpty then .error .usage else .ok { given with game := some value }
  | some .make => .error .usage

/-- What a short flag asks for. The rest of its argument is its value. -/
def short (given : Given) : List Char → Except Stop (Setting × Option String)
  | 'h' :: _ => .error (.help (.ofCommand given.command))
  | 'V' :: _ => .error (if given.command.isNone then .version else .usage)
  | 'o' :: [] => .ok (.output, none)
  | 'o' :: '=' :: value => .ok (.output, some (String.ofList value))
  | 'o' :: value => .ok (.output, some (String.ofList value))
  | _ => .error .usage

/-- What a long flag asks for, with the value after an equals sign. -/
def long (given : Given) (chars : List Char) : Except Stop (Setting × Option String) :=
  let name := chars.takeWhile (· != '=')
  let value := match chars.drop name.length with
    | _ :: value => some (String.ofList value)
    | [] => none
  match String.ofList name with
  | "help" => .error (if value.isNone then .help (.ofCommand given.command) else .usage)
  | "version" => .error (if value.isNone && given.command.isNone then .version else .usage)
  | name =>
    match Setting.ofName? name with
    | some setting => if setting.allowed given.command then .ok (setting, value) else .error .usage
    | none => .error .usage

/-- What an argument asks for if it is a flag. -/
def flag? (given : Given) (argument : String) : Option (Except Stop (Setting × Option String)) :=
  match argument.toList with
  | '-' :: '-' :: name => some (given.long name)
  | '-' :: first :: rest => some (given.short (first :: rest))
  | _ => none

/-- The help that was asked for by a command of its own. -/
def helpAbout : List String → Stop
  | [] => .help .program
  | ["help"] => .help .help
  | [name] => (Command.ofName? name).elim .usage fun command => .help (.command command)
  | _ => .usage

/-- Read the arguments one after another. -/
def read (given : Given) : List String → Except Stop Given
  | [] => .ok given
  | argument :: rest =>
    if given.escaped then do read (← given.plain argument) rest
    else if argument = "--" then read { given with escaped := true } rest
    else match given.flag? argument with
      | some (.error stop) => .error stop
      | some (.ok (setting, some value)) => do read (← given.set setting value) rest
      | some (.ok (setting, none)) =>
        match rest with
        | value :: rest =>
          if (given.flag? value).isSome then .error .usage else do read (← given.set setting value) rest
        | [] => .error .usage
      | none =>
        if given.command.isNone && argument = "help" then .error (helpAbout rest)
        else do read (← given.plain argument) rest

end Given

/-- What the program is to do. -/
structure Order where
  command : Command
  given : Given

def Order.ofArguments (arguments : List String) : Except Stop Order := do
  let given ← Given.nothing.read arguments
  match given.command with
  | some command => return ⟨command, given⟩
  | none => throw .usage

namespace Order

def text? (order : Order) (setting : Setting) : Option String := order.given.find? setting

def number? (order : Order) (setting : Setting) : Option Nat :=
  (order.text? setting).bind (CommandLine.number? 0x10000000000000000)

end Order

end Adventure.CommandLine
