import SiteConfig.Format

/-!
# Arguments of the command line

A command line names a command, level by level, with options anywhere: those of all commands can
stand at every level, and the deepest level counts.

- `Task`, `Invocation`: what is asked for.
- `Misuse`: why nothing is, or that only help or the version is.
- `Invocation.ofArguments`: reads the arguments.

An option whose value is an argument of its own is only looked at when the next option or operand
comes, or when the level ends; a fault of a deeper level is found before.
-/

namespace SiteConfig.CommandLine

/-- The shells that completions exist for. -/
inductive Shell
  | bash
  | elvish
  | fish
  | powershell
  | zsh
  deriving DecidableEq, Repr, Inhabited

namespace Shell

/-- All shells. -/
def all : List Shell := [.bash, .elvish, .fish, .powershell, .zsh]

/-- The name of a shell. -/
def name : Shell → String
  | .bash => "bash"
  | .elvish => "elvish"
  | .fish => "fish"
  | .powershell => "powershell"
  | .zsh => "zsh"

/-- The shell of a name. Case counts. -/
def ofName? (s : String) : Option Shell :=
  all.find? fun shell => shell.name == s

end Shell

/-- What is to be done. -/
inductive Task
  /-- The body for the blocks of a document. -/
  | expand (file : String)
  /-- The blocks for a body. -/
  | flatten (file : String)
  /-- The fields of the configuration, or of a list of blocks inside it. -/
  | schema (block : Option String)
  /-- An address and a mask as one network. -/
  | encode (address : String) (mask : Option String)
  /-- A network as address and mask. -/
  | decode (cidr : String) (legacyMask : Option String)
  /-- A completion script. -/
  | completions (shell : Shell)
  deriving DecidableEq, Repr

/-- A task, and how its output is wanted. -/
structure Invocation where
  task : Task
  /-- The format of the output, if one is asked for. -/
  output : Option Format
  /-- How many times more messages are asked for. -/
  verbose : Nat
  /-- Whether output is unwanted. -/
  quiet : Bool
  deriving DecidableEq, Repr

/-- Why arguments do not make an invocation. -/
inductive Misuse
  /-- Help is asked for. -/
  | help
  /-- The version is asked for. -/
  | version
  /-- Nothing at all is asked for. -/
  | empty
  /-- A command has to be followed by another one. -/
  | missingCommand
  | unknownCommand
  | unknownArgument
  | missingArgument
  | invalidValue
  /-- An option without a value has one. -/
  | unwantedValue
  /-- An option that can only be given once is given twice. -/
  | repeated
  deriving DecidableEq, Repr

/-- The exit code: help and the version are no mistakes. -/
def Misuse.exitCode : Misuse → Nat
  | .help | .version => 0
  | _ => 2

/-! ## Commands, options and operands -/

/-- The commands, those with others below them included. -/
inductive Command
  | root
  | expand
  | flatten
  | schema
  | cidr
  | encode
  | decode
  | completions
  deriving DecidableEq, Repr

namespace Command

/-- The commands below a command, by their names. -/
def below : Command → List (String × Command)
  | .root => [("expand", .expand), ("x", .expand), ("flatten", .flatten), ("f", .flatten),
      ("schema", .schema), ("cidr", .cidr), ("completions", .completions)]
  | .cidr => [("encode", .encode), ("decode", .decode)]
  | _ => []

/-- Whether there are commands below. Such a command has no operands. -/
def isGroup (command : Command) : Bool :=
  !command.below.isEmpty

/-- How many operands a command takes. -/
def operands : Command → Nat
  | .root | .cidr | .schema => 0
  | .encode => 2
  | _ => 1

end Command

/-- The word that asks for the help of a command, in the place of a command. -/
def helpWord : String := "help"

/-- What the words after `help` name: a command, or `help` itself, which has nothing below it. -/
def helpOn : Command → List String → Misuse
  | _, [] => .help
  | command, word :: rest =>
    if command.isGroup && word == helpWord then (if rest.isEmpty then .help else .unknownCommand)
    else
      match command.below.lookup word with
      | some next => helpOn next rest
      | none => .unknownCommand

/-- Options that have a value. -/
inductive Valued
  | output
  | block
  | legacyMask
  deriving DecidableEq, Repr

/-- Options that have none. -/
inductive Flag
  | verbose
  | quiet
  | help
  | version
  deriving DecidableEq, Repr

/-- The option of a long name. -/
def longOption? (command : Command) (name : String) : Option (Flag ⊕ Valued) :=
  match name with
  | "output" => some (.inr .output)
  | "verbose" => some (.inl .verbose)
  | "quiet" => some (.inl .quiet)
  | "help" => some (.inl .help)
  | "version" => some (.inl .version)
  | "block" => if command = .schema then some (.inr .block) else none
  | "legacy-mask" => if command = .decode then some (.inr .legacyMask) else none
  | _ => none

/-- The option of a letter. -/
def shortOption? (c : Char) : Option (Flag ⊕ Valued) :=
  match c with
  | 'o' => some (.inr .output)
  | 'v' => some (.inl .verbose)
  | 'q' => some (.inl .quiet)
  | 'h' => some (.inl .help)
  | 'V' => some (.inl .version)
  | _ => none

/-! ## One level -/

/-- What a value is for. -/
inductive Slot
  | option (valued : Valued)
  | operand
  deriving DecidableEq, Repr

/-- What the arguments of one level have given so far. -/
structure Level where
  output : Option Format := none
  block : Option String := none
  legacyMask : Option String := none
  shell : Option Shell := none
  operands : List String := []
  verbose : Nat := 0
  quiet : Bool := false
  /-- A value that has not been looked at, or an option that has no value yet. -/
  pending : Option (Slot × Option String) := none
  deriving DecidableEq, Repr

namespace Level

/-- The largest count of an option that counts. -/
def countLimit : Nat := 255

/-- Takes the value of an option. -/
def option (level : Level) (valued : Valued) (v : String) : Except Misuse Level :=
  match valued with
  | .output =>
    if level.output.isSome then .error .repeated
    else
      match Format.ofName? v with
      | some format => .ok { level with output := some format }
      | none => .error .invalidValue
  | .block =>
    if level.block.isSome then .error .repeated else .ok { level with block := some v }
  | .legacyMask =>
    if level.legacyMask.isSome then .error .repeated
    else .ok { level with legacyMask := some v }

/-- Takes an operand. A file has a name, and a shell is one of those there are. -/
def operand (command : Command) (level : Level) (v : String) : Except Misuse Level :=
  let level := { level with operands := level.operands ++ [v] }
  match command with
  | .expand | .flatten => if v.isEmpty then .error .invalidValue else .ok level
  | .completions =>
    match Shell.ofName? v with
    | some shell => .ok { level with shell := some shell }
    | none => .error .invalidValue
  | _ => .ok level

/-- Looks at the pending value. -/
def settle (command : Command) (level : Level) : Except Misuse Level :=
  let settled := { level with pending := none }
  match level.pending with
  | none => .ok settled
  | some (_, none) => .error .invalidValue
  | some (.option valued, some v) => settled.option valued v
  | some (.operand, some v) => settled.operand command v

/-- Takes an option without a value. -/
def flag (command : Command) (level : Level) (f : Flag) : Except Misuse Level := do
  let level ← level.settle command
  match f with
  | .verbose => return { level with verbose := min (level.verbose + 1) countLimit }
  | .quiet => if level.quiet then throw .repeated else return { level with quiet := true }
  | .help => throw .help
  | .version => throw .version

/-- Takes an option whose value stands in the same argument. -/
def attached (command : Command) (level : Level) (valued : Valued) (v : String) :
    Except Misuse Level := do
  (← level.settle command).option valued v

/-- Takes an option whose value is still to come. -/
def opened (command : Command) (level : Level) (valued : Valued) : Except Misuse Level := do
  return { ← level.settle command with pending := some (.option valued, none) }

/-- Whether the value of an option is still to come. -/
def isOpen (level : Level) : Bool :=
  level.pending.any fun (_, v) => v.isNone

/-- Takes the value that an option waits for. -/
def filled (level : Level) (v : String) : Level :=
  { level with pending := level.pending.map fun (slot, _) => (slot, some v) }

/-- How many operands there are, a pending one included. -/
def operandCount (level : Level) : Nat :=
  level.operands.length + (if level.pending.any (·.1 == .operand) then 1 else 0)

/-- Takes an argument that starts with two dashes. -/
def long (command : Command) (level : Level) (s : List Char) : Except Misuse Level :=
  let name := String.ofList (s.takeWhile (· ≠ '='))
  match longOption? command name, s.dropWhile (· ≠ '=') with
  | some (.inl f), [] => level.flag command f
  | some (.inl _), _ :: _ => .error .unwantedValue
  | some (.inr valued), [] => level.opened command valued
  | some (.inr valued), _ :: v => level.attached command valued (String.ofList v)
  | none, _ => .error .unknownArgument

/-- Takes letters after a dash. What follows an option with a value is its value. -/
def short (command : Command) (level : Level) : List Char → Except Misuse Level
  | [] => .ok level
  | c :: rest =>
    match shortOption? c with
    | some (.inl f) => do short command (← level.flag command f) rest
    | some (.inr valued) =>
      match rest with
      | [] => level.opened command valued
      | '=' :: v => level.attached command valued (String.ofList v)
      | v => level.attached command valued (String.ofList v)
    | none => .error .unknownArgument

/-- Why an argument that has no place is refused. -/
def misplaced (command : Command) (trailing : Bool) (arg : String) : Misuse :=
  let names := helpWord :: command.below.map Prod.fst
  if !command.isGroup || (trailing && names.contains arg) then .unknownArgument
  else .unknownCommand

/-- Takes an operand, or what cannot be one. -/
def positional (command : Command) (trailing : Bool) (level : Level) (arg : String) :
    Except Misuse Level :=
  if level.operandCount < command.operands then do
    return { ← level.settle command with pending := some (.operand, some arg) }
  else .error (misplaced command trailing arg)

/-- Takes an argument that is no command. `trailing` holds after a double dash. -/
def argument (command : Command) (trailing : Bool) (level : Level) (arg : String) :
    Except Misuse Level :=
  if trailing then level.positional command trailing arg
  else
    match arg.toList with
    | '-' :: '-' :: name => level.long command name
    | '-' :: c :: letters => level.short command (c :: letters)
    | _ => if level.isOpen then .ok (level.filled arg) else level.positional command trailing arg

/-- The task of a level without commands below it, if it has all it needs. -/
def task? (level : Level) : Command → Option Task
  | .expand => level.operands.head?.map .expand
  | .flatten => level.operands.head?.map .flatten
  | .schema => some (.schema level.block)
  | .encode => level.operands.head?.map fun address => .encode address level.operands[1]?
  | .decode => level.operands.head?.map fun cidr => .decode cidr level.legacyMask
  | .completions => level.shell.map .completions
  | .root | .cidr => none

/-- Whether anything was given, the format from the environment included. -/
def isUsed (level : Level) (fallback : Option String) : Bool :=
  level.output.isSome || fallback.isSome || level.quiet || 0 < level.verbose

end Level

/-! ## All levels -/

/-- The end of a level: the last value is looked at, and so is the format from the environment
where the level gives none. -/
def closed (fallback : Option String) (command : Command) (level : Level) :
    Except Misuse Level := do
  let level ← level.settle command
  if level.output.isNone then
    if let some name := fallback then
      if (Format.ofName? name).isNone then throw .invalidValue
  return level

/-- The end of the deepest level. -/
def leaf (fallback : Option String) (command : Command) (level : Level) :
    Except Misuse (Task × List Level) := do
  let level ← closed fallback command level
  match level.task? command with
  | some task => return (task, [level])
  | none =>
    if command.isGroup then
      throw (if level.isUsed fallback then .missingCommand else .empty)
    else throw .missingArgument

/-- Reads the arguments of a level and of those below it: the task, and what each level gave. -/
def levels (fallback : Option String) :
    Command → Bool → Level → List String → Except Misuse (Task × List Level)
  | command, _, level, [] => leaf fallback command level
  | command, trailing, level, arg :: rest =>
    let further := fun (trailing : Bool) => do
      levels fallback command trailing (← level.argument command trailing arg) rest
    -- After a double dash there are only operands.
    if trailing then further true
    else if !level.isOpen && command.isGroup && arg == helpWord then .error (helpOn command rest)
    else
      match if level.isOpen then none else command.below.lookup arg with
      | some next => do
        -- The rest belongs to the level below, whose faults come before those of this one.
        let (task, found) ← levels fallback next false {} rest
        return (task, (← closed fallback command level) :: found)
      | none => if arg == "--" then levels fallback command true level rest else further false

/-- What the deepest level says that says anything. -/
def deepest {α : Type} (found : List Level) (get : Level → Option α) : Option α :=
  (found.filterMap get).getLast?

/-- The invocation that arguments ask for. A format comes from the arguments, or else from the
environment, whose name for it is `fallback`. -/
def Invocation.ofArguments (fallback : Option String) (args : List String) :
    Except Misuse Invocation := do
  let (task, found) ← levels fallback .root false {} args
  return {
    task
    output := (deepest found Level.output).or (fallback.bind Format.ofName?)
    verbose := (deepest found fun l => if l.verbose = 0 then none else some l.verbose).getD 0
    quiet := found.any Level.quiet }

end SiteConfig.CommandLine
