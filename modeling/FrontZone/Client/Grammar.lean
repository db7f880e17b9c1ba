/-!
# Argument lists

The grammar of argument lists for a program with nested subcommands: options with a value, flags
without one, at most one positional argument, and subcommands of the same make.

* An argument that begins with a dash is taken for options, except a lone dash, after a lone double
  dash, and as the value of an option that admits dashes.
* An option takes its value from behind an equals sign, from the rest of its cluster of letters or
  from the next argument. Left without one it has its default, and is refused if it has no default.
* A program with subcommands needs one; it also has the subcommand `help` and, like every
  subcommand, the flags for help and version, which end everything as soon as they are met.
* What was given is checked level by level, the innermost first, once everything has been read.
-/

namespace FrontZone

namespace Client

/-- Why an argument list leads to no invocation. -/
inductive Refusal where
  | help
  | version
  | usage
  deriving Repr, DecidableEq

/-- An option with a value. -/
structure OptionSpec where
  long : String
  short : Option Char := none
  /-- A value may begin with a dash. -/
  admitsDashes : Bool := false
  default : Option String := none
  /-- Which values are possible. -/
  accepts : String → Bool := fun _ => true

/-- A flag without a value. -/
structure FlagSpec where
  long : String
  short : Option Char := none

/-- A program or subcommand. -/
inductive CommandSpec where
  | mk (name : String) (options : List OptionSpec) (flags : List FlagSpec)
      (positional : Option (String → Bool)) (subcommands : List CommandSpec)

namespace CommandSpec

/-- The word by which it is called. -/
def name : CommandSpec → String
  | mk n _ _ _ _ => n

/-- The options that may be given after its name. -/
def options : CommandSpec → List OptionSpec
  | mk _ o _ _ _ => o

/-- The flags that may be given after its name. -/
def flags : CommandSpec → List FlagSpec
  | mk _ _ f _ _ => f

/-- Which values the positional argument may have, if there is one. -/
def positional : CommandSpec → Option (String → Bool)
  | mk _ _ _ p _ => p

/-- The subcommands that may follow its name. -/
def subcommands : CommandSpec → List CommandSpec
  | mk _ _ _ _ s => s

end CommandSpec

/-- The flag that asks for help. -/
def helpFlag : FlagSpec := { long := "help" }

/-- The flag that asks for the version. -/
def versionFlag : FlagSpec := { long := "version", short := some 'V' }

/-- Something that was given at one level. -/
inductive Given where
  /-- An option, with its value if it had one. -/
  | option (long : String) (value : Option String)
  | flag (long : String)
  | positional (value : String)
  deriving Repr, DecidableEq

/-- What was given at one level, in order. -/
structure Level where
  name : String
  given : List Given
  deriving Repr, DecidableEq

namespace Level

/-- The values given for an option, one for each time. -/
def valuesOf (l : Level) (long : String) : List (Option String) :=
  l.given.filterMap fun
    | .option name value => if name = long then some value else none
    | _ => none

/-- How often a flag was given. -/
def timesOf (l : Level) (long : String) : Nat :=
  l.given.count (.flag long)

/-- The positional arguments. -/
def positionals (l : Level) : List String :=
  l.given.filterMap fun
    | .positional value => some value
    | _ => none

end Level

/-! ## Options -/

/-- Puts the value of an option without its leading equals signs. -/
def attachedValue (cs : List Char) : String :=
  String.ofList (cs.dropWhile (· = '='))

/-- What one argument made of options gives: the options and flags in it, and the option that still
waits for its value. -/
abbrev OptionsRead := List Given × Option OptionSpec

/-- Reads an argument that begins with two dashes. -/
def readLong (c : CommandSpec) (a : List Char) : Except Refusal OptionsRead :=
  let body := a.dropWhile (· = '-')
  let name := String.ofList (body.takeWhile (· ≠ '='))
  let value := if body.contains '=' then some (body.dropWhile (· ≠ '=')) else none
  match c.options.find? (·.long = name) with
  | some o =>
    match value with
    | some v => .ok ([.option name (some (attachedValue v))], none)
    | none => .ok ([], some o)
  | none =>
    if name = helpFlag.long then .error .help
    else if name = versionFlag.long then .error .version
    else
      match c.flags.find? (·.long = name) with
      | some f => .ok ([.flag f.long], none)
      | none => .error .usage

/-- Reads a cluster of letters after a dash. -/
def readCluster (c : CommandSpec) : List Char → Except Refusal OptionsRead
  | [] => .ok ([], none)
  | letter :: rest =>
    match c.options.find? (·.short = some letter) with
    | some o =>
      match rest with
      | [] => .ok ([], some o)
      | _ => .ok ([.option o.long (some (attachedValue rest))], none)
    | none =>
      if versionFlag.short = some letter then .error .version
      else
        match c.flags.find? (·.short = some letter) with
        | some f => (readCluster c rest).map fun r => (.flag f.long :: r.1, r.2)
        | none => .error .usage

/-! ## Levels -/

/-- Whether the positional arguments given are as many as wanted and possible. -/
def positionalsAreValid (c : CommandSpec) (l : Level) : Bool :=
  match c.positional, l.positionals with
  | none, [] => true
  | some accepts, [value] => accepts value
  | _, _ => false

/-- Whether an option was given at most once and with a possible value, its default if it was left
without one. -/
def optionIsValid (l : Level) (o : OptionSpec) : Bool :=
  match l.valuesOf o.long with
  | [] => true
  | [value] => (value <|> o.default).any o.accepts
  | _ => false

/-- Checks what was given at one level. -/
def Level.isValid (c : CommandSpec) (l : Level) : Bool :=
  positionalsAreValid c l && c.options.all (optionIsValid l) &&
    c.flags.all fun f => l.timesOf f.long ≤ 1

/-- Whether the arguments of the subcommand `help` name a path of subcommands. -/
def namesPath : List CommandSpec → List String → Bool
  | _, [] => true
  | subs, a :: rest =>
    match subs.find? (·.name = a) with
    | some c => namesPath c.subcommands rest
    | none => false

/-- The subcommand `help` as a step of its own path. -/
def helpCommand : CommandSpec := .mk "help" [] [] none []

/-- What the subcommand `help` amounts to. -/
def helpRefusal (c : CommandSpec) (rest : List String) : Refusal :=
  if namesPath (helpCommand :: c.subcommands) rest then .help else .usage

/-- Where the reading of a level stands. -/
structure Reading where
  /-- What was given, newest first. -/
  given : List Given := []
  /-- The option that waits for its value. -/
  pending : Option OptionSpec := none
  /-- A lone double dash was met: all else is positional. -/
  trailing : Bool := false

/-- Takes note of an option without a value, if one is waiting. -/
def Reading.settle (r : Reading) : Reading :=
  match r.pending with
  | some o => { r with given := .option o.long none :: r.given, pending := none }
  | none => r

/-- The level that has been read. -/
def Reading.level (r : Reading) (c : CommandSpec) : Level :=
  ⟨c.name, r.settle.given.reverse⟩

/-- What kind of argument comes next. -/
inductive ArgumentKind where
  | doubleDash
  | subcommand (c : CommandSpec)
  | helpSubcommand
  | long
  | cluster
  | value (o : OptionSpec)
  | positional

/-- Says what kind of argument comes next. -/
def Reading.kindOf (r : Reading) (c : CommandSpec) (a : String) : ArgumentKind :=
  let cs := a.toList
  let admits := r.pending.any (·.admitsDashes)
  let isLong := cs.take 2 = ['-', '-'] && !admits
  let isCluster := cs.take 1 = ['-'] && cs.length ≠ 1 && cs.take 2 ≠ ['-', '-'] && !admits
  if r.trailing then .positional
  else if isLong && cs.length = 2 then .doubleDash
  else
    let sub := if r.pending.isNone then c.subcommands.find? (·.name = a) else none
    match sub with
    | some s => .subcommand s
    | none =>
      if r.pending.isNone && a = "help" && !c.subcommands.isEmpty then .helpSubcommand
      else if isLong then .long
      else if isCluster then .cluster
      else
        match r.pending with
        | some o => .value o
        | none => .positional

/-- Takes note of options read from one argument. -/
def Reading.add (r : Reading) (o : OptionsRead) : Reading :=
  let r := r.settle
  { r with given := o.1.reverse ++ r.given, pending := o.2 }

/-- Ends a level: with subcommands there has to be one. -/
def Reading.finish (r : Reading) (c : CommandSpec) (inner : Option (List Level)) :
    Except Refusal (List Level) :=
  if inner.isNone && !c.subcommands.isEmpty then .error .usage
  else if (r.level c).isValid c then .ok (r.level c :: inner.getD [])
  else .error .usage

/-- Reads the arguments of one level and of those inside it. -/
def readLevel (c : CommandSpec) (r : Reading) : List String → Except Refusal (List Level)
  | [] => r.finish c none
  | a :: rest =>
    match r.kindOf c a with
    | .doubleDash => readLevel c { r with trailing := true } rest
    | .subcommand s => do
      let inner ← readLevel s {} rest
      r.finish c (some inner)
    | .helpSubcommand => .error (helpRefusal c rest)
    | .long => do readLevel c (r.add (← readLong c a.toList)) rest
    | .cluster => do readLevel c (r.add (← readCluster c (a.toList.drop 1))) rest
    | .value o =>
      readLevel c { r with given := .option o.long (some a) :: r.given, pending := none } rest
    | .positional =>
      if c.positional.isNone then .error .usage
      else if r.given.any (· matches .positional _) then .error .usage
      else readLevel c { r with given := .positional a :: r.given } rest

/-- Reads the arguments of a program, from the outermost level to the innermost. -/
def CommandSpec.read (c : CommandSpec) (arguments : List String) : Except Refusal (List Level) :=
  readLevel c {} arguments

/-! ## Looking up -/

/-- The value of an option that may be given at any level: the innermost one given, else the
default. -/
def globalValue (o : OptionSpec) (levels : List Level) : String :=
  ((levels.reverse.findSome? fun l =>
    (l.valuesOf o.long).head?.map fun v => v <|> o.default).join <|> o.default).getD ""

/-- Whether a flag was given at any level. -/
def globalFlag (f : FlagSpec) (levels : List Level) : Bool :=
  levels.any fun l => l.timesOf f.long ≠ 0

end Client

end FrontZone
