import Requote.Command

/-!
# Command line arguments

What the arguments of a run ask for. Options may stand before the name of the command and after it.
Where an option is given in both places, the one after the name counts.
-/

namespace Requote.Cli

/-- What becomes of a conversion. -/
inductive Mode where
  /-- It is written to where the source came from. -/
  | write
  /-- Only whether it would change anything is told. -/
  | check
  /-- Its difference to the source is shown. -/
  | diff
deriving DecidableEq, Repr

/-- A conversion of a file, or of standard input if no file is named. -/
structure Conversion where
  command : Command
  style?  : Option QuoteStyle
  file?   : Option Text
  line    : Nat
  column  : Nat
  mode    : Mode
deriving Repr

/-- What a run does. -/
inductive Action where
  | convert (conversion : Conversion)
  /-- Lists the targets of the files that patterns find, or of standard input. -/
  | list (patterns : List Text)
deriving Repr

/-- What the arguments ask for. -/
structure Arguments where
  action    : Action
  config?   : Option Text
  verbosity : Nat
deriving Repr

/-- Whether a run reads standard input. -/
def Arguments.readsInput (a : Arguments) : Bool :=
  match a.action with
  | .convert c     => c.file?.isNone
  | .list patterns => patterns.isEmpty

/-- What becomes of an invocation before anything is run. -/
inductive Invocation where
  | run (arguments : Arguments)
  | version
  | help
  | misuse

/-! ### Options -/

/-- A piece of the command line. -/
inductive Item where
  | flag (name : Text)
  | option (name value : Text)
  | positional (value : Text)

/-- Why reading the command line stops. -/
inductive Stop where
  | version
  | help
  | misuse

/-- The options that are known in some place. -/
structure Options where
  flags       : List Text
  /-- The options with a value, each with the values it takes. -/
  valued      : List (Text × (Text → Bool))
  /-- Whether a value without an option is taken, given the number of those before it. -/
  positional  : Nat → Text → Bool
  /-- Whether the version can be asked for. -/
  versioned   : Bool := false

/-- The flag that may be repeated. -/
def repeatable : Text := "verbose".toList

/-- The name of a flag with one letter. -/
def shortName? : Char → Option Text
  | 'v' => some "verbose".toList
  | 'h' => some "help".toList
  | 'V' => some "version".toList
  | _   => none

namespace Options

/-- Takes a flag. Help and version end the reading, and only one flag may be repeated. -/
def takeFlag (o : Options) (seen : List Text) (name : Text) : Except Stop Item :=
  if name = "help".toList then
    .error .help
  else if name = "version".toList && o.versioned then
    .error .version
  else if o.flags.contains name && (name = repeatable || !seen.contains name) then
    .ok (.flag name)
  else
    .error .misuse

/-- Takes an option with a value, which may be given once. -/
def takeOption (o : Options) (seen : List Text) (name value : Text) : Except Stop Item :=
  match o.valued.lookup name with
  | some accepts =>
    if accepts value && !seen.contains name then .ok (.option name value) else .error .misuse
  | none => .error .misuse

/-- Takes a value without an option. -/
def takePositional (o : Options) (count : Nat) (value : Text) : Except Stop Item :=
  if o.positional count value then .ok (.positional value) else .error .misuse

/-- Takes flags of one letter each. -/
def takeShort (o : Options) (seen : List Text) : Text → Except Stop (List Item)
  | []     => .ok []
  | c :: t => do
    match shortName? c with
    | some name => return (← o.takeFlag seen name) :: (← o.takeShort seen t)
    | none      => .error .misuse

/-- The name of a long option and the value behind its equals sign. -/
def splitValue (t : Text) : Text × Option Text :=
  match t.dropWhile (· ≠ '=') with
  | []         => (t, none)
  | _ :: value => (t.takeWhile (· ≠ '='), some value)

/-- Whether an argument can be the value of an option in front of it. -/
def isValue (arg : Text) : Bool :=
  arg.head? ≠ some '-' || arg = ['-']

/-- Reads arguments to their end. `seen` holds the names of the options read so far, and `count` the
number of values without an option. -/
def read (o : Options) (seen : List Text) (count : Nat) : List Text → Except Stop (List Item)
  | []          => .ok []
  | arg :: args =>
    match arg with
    | ['-', '-'] => rest o count args
    | '-' :: '-' :: long =>
      match splitValue long with
      | (name, some value) => do
        return (← o.takeOption seen name value) :: (← o.read (name :: seen) count args)
      | (name, none) =>
        if (o.valued.lookup name).isSome then
          match args with
          | []            => .error .misuse
          | value :: args => do
            if !isValue value then throw .misuse
            return (← o.takeOption seen name value) :: (← o.read (name :: seen) count args)
        else do
          return (← o.takeFlag seen name) :: (← o.read (name :: seen) count args)
    | '-' :: c :: short => do
      return (← o.takeShort seen (c :: short)) ++ (← o.read seen count args)
    | value => do
      return (← o.takePositional count value) :: (← o.read seen (count + 1) args)
where
  /-- Reads arguments that are all values. -/
  rest (o : Options) (count : Nat) : List Text → Except Stop (List Item)
    | []            => .ok []
    | value :: args => do
      return (← o.takePositional count value) :: (← rest o (count + 1) args)

end Options

/-! ### Values -/

/-- The number that digits make, after a plus sign or none. It must fit 64 bits. -/
def readNumber? (t : Text) : Option Nat :=
  let digits := if t.head? = some '+' then t.tail else t
  if digits.isEmpty || !digits.all Char.isDigit then
    none
  else
    let n := digits.foldl (fun n c => 10 * n + (c.toNat - '0'.toNat)) 0
    if n < Nat.pow 2 64 then some n else none

/-- Whether a value can be a path. -/
def isPath (t : Text) : Bool :=
  !t.isEmpty

/-- The value of an option. -/
def valueOf? (items : List Item) (name : Text) : Option Text :=
  items.findSome? fun
    | .option n value => if n = name then some value else none
    | _               => none

/-- How often a flag is given. -/
def countOf (items : List Item) (name : Text) : Nat :=
  items.countP fun
    | .flag n => n = name
    | _       => false

/-- Whether a flag is given. -/
def hasFlag (items : List Item) (name : Text) : Bool :=
  0 < countOf items name

/-- The values without an option. -/
def positionals (items : List Item) : List Text :=
  items.filterMap fun
    | .positional value => some value
    | _                 => none

/-! ### The places of options -/

/-- The options in front of the name of the command. -/
def outerOptions : Options where
  flags      := ["verbose".toList]
  valued     := [("config".toList, isPath)]
  positional := fun _ _ => false
  versioned  := true

/-- The options of a conversion. -/
def convertOptions (command : Command) : Options where
  flags      := ["stdin", "check", "diff", "verbose"].map String.toList
  valued     :=
    [("config".toList, isPath), ("line".toList, fun t => (readNumber? t).isSome),
      ("column".toList, fun t => (readNumber? t).isSome)]
      ++ if command = .toNormal then
        [("quote".toList, fun t => (QuoteStyle.ofName? t).isSome)]
      else
        []
  positional := fun count value => count = 0 && isPath value

/-- The options of a listing. -/
def listOptions : Options where
  flags      := ["verbose".toList]
  valued     := [("config".toList, isPath)]
  positional := fun _ _ => true

/-- The conversion that items ask for. The cursor is needed; a file excludes standard input, and a
check excludes a difference. -/
def conversion? (command : Command) (items : List Item) : Option Conversion := do
  let line ← (valueOf? items "line".toList).bind readNumber?
  let column ← (valueOf? items "column".toList).bind readNumber?
  let check := hasFlag items "check".toList
  let diff := hasFlag items "diff".toList
  let file? := (positionals items).head?
  if (check && diff) || (file?.isSome && hasFlag items "stdin".toList) then none
  return {
    command, file?, line, column
    style? := (valueOf? items "quote".toList).bind QuoteStyle.ofName?
    mode   := if check then .check else if diff then .diff else .write }

/-- The action that the arguments after the name of a command ask for, and the items they hold. -/
def action (name : Text) (args : List Text) : Except Stop (Action × List Item) := do
  match Command.ofName? name with
  | some command =>
    let items ← (convertOptions command).read [] 0 args
    match conversion? command items with
    | some c => return (.convert c, items)
    | none   => throw .misuse
  | none =>
    if name = "targets".toList then
      let items ← listOptions.read [] 0 args
      return (.list (positionals items), items)
    else
      throw .misuse

/-- Whether a text is the name of a command. -/
def isCommandName (t : Text) : Bool :=
  (Command.ofName? t).isSome || t = "targets".toList

/-- Splits arguments at the first that is neither an option nor the value of one. -/
def splitCommand : List Text → List Text × Option (Text × List Text)
  | []          => ([], none)
  | arg :: args =>
    if arg = "--config".toList then
      match args with
      | value :: args =>
        if Options.isValue value then
          let (outer, command) := splitCommand args
          (arg :: value :: outer, command)
        else
          (arg :: value :: args, none)
      | [] => ([arg], none)
    else if Options.isValue arg then
      ([], some (arg, args))
    else if arg = ['-', '-'] then
      (arg :: args, none)
    else
      let (outer, command) := splitCommand args
      (arg :: outer, command)

/-- Reads the arguments of a run. -/
def readArguments (args : List Text) : Except Stop Arguments := do
  let (outer, command) := splitCommand args
  let outerItems ← outerOptions.read [] 0 outer
  match command with
  | none              => throw .misuse
  | some (name, rest) =>
    if name = "help".toList then
      throw (if rest.isEmpty || (rest.length = 1 && rest.all isCommandName) then .help else .misuse)
    let (action, items) ← action name rest
    let inner := countOf items repeatable
    return {
      action
      config?   := (valueOf? items "config".toList).or (valueOf? outerItems "config".toList)
      verbosity := if 0 < inner then inner else countOf outerItems repeatable }

/-- What arguments ask for. -/
def Invocation.ofArguments (args : List Text) : Invocation :=
  match readArguments args with
  | .ok arguments    => .run arguments
  | .error .version  => .version
  | .error .help     => .help
  | .error .misuse   => .misuse

end Requote.Cli
