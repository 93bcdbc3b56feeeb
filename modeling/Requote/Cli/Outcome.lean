import Requote.Cli.Arguments
import Requote.Diff.Hunk
import Requote.Document.Listing
import Requote.Glob
import Requote.Text.Colour
import Requote.Toml.Reader

/-!
# Outcomes of runs

A run takes its arguments, standard input and the files as they are, and gives an exit code, two
output texts and the files as they are afterwards. Nothing else changes.
-/

namespace Requote.Cli

/-- What a run comes to. -/
structure Outcome where
  exit   : Nat
  stdout : Text
  stderr : Text
  files  : Files

/-- Why a run fails. -/
inductive Error where
  | file (label : Text) (error : FileError)
  | configSyntax (path : Text)
  | configFault (path : Text) (fault : Config.Fault)
  | conversion (label : Text) (failure : Failure)
  | unsupported (path : Text)
  | pattern (error : Glob.PatternError)
  | search (error : Glob.ReadError)
  | incomplete (failed : Nat)

/-- The error in words. -/
def Error.message : Error → Text
  | file label e          => label ++ ": ".toList ++ e.message
  | configSyntax path     => path ++ ": invalid configuration: TOML parse error".toList
  | configFault path f    => path ++ ": invalid configuration: ".toList ++ f.message
  | conversion label f    => label ++ ": ".toList ++ f.message?.getD []
  | unsupported path      => path ++ ": language not supported".toList
  | pattern e             => "invalid pattern: ".toList ++ e.message
  | search e              => e.message
  | incomplete failed     => Text.ofNat failed ++ " file(s) could not be read".toList

/-- The exit code for an error. A failure that cannot be put into words has one of its own. -/
def Error.exit : Error → Nat
  | conversion _ f => if f.message?.isSome then 2 else 101
  | _              => 2

/-! ### The log -/

/-- The line that shows an error. -/
def errorLine (e : Error) : Text :=
  Text.bold (Text.coloured .red "error".toList) ++ ": ".toList ++ e.message ++ ['\n']

/-- Whether a line of the log is shown: warnings from the first degree on, all from the second. -/
def isShown (verbosity : Nat) (level : Level) : Bool :=
  match level with
  | .warn  => 1 ≤ verbosity
  | .debug => 2 ≤ verbosity

/-- The line that shows a line of the log. -/
def recordLine (r : Record) : Text :=
  (match r.level with
    | .warn  => Text.bold (Text.coloured .yellow "warn".toList)
    | .debug => Text.coloured .blue "debug".toList)
    ++ ": ".toList ++ r.message ++ ['\n']

/-- The shown part of the log. -/
def logText (verbosity : Nat) (records : List Record) : Text :=
  (records.filter fun r => isShown verbosity r.level).flatMap recordLine

/-- A value, or an error, with the log on the way to it. -/
structure Logged (α : Type) where
  records : List Record
  result  : Except Error α

/-! ### Reading -/

/-- The name of the file with the settings. -/
def configFile : Text := "esquotes.toml".toList

/-- The text of the file at a path. -/
def readFile (files : Files) (path : Text) : Except Error Text :=
  (files.read path).mapError (.file path)

/-- The text of standard input. -/
def readInput (stdin : ByteArray) : Except Error Text :=
  match Text.ofBytes? stdin with
  | some text => .ok text
  | none      => .error (.file "stdin".toList .notText)

/-- The configuration in a text. -/
def readConfig (path text : Text) : Except Error Config :=
  match Toml.config? text with
  | none        => .error (.configSyntax path)
  | some config =>
    match config.fault? with
    | some fault => .error (.configFault path fault)
    | none       => .ok config

/-- The configuration of a run: that of the named file, or of the usual one if there is one. -/
def loadConfig (files : Files) (path? : Option Text) : Logged Config :=
  let path := path?.getD configFile
  match files.read path with
  | .error e =>
    if path?.isNone && e = .notFound then
      ⟨[⟨.debug, "no ".toList ++ configFile ++ " found, using defaults".toList⟩], .ok {}⟩
    else
      ⟨[], .error (.file path e)⟩
  | .ok text =>
    match readConfig path text with
    | .error e   => ⟨[], .error e⟩
    | .ok config => ⟨[⟨.debug, "loaded configuration from ".toList ++ path⟩], .ok config⟩

/-! ### Conversions -/

/-- A text before and after its conversion. -/
structure Change where
  label  : Text
  before : Text
  after  : Text

/-- Where the text of a conversion comes from, and what it is. -/
def source (config : Config) (stdin : ByteArray) (files : Files) (c : Conversion) :
    Except Error (Text × Text) :=
  match c.file? with
  | none      => do return ("stdin".toList, ← readInput stdin)
  | some path =>
    if config.supports path then do return (path, ← readFile files path)
    else .error (.unsupported path)

/-- Converts the string at the cursor. -/
def change (config : Config) (stdin : ByteArray) (files : Files) (c : Conversion) :
    Logged Change :=
  match source config stdin files c with
  | .error e            => ⟨[], .error e⟩
  | .ok (label, before) =>
    match Command.cursorAt before c.line c.column with
    | .error f   => ⟨[], .error (.conversion label f)⟩
    | .ok offset =>
      let converted := c.command.convert (c.style?.getD config.style) before offset
      ⟨Command.records before converted,
        match converted with
        | .ok after => .ok ⟨label, before, after⟩
        | .error f  => .error (.conversion label f)⟩

/-- What becomes of a change: it is checked, shown or written. -/
def present (c : Conversion) (log : Text) (files : Files) (change : Change) : Outcome :=
  let changed := change.before ≠ change.after
  match c.mode, c.file? with
  | .check, _ =>
    if changed then ⟨1, [], log ++ change.label ++ ": would convert\n".toList, files⟩
    else ⟨0, [], log, files⟩
  | .diff, _           => ⟨0, Diff.render change.label change.before change.after, log, files⟩
  | .write, some path  => ⟨0, [], log, if changed then files.write path change.after else files⟩
  | .write, none       => ⟨0, change.after, log, files⟩

/-! ### Listings -/

/-- The supported files that patterns find. A directory that cannot be read ends the search. -/
def expand (config : Config) (files : Files) : List Text → Logged (List Text)
  | []                  => ⟨[], .ok []⟩
  | pattern :: patterns =>
    match Glob.find files pattern with
    | .error e    => ⟨[], .error (.pattern e)⟩
    | .ok finding =>
      let supported := finding.paths.filter config.supports
      let skipped := (finding.paths.filter fun p => !config.supports p).map fun p =>
        (⟨.debug, "skipping ".toList ++ p ++ ": language not supported".toList⟩ : Record)
      match finding.error? with
      | some e => ⟨skipped, .error (.search e)⟩
      | none   =>
        let missing : List Record :=
          if supported.isEmpty then
            [⟨.warn,
              "pattern ".toList ++ Text.quoted pattern ++ " matched no supported files".toList⟩]
          else
            []
        let rest := expand config files patterns
        ⟨skipped ++ missing ++ rest.records, rest.result.map (supported ++ ·)⟩

/-- The log of reading a source text. -/
def readingRecords (source : Text) : List Record :=
  (Document.read source).events.map (Event.record source.lines)

/-- The listing of a file under its name. -/
def listFile (path source : Text) : Text :=
  Text.bold ("==> ".toList ++ path ++ " <==".toList) ++ ['\n'] ++ Document.listing source ++ ['\n']

/-- Lists the targets of files. Files that cannot be read are told after the others are listed. -/
def listFiles (verbosity : Nat) (records : List Record) (files : Files) (paths : List Text) :
    Outcome :=
  let readings := paths.map fun path => (path, readFile files path)
  let listed := readings.filterMap fun (path, r) => r.toOption.map fun source => (path, source)
  let errors := readings.filterMap fun (_, r) =>
    match r with
    | .ok _    => none
    | .error e => some e
  let records := records ++ listed.flatMap fun (_, source) => readingRecords source
  let failed : List Error := if errors.isEmpty then [] else [.incomplete errors.length]
  { exit   := if errors.isEmpty then 0 else 2
    stdout := listed.flatMap fun (path, source) => listFile path source
    stderr := logText verbosity records ++ (errors ++ failed).flatMap errorLine
    files }

/-! ### Runs -/

/-- A run that fails changes no file and writes nothing but the log and the error. -/
def fail (log : Text) (files : Files) (e : Error) : Outcome :=
  ⟨e.exit, [], log ++ errorLine e, files⟩

/-- Runs an action with a configuration. `records` is the log so far. -/
def perform (verbosity : Nat) (records : List Record) (config : Config) (stdin : ByteArray)
    (files : Files) : Action → Outcome
  | .convert c =>
    let changed := change config stdin files c
    let log := logText verbosity (records ++ changed.records)
    match changed.result with
    | .ok change => present c log files change
    | .error e   => fail log files e
  | .list [] =>
    match readInput stdin with
    | .error e   => fail (logText verbosity records) files e
    | .ok source =>
      ⟨0, Document.listing source, logText verbosity (records ++ readingRecords source), files⟩
  | .list patterns =>
    let found := expand config files patterns
    let records := records ++ found.records
    match found.result with
    | .error e  => fail (logText verbosity records) files e
    | .ok paths => listFiles verbosity records files paths

/-- Runs what arguments ask for. -/
def run (arguments : Arguments) (stdin : ByteArray) (files : Files) : Outcome :=
  let loaded := loadConfig files arguments.config?
  match loaded.result with
  | .error e   => fail (logText arguments.verbosity loaded.records) files e
  | .ok config => perform arguments.verbosity loaded.records config stdin files arguments.action

/-- The version of the program. -/
def versionText : Text := "esquotes 0.3.0\n".toList

/-- How the program is used. -/
def helpText : Text :=
  ("Convert JavaScript and TypeScript strings between quote styles\n\n"
    ++ "Usage: esquotes [OPTIONS] <COMMAND>\n\n"
    ++ "Commands:\n"
    ++ "  to-template  Turn the quoted string at the cursor into a template string\n"
    ++ "  to-normal    Turn the template string at the cursor into a quoted string\n"
    ++ "  toggle       Swap single and double quotes on the string at the cursor\n"
    ++ "  targets      Print the string targets found in files\n"
    ++ "  help         Print this message\n\n"
    ++ "Options:\n"
    ++ "      --config <CONFIG>  Configuration file (defaults to ./esquotes.toml when present)\n"
    ++ "  -v, --verbose...       Log to stderr (-v for warnings, -vv for debug output)\n"
    ++ "  -h, --help             Print help\n"
    ++ "  -V, --version          Print version\n").toList

end Requote.Cli
