import TopoSync.Text.Numeral

/-!
# The command line

Arguments are read from left to right.  An option takes a value, which is attached to it or is the
next argument; the value is then checked, and no option may be given twice.  Asking for help or for
the version ends the reading, whatever follows.
-/

namespace TopoSync

/-- What the command line says about the settings. -/
structure Overrides where
  port : Option UInt16 := none
  bindAddress : Option String := none
  /-- The file to load settings from. -/
  settingsPath : Option String := none
  databasePath : Option String := none
  logLevel : Option String := none
  maxSessions : Option UInt64 := none
deriving DecidableEq, Repr

/-- What the command line asks for. -/
inductive Invocation
  | help
  | version
  | serve (overrides : Overrides)
deriving DecidableEq, Repr

/-- An option that takes a value. -/
inductive ValueOption
  | port
  | bind
  | config
  | database
  | logLevel
  | maxSessions
deriving DecidableEq, Repr

namespace ValueOption

/-- Every option that takes a value. -/
def all : List ValueOption :=
  [port, bind, config, database, logLevel, maxSessions]

/-- The name behind two hyphens. -/
def name : ValueOption → String
  | port => "port"
  | bind => "bind"
  | config => "config"
  | database => "database"
  | logLevel => "log-level"
  | maxSessions => "max-sessions"

/-- The letter behind one hyphen. -/
def letter? : ValueOption → Option Char
  | port => some 'p'
  | bind => some 'b'
  | config => some 'c'
  | database => some 'd'
  | _ => none

/-- The option of a name. -/
def ofName? (name : List Char) : Option ValueOption :=
  all.find? fun o => o.name.toList = name

/-- The option of a letter. -/
def ofLetter? (letter : Char) : Option ValueOption :=
  all.find? fun o => o.letter? = some letter

/-- A natural number below a limit, which may have a plus sign. -/
def below? (limit : Nat) (text : String) : Option Nat :=
  let digits := text.toList
  (Numeral.value? 10 (if digits.head? = some '+' then digits.tail else digits)).filter fun n =>
    n < limit

/-- A port number.  Zero may also have a minus sign. -/
def port? (text : String) : Option UInt16 :=
  match text.toList with
  | '-' :: digits => (Numeral.value? 10 digits).bind fun n => if n = 0 then some 0 else none
  | _ => (below? 0x10000 text).map UInt16.ofNat

/-- A path, which has at least one character. -/
def path? (text : String) : Option String :=
  if text.isEmpty then none else some text

/-- Gives an option its value, if it has none yet and the value fits. -/
def assign? (o : Overrides) (valueOption : ValueOption) (text : String) : Option Overrides :=
  match valueOption with
  | port =>
      if o.port.isSome then none else (port? text).map fun n => { o with port := some n }
  | bind => if o.bindAddress.isSome then none else some { o with bindAddress := some text }
  | config =>
      if o.settingsPath.isSome then none
      else (path? text).map fun path => { o with settingsPath := some path }
  | database =>
      if o.databasePath.isSome then none
      else (path? text).map fun path => { o with databasePath := some path }
  | logLevel => if o.logLevel.isSome then none else some { o with logLevel := some text }
  | maxSessions =>
      if o.maxSessions.isSome then none
      else (below? 0x10000000000000000 text).map fun n => { o with maxSessions := some (UInt64.ofNat n) }

end ValueOption

namespace CommandLine

/-- An argument by its form. -/
inductive Argument
  /-- A name behind two hyphens, with the value behind an equals sign. -/
  | long (name : List Char) (value : Option (List Char))
  /-- A letter behind one hyphen, with what is attached to it. -/
  | short (letter : Char) (attached : List Char)
  /-- Two hyphens: no options follow. -/
  | terminator
  | plain
deriving DecidableEq, Repr

/-- The form of an argument.  A single hyphen is plain. -/
def classify (argument : String) : Argument :=
  match argument.toList with
  | ['-', '-'] => .terminator
  | '-' :: '-' :: rest =>
      match rest.span (· != '=') with
      | (name, []) => .long name none
      | (name, _ :: value) => .long name (some value)
  | '-' :: letter :: attached => .short letter attached
  | _ => .plain

/-- An option that an argument names, with the value that is attached to it. -/
inductive Named
  | help
  | version
  | option (o : ValueOption) (value : Option String)
deriving DecidableEq, Repr

/-- The option that a name and an attached value stand for. -/
def ofLong? (name : List Char) (value : Option (List Char)) : Option Named :=
  if name = "help".toList then if value.isSome then none else some .help
  else if name = "version".toList then if value.isSome then none else some .version
  else (ValueOption.ofName? name).map fun o => .option o (value.map String.ofList)

/-- The option that a letter and what is attached to it stand for. -/
def ofShort? (letter : Char) (attached : List Char) : Option Named :=
  match letter, attached with
  | 'h', _ => some .help
  | 'V', _ => some .version
  | letter, [] => (ValueOption.ofLetter? letter).map fun o => .option o none
  | letter, '=' :: value =>
      (ValueOption.ofLetter? letter).map fun o => .option o (some (String.ofList value))
  | letter, value =>
      (ValueOption.ofLetter? letter).map fun o => .option o (some (String.ofList value))

/-- The option that an argument stands for. -/
def named? : Argument → Option Named
  | .long name value => ofLong? name value
  | .short letter attached => ofShort? letter attached
  | .terminator => none
  | .plain => none

/-- Reads the arguments that are left. -/
def parseFrom? (o : Overrides) : List String → Option Invocation
  | [] => some (.serve o)
  | argument :: rest =>
      if classify argument = .terminator then
        if rest.isEmpty then some (.serve o) else none
      else
        match named? (classify argument) with
        | none => none
        | some .help => some .help
        | some .version => some .version
        | some (.option valueOption (some value)) =>
            (valueOption.assign? o value).bind fun o => parseFrom? o rest
        | some (.option valueOption none) =>
            match rest with
            | [] => none
            | value :: rest =>
                if classify value = .plain then
                  (valueOption.assign? o value).bind fun o => parseFrom? o rest
                else none

/-- Reads the arguments of the command line; none if they cannot be understood. -/
def parse? (arguments : List String) : Option Invocation :=
  parseFrom? {} arguments

/-- What asking for the version answers. -/
def versionText (version : String) : String :=
  s!"netmap-server {version}"

/-- What asking for help answers. -/
def helpLines : List String :=
  ["Synchronization server for the shared network-map editor",
    "",
    "Usage: netmap-server [OPTIONS]",
    "",
    "Options:",
    "  -p, --port <PORT>                  TCP port to listen on",
    "  -b, --bind <BIND>                  Bind address (0.0.0.0 for all interfaces)",
    "  -c, --config <CONFIG>              Configuration file (JSON format)",
    "  -d, --database <DATABASE>          SQLite database file " ++
      "(\":memory:\" for a throwaway database)",
    "      --log-level <LOG_LEVEL>        Log filter (a level such as `debug`, or directives like " ++
      "`netmap_server=trace,info`)",
    "      --max-sessions <MAX_SESSIONS>  Maximum number of connected sessions",
    "  -h, --help                         Print help",
    "  -V, --version                      Print version"]

end CommandLine

end TopoSync
