import TopoSync.Config.Settings
import TopoSync.Files.Opening
import TopoSync.Launch.CommandLine
import TopoSync.Launch.Listening
import TopoSync.Log.Filter

/-!
# Starting the server

Settings are loaded, the options of the command line take precedence over them, and a banner with the
result is logged.  Then the database is opened, the settings are checked and the address is claimed.
The first step that fails ends the start; what was logged before it stays logged.
-/

namespace TopoSync

/-- The files around the server. -/
structure Surroundings where
  read : String → Except FileError Bytes
  openDatabase : String → Except DatabaseError Unit

/-- The files of a disk. -/
def Disk.surroundings (disk : Disk) : Surroundings :=
  ⟨disk.read, disk.openDatabase⟩

/-- A line of output. -/
inductive OutputLine
  | plain (text : String)
  /-- The first line of an event of the server. -/
  | event (level : LogLevel) (target : String) (text : String)
deriving DecidableEq, Repr

/-- Why a server was not made. -/
structure ServerError where
  reason : InvalidSetting
deriving DecidableEq, Repr

/-- The text of a server error. -/
def ServerError.message (e : ServerError) : String :=
  s!"Configuration error: {e.reason.message}"

/-- A server with settings that it can run with. -/
structure Server where
  settings : Settings
  valid : settings.validate = .ok ()
  /-- Whether it accepts connections. -/
  running : Bool := false
  /-- How many sessions are connected. -/
  sessions : Nat := 0

/-- A server that does not run yet. -/
def Server.create (s : Settings) : Except ServerError Server :=
  match h : s.validate with
  | .ok () => .ok { settings := s, valid := h }
  | .error reason => .error ⟨reason⟩

/-- Why the start failed. -/
inductive StartError
  | load (e : LoadError)
  | badAddress
  | database (e : DatabaseError)
  | server (e : ServerError)
  | listen (address : String) (e : ListenError)
deriving DecidableEq, Repr

namespace StartError

/-- The name of the kind of a load error. -/
def kindOf : LoadError → String
  | .malformed => "Parse"
  | _ => "Io"

/-- What is told about the failure. -/
def message : StartError → String
  | load e => s!"Error: {kindOf e}(\"{e.cause}\")"
  | badAddress => "Error: AddrParseError(Ip)"
  | database e => s!"Error: {e.message}"
  | server e => s!"Error: Config(\"{e.reason.message}\")"
  | listen address e => s!"Error: Bind(\"{address}: {e.message}\")"

end StartError

/-- How a start ended. -/
inductive Ending
  /-- The arguments could not be understood. -/
  | misused
  /-- Help or the version was asked for. -/
  | answered
  /-- The program broke off while it read its settings. -/
  | crashed
  | failed (e : StartError)
  | ready (server : Server)

/-- How a start ended, and what was put out before. -/
structure Startup where
  ending : Ending
  output : List OutputLine := []

namespace Startup

/-- The target of the events of the start. -/
def target : String :=
  "netmap_server"

/-- The version of the server. -/
def version : String :=
  "0.1.0"

/-- Spaces that fill a text up to a width. -/
def fill (width : Nat) (text : String) : String :=
  String.ofList (List.replicate (width - text.length) ' ')

/-- A line of the banner with a text at its left side. -/
def leftLine (label text : String) : String :=
  s!"|  {label} {text}{fill 38 text} |"

/-- A line of the banner with a text at its right side. -/
def rightLine (label text : String) : String :=
  s!"|  {label} {fill 38 text}{text} |"

/-- The upper and the lower edge of the banner. -/
def rule : String :=
  "+----------------------------------------------------+"

/-- What is logged about the settings. -/
def banner (s : Settings) : List String :=
  [rule,
    s!"|       Netmap Server v{version}                         |",
    rule,
    leftLine "Bind:    " s.listenAddress,
    leftLine "Database:" s.databasePath,
    rightLine "Sessions:" s!"{s.maxSessions}",
    leftLine "Frames:  " s!"<= {s.maxFrameSize} bytes",
    rule]

/-- A character of an event, written out if a terminal could take it for a command. -/
def visible (c : Char) : List Char :=
  let n := c.toNat
  if n = 7 ∨ n = 8 ∨ n = 12 ∨ n = 27 ∨ n = 127 then
    ['\\', 'x', Numeral.digit (n / 16), Numeral.digit (n % 16)]
  else if 128 ≤ n ∧ n < 160 then ['\\', 'u', '\x7b'] ++ Numeral.digits 16 n ++ ['\x7d']
  else [c]

/-- The text of a line; a carriage return at its end belongs to the end of the line. -/
def lineText (line : List Char) : String :=
  String.ofList (if line.getLast? = some '\r' then line.dropLast else line)

/-- The lines of an event. -/
def eventLines (text : String) : List OutputLine :=
  match ((text.toList.flatMap visible).splitOn '\n').map lineText with
  | [] => []
  | first :: rest => .event .info target first :: rest.map .plain

/-- The lines of events, as far as they are logged. -/
def log (filter : LogFilter) (texts : List String) : List OutputLine :=
  if filter.enables target .info then texts.flatMap eventLines else []

/-- A path in quotes. -/
def quoted (path : String) : String :=
  String.ofList (Json.quote path)

/-- What is logged about the file that settings were loaded from. -/
def source (o : Overrides) : List String :=
  match o.settingsPath with
  | none => []
  | some path => [s!"Loaded config from {quoted path}"]

/-- The settings with the options of the command line in place. -/
def override (s : Settings) (o : Overrides) : Except StartError Settings :=
  let s := { s with
    port := o.port.getD s.port
    databasePath := o.databasePath.getD s.databasePath
    logLevel := o.logLevel.getD s.logLevel
    maxSessions := o.maxSessions.getD s.maxSessions }
  match o.bindAddress with
  | none => .ok s
  | some text =>
      match IpAddress.ofText? text with
      | none => .error .badAddress
      | some address => .ok { s with bindAddress := address }

/-- The settings that the command line asks for. -/
def settings (around : Surroundings) (o : Overrides) : Except StartError Settings :=
  match o.settingsPath with
  | none => override {} o
  | some path =>
      match Settings.load (around.read path) with
      | .error e => .error (.load e)
      | .ok s => override s o

/-- Opens the database, makes the server and claims its address. -/
def prepare (around : Surroundings) (s : Settings) : Ending :=
  match around.openDatabase s.databasePath with
  | .error e => .failed (.database e)
  | .ok () =>
      match Server.create s with
      | .error e => .failed (.server e)
      | .ok server =>
          match s.bindAddress.listenError? with
          | some e => .failed (.listen s.listenAddress e)
          | none => .ready server

/-- Starts a server with the options of the command line. -/
def serve (around : Surroundings) (o : Overrides) : Startup :=
  match settings around o with
  | .error e => ⟨.failed e, []⟩
  | .ok s =>
      match LogFilter.ofText? s.logLevel with
      | none => ⟨.crashed, []⟩
      | some filter => ⟨prepare around s, log filter (source o ++ banner s)⟩

/-- Does what the command line asks for, up to the point where clients could connect. -/
def run (around : Surroundings) (arguments : List String) : Startup :=
  match CommandLine.parse? arguments with
  | none => ⟨.misused, []⟩
  | some .help => ⟨.answered, CommandLine.helpLines.map .plain⟩
  | some .version => ⟨.answered, [.plain (CommandLine.versionText version)]⟩
  | some (.serve o) => serve around o

/-- The status that the program ends with. -/
def exitCode (s : Startup) : UInt32 :=
  match s.ending with
  | .misused => 2
  | .answered => 0
  | .crashed => 101
  | .failed _ => 1
  | .ready _ => 0

end Startup

end TopoSync
