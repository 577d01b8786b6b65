import TopoSync.Config.Address
import TopoSync.Config.Json
import TopoSync.Files.Disk
import TopoSync.Wire.Frame

/-!
# Settings

The settings of a server are kept in a JSON file.  A file need not mention every setting; those that
it leaves out have their usual values.  Members with other names are passed over, but a setting may
not be mentioned twice.  A file may also be an array of values in the order of the settings.
-/

namespace TopoSync

/-! The values of the settings that a file leaves out. -/

namespace Usual

def bindAddress : IpAddress :=
  .unspecified

def port : UInt16 :=
  15001

def databasePath : String :=
  "netmap.db"

def maxFrameSize : UInt64 :=
  UInt64.ofNat Frame.defaultMaxSize

def maxSessions : UInt64 :=
  256

def readChunkSize : UInt64 :=
  4096

def tcpNodelay : Bool :=
  true

def logLevel : String :=
  "info"

end Usual

/-- The settings of a server. -/
structure Settings where
  /-- The address that clients connect to. -/
  bindAddress : IpAddress := Usual.bindAddress
  port : UInt16 := Usual.port
  /-- The file that the maps are kept in. -/
  databasePath : String := Usual.databasePath
  /-- The length of the longest frame that is accepted. -/
  maxFrameSize : UInt64 := Usual.maxFrameSize
  /-- How many sessions may be connected at a time. -/
  maxSessions : UInt64 := Usual.maxSessions
  /-- How many bytes are read at a time. -/
  readChunkSize : UInt64 := Usual.readChunkSize
  /-- Whether small frames are sent without delay. -/
  tcpNodelay : Bool := true
  /-- The directives of the log. -/
  logLevel : String := Usual.logLevel
deriving DecidableEq, Repr

/-- What a file says about the settings. -/
structure Draft where
  bindAddress : Option IpAddress := none
  port : Option UInt16 := none
  databasePath : Option String := none
  maxFrameSize : Option UInt64 := none
  maxSessions : Option UInt64 := none
  readChunkSize : Option UInt64 := none
  tcpNodelay : Option Bool := none
  logLevel : Option String := none
deriving DecidableEq, Repr

/-- The settings of a draft, with the usual value of each one that it leaves out. -/
def Draft.settings (d : Draft) : Settings where
  bindAddress := d.bindAddress.getD Usual.bindAddress
  port := d.port.getD Usual.port
  databasePath := d.databasePath.getD Usual.databasePath
  maxFrameSize := d.maxFrameSize.getD Usual.maxFrameSize
  maxSessions := d.maxSessions.getD Usual.maxSessions
  readChunkSize := d.readChunkSize.getD Usual.readChunkSize
  tcpNodelay := d.tcpNodelay.getD Usual.tcpNodelay
  logLevel := d.logLevel.getD Usual.logLevel

/-- Why no settings could be loaded. -/
inductive LoadError
  | unreadable (e : FileError)
  /-- The file is not a text. -/
  | notText
  /-- The text does not stand for settings. -/
  | malformed
deriving DecidableEq, Repr

/-- What a load error is about.  What is wrong with a malformed file is not told. -/
def LoadError.cause : LoadError → String
  | unreadable e => e.message
  | notText => "stream did not contain valid UTF-8"
  | malformed => "malformed settings"

/-- The text of a load error. -/
def LoadError.message : LoadError → String
  | malformed => s!"Parse error: {malformed.cause}"
  | e => s!"I/O error: {e.cause}"

/-- Why a server cannot run with its settings. -/
inductive InvalidSetting
  | portIsZero
  | framesTooShort
  | noSessions
  | noReadChunk
deriving DecidableEq, Repr

/-- The text of an invalid setting. -/
def InvalidSetting.message : InvalidSetting → String
  | portIsZero => "Invalid value: port cannot be 0"
  | framesTooShort => s!"Invalid value: max_frame_size must be at least {Frame.headerSize}"
  | noSessions => "Invalid value: max_sessions cannot be 0"
  | noReadChunk => "Invalid value: read_chunk_size cannot be 0"

namespace Json

/-- A text whose characters are all there. -/
def string? : Json → Option String
  | .text pieces => (Piece.join? pieces).map String.ofList
  | _ => none

/-- A truth value. -/
def bool? : Json → Option Bool
  | .bool b => some b
  | _ => none

/-- A natural number below a limit. -/
def below? (limit : Nat) : Json → Option Nat
  | .number natural => natural.filter fun n => n < limit
  | _ => none

end Json

/-- One of the settings. -/
inductive Setting
  | bindAddress
  | port
  | databasePath
  | maxFrameSize
  | maxSessions
  | readChunkSize
  | tcpNodelay
  | logLevel
deriving DecidableEq, Repr

namespace Setting

/-- The settings in the order in which a file lists them. -/
def all : List Setting :=
  [bindAddress, port, databasePath, maxFrameSize, maxSessions, readChunkSize, tcpNodelay, logLevel]

/-- The name of a setting. -/
def name : Setting → String
  | bindAddress => "bind_address"
  | port => "port"
  | databasePath => "database_path"
  | maxFrameSize => "max_frame_size"
  | maxSessions => "max_sessions"
  | readChunkSize => "read_chunk_size"
  | tcpNodelay => "tcp_nodelay"
  | logLevel => "log_level"

/-- The setting of a name. -/
def ofName? (text : String) : Option Setting :=
  all.find? fun setting => setting.name = text

/-- Gives a setting the value that a file has for it. -/
def assign? (d : Draft) (setting : Setting) (v : Json) : Option Draft :=
  match setting with
  | bindAddress =>
      (v.string?.bind IpAddress.ofText?).map fun address => { d with bindAddress := some address }
  | port => (v.below? 0x10000).map fun n => { d with port := some (UInt16.ofNat n) }
  | databasePath => v.string?.map fun path => { d with databasePath := some path }
  | maxFrameSize =>
      (v.below? 0x10000000000000000).map fun n => { d with maxFrameSize := some (UInt64.ofNat n) }
  | maxSessions =>
      (v.below? 0x10000000000000000).map fun n => { d with maxSessions := some (UInt64.ofNat n) }
  | readChunkSize =>
      (v.below? 0x10000000000000000).map fun n => { d with readChunkSize := some (UInt64.ofNat n) }
  | tcpNodelay => v.bool?.map fun b => { d with tcpNodelay := some b }
  | logLevel => v.string?.map fun text => { d with logLevel := some text }

/-- The value of a setting as a file has it. -/
def value (s : Settings) : Setting → List Char
  | bindAddress => Json.quote s.bindAddress.text
  | port => Numeral.digits 10 s.port.toNat
  | databasePath => Json.quote s.databasePath
  | maxFrameSize => Numeral.digits 10 s.maxFrameSize.toNat
  | maxSessions => Numeral.digits 10 s.maxSessions.toNat
  | readChunkSize => Numeral.digits 10 s.readChunkSize.toNat
  | tcpNodelay => (if s.tcpNodelay then "true" else "false").toList
  | logLevel => Json.quote s.logLevel

theorem mem_all (setting : Setting) : setting ∈ all := by
  cases setting <;> decide

theorem ofName?_name (setting : Setting) : ofName? setting.name = some setting := by
  cases setting <;> decide

end Setting

namespace Settings

/-- The usual settings, with some of them assigned. -/
def ofAssignments? (assignments : List (Setting × Json)) : Option Settings :=
  (assignments.foldlM (fun d a => Setting.assign? d a.1 a.2) {}).map Draft.settings

/-- The members of an object that are settings.  Every name must be a text. -/
def assignments? : List (List Piece × Json) → Option (List (Setting × Json))
  | [] => some []
  | (key, v) :: rest => do
      let name ← Piece.join? key
      let others ← assignments? rest
      match Setting.ofName? (String.ofList name) with
      | some setting => return (setting, v) :: others
      | none => return others

/-- The settings that a JSON value stands for. -/
def ofJson? : Json → Option Settings
  | .object members => do
      let assignments ← assignments? members
      if (assignments.map Prod.fst).Nodup then ofAssignments? assignments else none
  | .array values =>
      if values.length ≤ Setting.all.length then ofAssignments? (Setting.all.zip values) else none
  | _ => none

/-- Reads settings from the bytes of a file. -/
def ofBytes (bytes : Bytes) : Except LoadError Settings :=
  match Utf8.strict? bytes with
  | none => .error .notText
  | some text =>
      match (Json.ofText? text.toList).bind ofJson? with
      | none => .error .malformed
      | some s => .ok s

/-- Loads settings from what was read of a file. -/
def load : Except FileError Bytes → Except LoadError Settings
  | .error e => .error (.unreadable e)
  | .ok bytes => ofBytes bytes

/-- The line of a file that gives a setting its value. -/
def line (s : Settings) (setting : Setting) : List Char :=
  [' ', ' '] ++ Json.quote setting.name ++ [':', ' '] ++ Setting.value s setting

/-- A file that mentions some of the settings. -/
def textOf (s : Settings) (mentioned : List Setting) : String :=
  if mentioned.isEmpty then "\x7b\x7d"
  else
    String.ofList
      (['\x7b', '\n'] ++ [',', '\n'].intercalate (mentioned.map s.line) ++ ['\n', '\x7d'])

/-- A file that mentions every setting. -/
def text (s : Settings) : String :=
  s.textOf Setting.all

/-- The address that clients connect to, with the port. -/
def listenAddress (s : Settings) : String :=
  s!"{s.bindAddress.text}:{s.port}"

/-- Checks that a server can run with the settings. -/
def validate (s : Settings) : Except InvalidSetting Unit :=
  if s.port = 0 then .error .portIsZero
  else if s.maxFrameSize.toNat < Frame.headerSize then .error .framesTooShort
  else if s.maxSessions = 0 then .error .noSessions
  else if s.readChunkSize = 0 then .error .noReadChunk
  else .ok ()

/-- Settings that a server can run with leave room for a port, a frame header, a session and a byte
of input. -/
theorem validate_eq_ok_iff (s : Settings) :
    s.validate = .ok () ↔
      s.port ≠ 0 ∧ Frame.headerSize ≤ s.maxFrameSize.toNat ∧ s.maxSessions ≠ 0 ∧
        s.readChunkSize ≠ 0 := by
  unfold validate
  by_cases port : s.port = 0
  · simp [port]
  · by_cases size : s.maxFrameSize.toNat < Frame.headerSize
    · simp [port, size, Nat.not_le.mpr size]
    · by_cases sessions : s.maxSessions = 0
      · simp [port, size, sessions]
      · by_cases chunk : s.readChunkSize = 0
        · simp [port, size, sessions, chunk]
        · simp [port, size, sessions, chunk, Nat.not_lt.mp size]

end Settings

end TopoSync
