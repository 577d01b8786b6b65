import Mathlib.Tactic.DeprecateTo
import TopoSync.Engine
import TopoSync.Launch.Startup
import TopoSync.Store.Database

/-!
# The program

Starts a server as the command line says and serves one session over the standard streams.  The
tables are kept in memory for as long as the program runs.  The time is that of `Std.Time`.
-/

namespace TopoSync.Program

/-- The kind of a failure to read a file. -/
def fileError : IO.Error → FileError
  | .inappropriateType .. => .isFolder
  | .invalidArgument .. => .nameTooLong
  | _ => .missing

/-- The contents of a file. -/
def readFile (path : String) : IO (Except FileError Bytes) := do
  try
    let contents ← IO.FS.readBinFile path
    return .ok contents.toList
  catch e =>
    return .error (fileError e)

/-- The files that the arguments mention. -/
def surroundings (arguments : List String) : IO Surroundings := do
  match CommandLine.parse? arguments with
  | some (.serve { settingsPath := some path, .. }) =>
      let contents ← readFile path
      return ⟨fun _ => contents, fun _ => .ok ()⟩
  | _ => return ⟨fun _ => .error .missing, fun _ => .ok ()⟩

/-- Writes the frames that were queued. -/
def writeFrames (output : IO.FS.Stream) (frames : List (SessionId × Frame)) : IO Unit := do
  for (_, frame) in frames do
    output.write ⟨frame.bytes.toArray⟩
  output.flush

/-- The session that is served. -/
def soleSession : SessionId := ⟨1⟩

/-- The seconds since the beginning of 1970, none before it. -/
def unixNow : IO UInt32 := do
  let now ← Std.Time.Timestamp.now
  return Clock.reading now.toSecondsSinceUnixEpoch.val.toNat

/-- A clock that was read some times. -/
def readClock (looks : Nat) : IO Clock := do
  let readings ← (List.replicate looks ()).mapM fun _ => unixNow
  return ⟨readings, ← unixNow⟩

/-- Takes bytes from the session for as long as it is connected and sends any. -/
partial def exchange (chunk : USize) (input output : IO.FS.Stream) (e : Engine Database) :
    IO Unit := do
  let bytes := (← input.read chunk).toList
  if !bytes.isEmpty then
    let clock ← readClock (e.completed soleSession bytes).length
    let e := e.receive soleSession bytes clock
    let (frames, router) := e.hub.router.takeSent
    writeFrames output frames
    if router.isRegistered soleSession then
      exchange chunk input output { e with hub := { e.hub with router } }

/-- Serves one session. -/
def serveSession (server : Server) : IO Unit := do
  let start : Engine Database := Engine.start {} server.settings.maxFrameSize.toNat
  exchange (USize.ofNat server.settings.readChunkSize.toNat) (← IO.getStdin) (← IO.getStdout)
    (start.connect soleSession "localhost" .staying)

/-- The text of a line of output. -/
def lineText : OutputLine → String
  | .plain text => text
  | .event level target text => s!"{level.name.toUpper} {target}: {text}"

end TopoSync.Program

open TopoSync Program in
/-- Starts the server and serves it. -/
def main (arguments : List String) : IO UInt32 := do
  let startup := Startup.run (← surroundings arguments) arguments
  match startup.ending with
  | .misused => IO.eprintln "Usage: netmap-server [OPTIONS]"
  | .answered => startup.output.forM fun line => IO.println (lineText line)
  | .crashed => IO.eprintln "The log filter is cut inside of a character"
  | .failed e =>
      startup.output.forM fun line => IO.println (lineText line)
      IO.eprintln e.message
  | .ready server =>
      startup.output.forM fun line => IO.eprintln (lineText line)
      serveSession server
  return startup.exitCode
