import TopoSync.Clock
import TopoSync.Hub.Maps
import TopoSync.Hub.Nodes
import TopoSync.Wire.Request

/-!
# Answering requests

A frame is answered in three steps: its command is looked up, its payload is read, and the request is
applied to the hub.  A frame that fails a step is rejected and has no further effect.
-/

namespace TopoSync

/-- Why a frame was rejected. -/
inductive Rejection
  | unknownCommand (code : UInt32)
  /-- The frame is shorter than any request of its command. -/
  | tooShort (command : Command) (length : Nat)
  | malformed (command : Command) (reason : Truncated)
  | refused (command : Command) (reason : Refusal)
deriving DecidableEq, Repr

namespace Hub

variable {σ : Type}

/-- The outcome without its value. -/
def dropValue {α : Type} (o : Outcome σ α) : Outcome σ Unit :=
  (o.1.map fun _ => (), o.2)

/-- Notes the name that a session logs in with. -/
def logIn (h : Hub σ) (session : SessionId) (login : String) : Outcome σ Unit :=
  if h.router.isRegistered session then
    (.ok (), { h with router := h.router.updateSession session fun s => { s with login } })
  else (.error (.unknownSession session), h)

/-- Forgets a placeholder that a session has replaced by the permanent number. -/
def acknowledge (α : Type) [MapElement α] (h : Hub σ) (session : SessionId)
    (old new : ElementId) : Outcome σ Unit :=
  match h.router.session? session with
  | none => (.error (.unknownSession session), h)
  | some s =>
      match (MapElement.placeholders α s).erase old new with
      | .error reason => (.error (.badPlaceholder reason), h)
      | .ok ids =>
          let router := h.router.updateSession session fun s =>
            MapElement.withPlaceholders α s ids
          (.ok (), { h with router })

variable [Store σ]

/-- Sends a session the list of maps, without the reserved one.  A list that cannot be read is not
answered. -/
def sendMapList (h : Hub σ) (session : SessionId) : Hub σ :=
  match Store.listMaps h.store with
  | (.error _, store) => { h with store }
  | (.ok entries, store) =>
      notify { h with store } session (.mapList (entries.filter fun e => e.id ≠ 0))

/-- Does what a session asks for.  `now` is the time at which a lock would be taken. -/
def apply (h : Hub σ) (session : SessionId) (now : UInt32) : Request → Outcome σ Unit
  | .login login _ => h.logIn session login
  | .getMapList => (.ok (), h.sendMapList session)
  | .openMap map => h.openMap session map
  | .closeMap map => h.closeMap session map
  | .addSymbol map id x y => dropValue (h.addSymbol session map id x y)
  | .renameSymbol _ old new => h.acknowledge Symbol session old new
  | .deleteSymbol map id => dropValue (h.deleteSymbol session map id)
  | .translateSymbol map id dx dy => h.translateSymbol session map id dx dy
  | .addConnection map id sym0 sym1 => dropValue (h.addConnection session map id sym0 sym1)
  | .renameConnection _ old new => h.acknowledge Connection session old new
  | .deleteConnection map id => dropValue (h.deleteConnection session map id)
  | .openNode node => h.openNode session node
  | .closeNode node => h.closeNode session node
  | .setNode node fields => h.setFields session node fields
  | .lockNode node => h.lockNode session node now
  | .unlockNode node => h.unlockNode session node
  | .unsupported _ => (.ok (), h)

/-- Answers a complete frame of a session. -/
def answerFrame (h : Hub σ) (session : SessionId) (now : UInt32) (frame : Bytes) :
    Except Rejection Unit × Hub σ :=
  match Command.ofCode? (Frame.codeWord frame) with
  | none => (.error (.unknownCommand (Frame.codeWord frame)), h)
  | some command =>
      if frame.length < command.minFrameSize then (.error (.tooShort command frame.length), h)
      else
        match Request.decode command frame with
        | .error reason => (.error (.malformed command reason), h)
        | .ok request =>
            match h.apply session now request with
            | (.error reason, h) => (.error (.refused command reason), h)
            | (.ok (), h) => (.ok (), h)

/-- Answers frames of a session one after the other, each at its own time. -/
def answerFrames (h : Hub σ) (session : SessionId) (clock : Clock) (frames : List Bytes) : Hub σ :=
  (clock.stamp frames).foldl (fun h timed => (h.answerFrame session timed.1 timed.2).2) h

theorem answerFrames_append (h : Hub σ) (session : SessionId) (clock : Clock)
    (first rest : List Bytes) :
    h.answerFrames session clock (first ++ rest) =
      (h.answerFrames session clock first).answerFrames session (clock.after first.length) rest := by
  rw [answerFrames, Clock.stamp_append, List.foldl_append]
  rfl

/-- One frame among others is answered on the hub that those before it leave, and those after it on the
hub that it leaves. -/
theorem answerFrames_among (h : Hub σ) (session : SessionId) (clock : Clock)
    (first : List Bytes) (frame : Bytes) (rest : List Bytes) :
    h.answerFrames session clock (first ++ frame :: rest) =
      ((h.answerFrames session clock first).answerFrame session (clock.after first.length).now
        frame).2.answerFrames session (clock.after (first.length + 1)) rest := by
  rw [answerFrames_append, ← Clock.after_after]
  rfl

/-- With one reading of the clock left out, frames meet the readings that they would have met with one
more frame among them. -/
theorem answerFrames_without (h : Hub σ) (session : SessionId) (clock : Clock)
    (first rest : List Bytes) :
    h.answerFrames session (clock.without first.length) (first ++ rest) =
      (h.answerFrames session clock first).answerFrames session (clock.after (first.length + 1))
        rest := by
  rw [answerFrames, Clock.stamp_without, List.foldl_append]
  rfl

end Hub

end TopoSync
