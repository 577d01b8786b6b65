import TopoSync.Placeholders
import TopoSync.Roster
import TopoSync.Wire.Frame

/-!
# Sessions

A session is one connected editor: the bytes received from it and not yet understood, its two tables
of placeholders, and the reader of the queue of frames that go out to it.  That reader may go away
at any time; from then on nothing can be queued.
-/

namespace TopoSync

/-- Whoever takes the frames off an outbound queue. -/
inductive QueueReader
  /-- Takes every frame. -/
  | staying
  /-- Goes away after this many more frames. -/
  | leaving (after : Nat)
deriving DecidableEq, Repr

namespace QueueReader

/-- A reader that is gone. -/
def gone : QueueReader := leaving 0

/-- The reader after one more frame, if it still takes one. -/
def accept? : QueueReader → Option QueueReader
  | staying => some staying
  | leaving 0 => none
  | leaving (after + 1) => some (leaving after)

end QueueReader

/-- A frame length that cannot be accepted: the receive buffer is beyond recovery. -/
structure FramingError where
  length : Nat
  maxSize : Nat
deriving DecidableEq, Repr

/-- The text of a framing error. -/
def FramingError.message (e : FramingError) : String :=
  s!"declared frame length {e.length} outside 8..={e.maxSize}"

/-- One connected editor. -/
structure Session where
  id : SessionId
  /-- The address it connected from. -/
  host : String
  /-- The name it logged in with, empty before that. -/
  login : String := ""
  /-- Bytes received and not yet understood. -/
  inbound : Bytes := []
  /-- Whoever takes its frames. -/
  reader : QueueReader := .staying
  symbolIds : Placeholders := ⟨"symbol", ∅⟩
  connectionIds : Placeholders := ⟨"connection", ∅⟩
deriving DecidableEq, Repr

namespace Session

/-- The session with more bytes received. -/
def pushBytes (s : Session) (bytes : Bytes) : Session :=
  { s with inbound := s.inbound ++ bytes }

/-- How many bytes wait in the receive buffer. -/
def buffered (s : Session) : Nat :=
  s.inbound.length

/-- Takes the next complete frame off the receive buffer. -/
def nextFrame (s : Session) (maxSize : Nat) : Except FramingError (Option (Bytes × Session)) :=
  match Frame.inspect s.inbound maxSize with
  | .incomplete _ => .ok none
  | .invalid length => .error ⟨length, maxSize⟩
  | .complete length _ =>
      .ok (some (s.inbound.take length, { s with inbound := s.inbound.drop length }))

/-- The session after one more frame is queued to it, if its queue still has a reader. -/
def queue? (s : Session) : Option Session :=
  s.reader.accept?.map fun reader => { s with reader }

end Session

end TopoSync
