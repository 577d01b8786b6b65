import TopoSync.Session
import TopoSync.Wire.Notification

/-!
# Routing frames to sessions

The router knows the connected sessions and queues frames to them.  A frame that cannot be queued
marks its session as failed; failed sessions are torn down later, never in the middle of a broadcast.
The router logs every frame that it queued, with its recipient, so the queue of a session is the part
of the log that names it.
-/

namespace TopoSync

/-- What has been queued and what could not be queued, in total. -/
structure DeliveryStats where
  framesSent : Nat := 0
  bytesSent : Nat := 0
  failedDeliveries : Nat := 0
deriving DecidableEq, Repr

namespace DeliveryStats

/-- Whether counters in words of 64 bits show the totals.  Where they do not, a counter has gone on
from 0 after the last number that fits. -/
structure Exact (stats : DeliveryStats) : Prop where
  frames : (UInt64.ofNat stats.framesSent).toNat = stats.framesSent
  bytes : (UInt64.ofNat stats.bytesSent).toNat = stats.bytesSent
  failed : (UInt64.ofNat stats.failedDeliveries).toNat = stats.failedDeliveries

/-- Totals are shown as long as each of them fits into a word. -/
theorem exact_of_lt {stats : DeliveryStats} (frames : stats.framesSent < UInt64.size)
    (bytes : stats.bytesSent < UInt64.size) (failed : stats.failedDeliveries < UInt64.size) :
    stats.Exact :=
  ⟨UInt64.toNat_ofNat_of_lt' frames, UInt64.toNat_ofNat_of_lt' bytes,
    UInt64.toNat_ofNat_of_lt' failed⟩

end DeliveryStats

/-- The connected sessions and everything that has been queued to them. -/
structure Router where
  sessions : Table SessionId Session := ∅
  /-- Sessions that a frame could not be queued to. -/
  failed : List SessionId := []
  stats : DeliveryStats := {}
  /-- The frames queued so far and their recipients, oldest first. -/
  sent : List (SessionId × Frame) := []
deriving DecidableEq, Repr

namespace Router

/-- The session with a given number. -/
def session? (r : Router) (id : SessionId) : Option Session :=
  r.sessions.get? id

/-- Whether a session is connected. -/
def isRegistered (r : Router) (id : SessionId) : Bool :=
  r.sessions.contains id

/-- How many sessions are connected. -/
def sessionCount (r : Router) : Nat :=
  r.sessions.size

/-- Adds a session, in place of one with the same number. -/
def register (r : Router) (s : Session) : Router :=
  { r with sessions := r.sessions.insert s.id s }

/-- Takes a session out and forgets that it failed. -/
def unregister (r : Router) (id : SessionId) : Router :=
  { r with sessions := r.sessions.erase id, failed := r.failed.filter (· ≠ id) }

/-- Changes a session, if it is connected. -/
def updateSession (r : Router) (id : SessionId) (f : Session → Session) : Router :=
  { r with sessions := r.sessions.modify id f }

/-- Lets the reader of a session's queue go away after some more frames; a reader that is already
going away does so no later than before. -/
def retireReader (r : Router) (id : SessionId) (after : Nat) : Router :=
  r.updateSession id fun s =>
    match s.reader with
    | .staying => { s with reader := .leaving after }
    | .leaving left => { s with reader := .leaving (min left after) }

/-- The router after a frame was queued to a session, given the session as it is then. -/
def recordDelivery (r : Router) (id : SessionId) (s : Session) (f : Frame) : Router :=
  { r with
    sessions := r.sessions.insert id s
    stats := { r.stats with
      framesSent := r.stats.framesSent + 1
      bytesSent := r.stats.bytesSent + f.length }
    sent := r.sent ++ [(id, f)] }

/-- The router after a frame could not be queued to a session. -/
def recordFailure (r : Router) (id : SessionId) : Router :=
  { r with
    stats := { r.stats with failedDeliveries := r.stats.failedDeliveries + 1 }
    failed := if r.isRegistered id ∧ id ∉ r.failed then r.failed ++ [id] else r.failed }

/-- Queues a frame to a session, and tells whether that was possible. -/
def send (r : Router) (id : SessionId) (f : Frame) : Bool × Router :=
  match (r.session? id).bind Session.queue? with
  | some s => (true, r.recordDelivery id s f)
  | none => (false, r.recordFailure id)

/-- Queues frames to their recipients one after the other, and counts those that were queued. -/
def deliver (r : Router) : List (SessionId × Frame) → Nat × Router
  | [] => (0, r)
  | (id, f) :: rest =>
      let first := r.send id f
      let others := first.2.deliver rest
      ((if first.1 then 1 else 0) + others.1, others.2)

/-- Queues one frame to every recipient but the one that is left out. -/
def broadcast (r : Router) (recipients : List SessionId) (f : Frame) (leftOut : Option SessionId) :
    Nat × Router :=
  r.deliver ((recipients.filter fun id => leftOut ≠ some id).map fun id => (id, f))

/-- The sessions that failed since the last call. -/
def takeFailed (r : Router) : List SessionId × Router :=
  (r.failed, { r with failed := [] })

/-- The frames queued since the last call. -/
def takeSent (r : Router) : List (SessionId × Frame) × Router :=
  (r.sent, { r with sent := [] })

/-- The frames queued to one session, oldest first. -/
def queueOf (r : Router) (id : SessionId) : List Frame :=
  (r.sent.filter fun e => e.1 = id).map Prod.snd

theorem isRegistered_iff {r : Router} {id : SessionId} :
    r.isRegistered id = true ↔ id ∈ r.sessions.keys :=
  Table.contains_iff_mem_keys

/-- Sending connects and disconnects nobody. -/
@[simp] theorem keys_sessions_send (r : Router) (id : SessionId) (f : Frame) :
    (r.send id f).2.sessions.keys = r.sessions.keys := by
  unfold send
  split
  · rename_i s found
    refine Table.keys_insert_of_mem ?_ s
    rw [← Table.contains_iff_mem_keys, Table.contains]
    cases known : r.sessions.get? id with
    | none => simp [session?, known] at found
    | some _ => rfl
  · rfl

@[simp] theorem keys_sessions_deliver (r : Router) (frames : List (SessionId × Frame)) :
    (r.deliver frames).2.sessions.keys = r.sessions.keys := by
  induction frames generalizing r with
  | nil => rfl
  | cons e rest ih => simp [deliver, ih]

@[simp] theorem keys_sessions_broadcast (r : Router) (recipients : List SessionId) (f : Frame)
    (leftOut : Option SessionId) :
    (r.broadcast recipients f leftOut).2.sessions.keys = r.sessions.keys :=
  keys_sessions_deliver r _

@[simp] theorem keys_sessions_updateSession (r : Router) (id : SessionId) (f : Session → Session) :
    (r.updateSession id f).sessions.keys = r.sessions.keys :=
  Table.keys_modify _ _ _

end Router

end TopoSync
