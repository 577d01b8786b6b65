import TopoSync.Hub.Requests
import TopoSync.Hub.Teardown
import TopoSync.Wire.Framing

/-!
# The engine

The engine owns the hub and is driven by events: sessions connect, send bytes and disconnect.  Each
event is dealt with completely, broadcasts and failed sessions included, before the next one.
-/

namespace TopoSync

/-- The hub and the limit on the length of frames. -/
structure Engine (σ : Type) where
  hub : Hub σ
  maxFrameSize : Nat

/-- What can happen to an engine. -/
inductive Event
  /-- A session connects from a host, with a reader for its queue. -/
  | connected (id : SessionId) (host : String) (reader : QueueReader)
  /-- Bytes arrive from a session, and a clock is looked at for each frame that they complete. -/
  | data (id : SessionId) (bytes : Bytes) (clock : Clock)
  | disconnected (id : SessionId)
  | shutdown
deriving DecidableEq, Repr

namespace Engine

variable {σ : Type}

/-- An engine that nobody is connected to. -/
def start (store : σ) (maxFrameSize : Nat) : Engine σ :=
  ⟨{ store }, maxFrameSize⟩

/-- Connects a session. -/
def connect (e : Engine σ) (id : SessionId) (host : String) (reader : QueueReader) : Engine σ :=
  { e with hub := { e.hub with router := e.hub.router.register { id, host, reader } } }

/-- Lets the reader of a session's queue go away after some more frames. -/
def retireReader (e : Engine σ) (id : SessionId) (after : Nat) : Engine σ :=
  { e with hub := { e.hub with router := e.hub.router.retireReader id after } }

/-- The frames that bytes of a session complete. -/
def completed (e : Engine σ) (id : SessionId) (bytes : Bytes) : List Bytes :=
  match e.hub.router.session? id with
  | none => []
  | some s => (Framing.split e.maxFrameSize (s.pushBytes bytes).inbound).frames

variable [Store σ]

/-- Takes bytes from a session and answers every frame that they complete, each at its own time.  A
length word that cannot be accepted ends the session. -/
def receive (e : Engine σ) (id : SessionId) (bytes : Bytes) (clock : Clock) : Engine σ :=
  match e.hub.router.session? id with
  | none => e
  | some s =>
      let cut := Framing.split e.maxFrameSize (s.pushBytes bytes).inbound
      let router := e.hub.router.updateSession id fun s => { s with inbound := cut.rest }
      let h := Hub.answerFrames { e.hub with router } id clock cut.frames
      let h := match cut.stop with
        | .wantsMore => h
        | .badLength _ => h.disconnect id
      { e with hub := h.reapFailed }

/-- Ends a session. -/
def disconnect (e : Engine σ) (id : SessionId) : Engine σ :=
  { e with hub := e.hub.disconnect id }

/-- Writes everything back.  Sessions stay connected. -/
def shutdown (e : Engine σ) : Engine σ :=
  { e with hub := e.hub.flushMaps.2.flushNodes.2 }

/-- Deals with one event. -/
def step (e : Engine σ) : Event → Engine σ
  | .connected id host reader => e.connect id host reader
  | .data id bytes clock => e.receive id bytes clock
  | .disconnected id => e.disconnect id
  | .shutdown => e.shutdown

/-- Deals with events up to the first shutdown, or all of them, and shuts down. -/
def run (e : Engine σ) : List Event → Engine σ
  | [] => e.shutdown
  | .shutdown :: _ => e.shutdown
  | event :: rest => (e.step event).run rest

end Engine

end TopoSync
