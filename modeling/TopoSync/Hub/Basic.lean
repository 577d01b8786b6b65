import TopoSync.Router
import TopoSync.Store.Basic

/-!
# The hub

The hub holds everything that sessions share: the maps and nodes that somebody has open, the router
and the store.  A map or node is read from the store when its first subscriber opens it and written
back when the last one leaves; in between the copy in the hub is the one that counts.  An operation
either changes the hub and answers, or refuses with a reason.
-/

namespace TopoSync

/-- A map that somebody has open. -/
structure OpenMap where
  diagram : Diagram
  subscribers : Roster
deriving DecidableEq, Repr

/-- Who holds the lock of a node. -/
structure Holder where
  session : SessionId
  login : String
  host : String
  /-- When the lock was taken, in seconds. -/
  since : UInt32
deriving DecidableEq, Repr

/-- What sessions are told of a holder. -/
def Holder.view (h : Holder) : HolderView :=
  ⟨h.login, h.host, h.since⟩

/-- A node that somebody has open. -/
structure OpenNode where
  record : NodeRecord
  holder : Option Holder
  subscribers : Roster
deriving DecidableEq, Repr

namespace OpenNode

/-- Whether a session holds the lock. -/
def isHeldBy (n : OpenNode) (session : SessionId) : Bool :=
  n.holder.any fun h => h.session == session

/-- The lock as a session sees it: its own, somebody else's, or none. -/
def kindFor (n : OpenNode) (viewer : SessionId) : LockKind :=
  match n.holder with
  | none => .unlocked
  | some h => if h.session = viewer then .lockedLocal else .lockedRemote

end OpenNode

/-- Why an operation was refused. -/
inductive Refusal
  | reservedMap
  | mapNotFound (map : MapId)
  | mapUnreadable (map : MapId) (reason : StoreError)
  | mapNotOpen (session : SessionId) (map : MapId)
  | unknownElement (map : MapId) (noun : String) (id : ElementId)
  | idsExhausted (map : MapId) (noun : String)
  | nodeNotFound (node : NodeId)
  | nodeUnreadable (node : NodeId) (reason : StoreError)
  | nodeNotOpen (session : SessionId) (node : NodeId)
  | alreadyLocked (node : NodeId) (holder : SessionId)
  | notLockHolder (session : SessionId) (node : NodeId)
  | unknownSession (session : SessionId)
  | badPlaceholder (reason : PlaceholderError)
deriving DecidableEq, Repr

/-- The text of a refusal. -/
def Refusal.message : Refusal → String
  | reservedMap => "map id 0 is reserved"
  | mapNotFound map => s!"map {map} does not exist"
  | mapUnreadable map reason => s!"failed to load map {map}: {reason.message}"
  | mapNotOpen session map => s!"{session.name} has not opened map {map}"
  | unknownElement map noun id => s!"map {map} has no {noun} {id}"
  | idsExhausted map noun => s!"map {map} has no free {noun} id"
  | nodeNotFound node => s!"node {node} does not exist"
  | nodeUnreadable node reason => s!"failed to load node {node}: {reason.message}"
  | nodeNotOpen session node => s!"{session.name} has not opened node {node}"
  | alreadyLocked node holder => s!"node {node} is already locked by {holder.name}"
  | notLockHolder session node => s!"{session.name} does not hold the lock on node {node}"
  | unknownSession session => s!"{session.name} is not connected"
  | badPlaceholder reason => reason.message

/-- Everything that sessions share. -/
structure Hub (σ : Type) where
  store : σ
  router : Router := {}
  maps : Table MapId OpenMap := ∅
  nodes : Table NodeId OpenNode := ∅

/-- The answer to an operation, and the hub after it. -/
abbrev Outcome (σ α : Type) : Type :=
  Except Refusal α × Hub σ

namespace Hub

variable {σ : Type}

/-- Queues a notification to one session. -/
def notify (h : Hub σ) (session : SessionId) (n : Notification) : Hub σ :=
  { h with router := (h.router.send session n.toFrame).2 }

/-- Queues a notification to every member of a roster but one. -/
def notifyOthers (h : Hub σ) (members : Roster) (leftOut : SessionId) (n : Notification) : Hub σ :=
  { h with router := (h.router.broadcast members.members n.toFrame (some leftOut)).2 }

/-- Queues a notification to every member of a roster. -/
def notifyAll (h : Hub σ) (members : Roster) (n : Notification) : Hub σ :=
  { h with router := (h.router.broadcast members.members n.toFrame none).2 }

/-- Who is connected. -/
def sessionIds (h : Hub σ) : List SessionId :=
  h.router.sessions.keys

@[simp] theorem sessionIds_notify (h : Hub σ) (session : SessionId) (n : Notification) :
    (h.notify session n).sessionIds = h.sessionIds := by
  simp [sessionIds, notify]

@[simp] theorem sessionIds_notifyOthers (h : Hub σ) (members : Roster) (leftOut : SessionId)
    (n : Notification) : (h.notifyOthers members leftOut n).sessionIds = h.sessionIds := by
  simp [sessionIds, notifyOthers]

@[simp] theorem sessionIds_notifyAll (h : Hub σ) (members : Roster) (n : Notification) :
    (h.notifyAll members n).sessionIds = h.sessionIds := by
  simp [sessionIds, notifyAll]

end Hub

end TopoSync
