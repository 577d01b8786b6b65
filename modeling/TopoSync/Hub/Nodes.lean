import TopoSync.Hub.Basic

/-!
# Open nodes and their locks

A session that wants to edit a node takes its lock first.  Only the holder may replace the fields or
give the lock back, and the lock goes when its holder closes the node.  Everybody who has the node
open is told when it is locked and unlocked, and everybody but the holder when the fields change.
-/

namespace TopoSync

namespace Hub

variable {σ : Type}

/-- An open node that a session subscribes to. -/
def subscribedNode? (h : Hub σ) (session : SessionId) (node : NodeId) : Option OpenNode :=
  (h.nodes.get? node).filter fun n => session ∈ n.subscribers

/-- An open node whose lock a session holds. -/
def heldNode? (h : Hub σ) (session : SessionId) (node : NodeId) : Option OpenNode :=
  (h.nodes.get? node).filter fun n => n.isHeldBy session

/-- The hub with an open node as given. -/
def putNode (h : Hub σ) (node : NodeId) (n : OpenNode) : Hub σ :=
  { h with nodes := h.nodes.insert node n }

/-- The frames that announce a lock: the holder is told that the lock is its own. -/
def lockFrames (node : NodeId) (members : Roster) (holder : Holder) : List (SessionId × Frame) :=
  let others := (Notification.nodeLocked node .lockedRemote holder.view).toFrame
  let own := others.withByte Notification.lockKindOffset LockKind.lockedLocal.code
  members.members.map fun id => (id, if id = holder.session then own else others)

/-- Takes the lock of a node. -/
def lockNode (h : Hub σ) (session : SessionId) (node : NodeId) (now : UInt32) : Outcome σ Unit :=
  match h.subscribedNode? session node with
  | none => (.error (.nodeNotOpen session node), h)
  | some n =>
      match n.holder with
      | some holder => (.error (.alreadyLocked node holder.session), h)
      | none =>
          match h.router.session? session with
          | none => (.error (.unknownSession session), h)
          | some s =>
              let holder : Holder := ⟨session, s.login, s.host, now⟩
              let h := h.putNode node { n with holder := some holder }
              let router := (h.router.deliver (lockFrames node n.subscribers holder)).2
              (.ok (), { h with router })

/-- Replaces the fields of a node. -/
def setFields (h : Hub σ) (session : SessionId) (node : NodeId) (fields : NodeFields) :
    Outcome σ Unit :=
  match h.heldNode? session node with
  | none => (.error (.notLockHolder session node), h)
  | some n =>
      let h := h.putNode node { n with record := { n.record with fields } }
      (.ok (), h.notifyOthers n.subscribers session (.nodeUpdated node fields))

/-- Gives the lock of a node back. -/
def unlockNode (h : Hub σ) (session : SessionId) (node : NodeId) : Outcome σ Unit :=
  match h.heldNode? session node with
  | none => (.error (.notLockHolder session node), h)
  | some n =>
      let h := h.putNode node { n with holder := none }
      (.ok (), h.notifyAll n.subscribers (.nodeUnlocked node))

variable [Store σ]

/-- The open node with a given number, read from the store if nobody has it open. -/
def fetchNode (h : Hub σ) (node : NodeId) : Outcome σ OpenNode :=
  match h.nodes.get? node with
  | some n => (.ok n, h)
  | none =>
      match Store.loadNode h.store node with
      | (.error reason, store) => (.error (.nodeUnreadable node reason), { h with store })
      | (.ok none, store) => (.error (.nodeNotFound node), { h with store })
      | (.ok (some record), store) => (.ok ⟨record, none, ∅⟩, { h with store })

/-- Subscribes a session to a node and sends it the record and the lock as the session sees it.  A
node that does not exist is answered with a notification of its own. -/
def openNode (h : Hub σ) (session : SessionId) (node : NodeId) : Outcome σ Unit :=
  match h.fetchNode node with
  | (.error (.nodeNotFound missing), h) =>
      (.error (.nodeNotFound missing), h.notify session (.nodeMissing missing))
  | (.error e, h) => (.error e, h)
  | (.ok n, h) =>
      let h := h.putNode node { n with subscribers := n.subscribers.insert session }
      (.ok (), h.notify session
        (.nodeSnapshot node (n.kindFor session) (n.holder.map Holder.view) n.record))

/-- Takes a node out of the hub and saves its fields.  A save that fails is not repeated. -/
def writeBackNode (h : Hub σ) (node : NodeId) : Hub σ :=
  match h.nodes.get? node with
  | none => h
  | some n =>
      { h with
        nodes := h.nodes.erase node
        store := (Store.saveNode h.store node n.record.fields).2 }

/-- Ends a subscription to an open node.  The last one out has the node written back. -/
def leaveNode (h : Hub σ) (session : SessionId) (node : NodeId) : Hub σ :=
  match h.nodes.get? node with
  | none => h
  | some n =>
      let left := n.subscribers.erase session
      let h := h.putNode node { n with subscribers := left }
      if left.isEmpty then h.writeBackNode node else h

/-- Gives the lock back, if the session holds it, and ends the session's subscription. -/
def closeNode (h : Hub σ) (session : SessionId) (node : NodeId) : Outcome σ Unit :=
  match h.subscribedNode? session node with
  | none => (.error (.nodeNotOpen session node), h)
  | some _ => (.ok (), (h.unlockNode session node).2.leaveNode session node)

/-- The nodes that a session subscribes to. -/
def nodesOf (h : Hub σ) (session : SessionId) : List NodeId :=
  (h.nodes.entries.filter fun e => session ∈ e.2.subscribers).map Prod.fst

/-- Ends a session's subscriptions to some nodes, one after the other. -/
def closeNodes (h : Hub σ) (session : SessionId) (nodes : List NodeId) : Hub σ :=
  nodes.foldl (fun h node => (h.closeNode session node).2) h

/-- Ends every subscription of a session to a node, and counts them. -/
def releaseNodes (h : Hub σ) (session : SessionId) : Nat × Hub σ :=
  let nodes := h.nodesOf session
  (nodes.length, h.closeNodes session nodes)

/-- Writes back some nodes, one after the other. -/
def writeBackNodes (h : Hub σ) (nodes : List NodeId) : Hub σ :=
  nodes.foldl writeBackNode h

/-- Writes back every open node, and counts them. -/
def flushNodes (h : Hub σ) : Nat × Hub σ :=
  (h.nodes.size, h.writeBackNodes h.nodes.keys)

end Hub

end TopoSync
