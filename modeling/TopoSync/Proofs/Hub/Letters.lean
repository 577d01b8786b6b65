import TopoSync.Hub.Maps
import TopoSync.Hub.Nodes
import TopoSync.Proofs.Delivery

/-!
# Letters

A letter is a notification with its recipient.  Everything that the hub tells anybody is posted as a
list of letters, also the announcement of a lock, whose frame is patched and not encoded anew.
-/

namespace TopoSync

/-- A notification and the session that it is for. -/
abbrev Letter : Type :=
  SessionId × Notification

/-- The frame of a letter, with its recipient. -/
def Letter.toFrame (l : Letter) : SessionId × Frame :=
  (l.1, l.2.toFrame)

/-- The same notification for every member of a roster but one. -/
def lettersToOthers (members : Roster) (leftOut : SessionId) (n : Notification) : List Letter :=
  (members.members.filter fun id => id ≠ leftOut).map fun id => (id, n)

/-- The same notification for every member of a roster. -/
def lettersToAll (members : Roster) (n : Notification) : List Letter :=
  members.members.map fun id => (id, n)

/-- The announcement of a lock: the holder is told that the lock is its own. -/
def lockLetters (node : NodeId) (members : Roster) (holder : Holder) : List Letter :=
  members.members.map fun id =>
    (id, .nodeLocked node (if id = holder.session then .lockedLocal else .lockedRemote) holder.view)

theorem mem_lettersToOthers {members : Roster} {leftOut : SessionId} {n : Notification} {l : Letter}
    (listed : l ∈ lettersToOthers members leftOut n) : ∃ id ∈ members, l = (id, n) := by
  obtain ⟨id, member, rfl⟩ := List.mem_map.mp listed
  exact ⟨id, (List.mem_filter.mp member).1, rfl⟩

theorem addressed_lettersToOthers (members : Roster) (leftOut : SessionId) (n : Notification)
    (id : SessionId) :
    addressed id (lettersToOthers members leftOut n) =
      if id ∈ members ∧ id ≠ leftOut then [n] else [] := by
  have distinct := members.nodup_members.filter fun q => decide (q ≠ leftOut)
  rw [lettersToOthers, addressed_map_pair distinct]
  simp [Roster.mem_def]

theorem addressed_lettersToAll (members : Roster) (n : Notification) (id : SessionId) :
    addressed id (lettersToAll members n) = if id ∈ members then [n] else [] :=
  addressed_map_pair members.nodup_members (fun _ => n) id

theorem addressed_lockLetters (node : NodeId) (members : Roster) (holder : Holder)
    (id : SessionId) :
    addressed id (lockLetters node members holder) =
      if id ∈ members then
        [.nodeLocked node (if id = holder.session then .lockedLocal else .lockedRemote) holder.view]
      else [] :=
  addressed_map_pair members.nodup_members _ id

/-- Replacing the byte of the lock kind gives the frame of the other lock kind: nothing else in the
frame depends on it. -/
theorem withByte_lockKindOffset (node : NodeId) (kind other : LockKind) (holder : HolderView) :
    (Notification.nodeLocked node kind holder).toFrame.withByte Notification.lockKindOffset
        other.code =
      (Notification.nodeLocked node other holder).toFrame := rfl

theorem lockFrames_eq_map (node : NodeId) (members : Roster) (holder : Holder) :
    Hub.lockFrames node members holder = (lockLetters node members holder).map Letter.toFrame := by
  simp only [Hub.lockFrames, lockLetters, List.map_map, withByte_lockKindOffset]
  apply List.map_congr_left
  intro id _
  by_cases own : id = holder.session <;> simp [own, Letter.toFrame]

namespace Hub

variable {σ : Type}

/-- Posts letters, one after the other. -/
def post (h : Hub σ) (letters : List Letter) : Hub σ :=
  { h with router := (h.router.deliver (letters.map Letter.toFrame)).2 }

/-- Changes what the router keeps of a session. -/
def amend (h : Hub σ) (id : SessionId) (f : Session → Session) : Hub σ :=
  { h with router := h.router.updateSession id f }

theorem notify_eq_post (h : Hub σ) (id : SessionId) (n : Notification) :
    h.notify id n = h.post [(id, n)] := rfl

theorem notifyOthers_eq_post (h : Hub σ) (members : Roster) (leftOut : SessionId)
    (n : Notification) :
    h.notifyOthers members leftOut n = h.post (lettersToOthers members leftOut n) := by
  have same : (fun id => decide (some leftOut ≠ some id)) =
      fun id : SessionId => decide (id ≠ leftOut) := by
    funext id
    simp [eq_comm]
  simp only [notifyOthers, post, Router.broadcast, lettersToOthers, List.map_map, same]
  rfl

theorem notifyAll_eq_post (h : Hub σ) (members : Roster) (n : Notification) :
    h.notifyAll members n = h.post (lettersToAll members n) := by
  have all : (members.members.filter fun id => decide (none ≠ some id)) = members.members := by
    simp
  simp only [notifyAll, post, Router.broadcast, lettersToAll, List.map_map, all]
  rfl

theorem post_post (h : Hub σ) (first second : List Letter) :
    (h.post first).post second = h.post (first ++ second) := by
  have deliver_append : ∀ (xs ys : List (SessionId × Frame)) (r : Router),
      (r.deliver (xs ++ ys)).2 = ((r.deliver xs).2.deliver ys).2 := by
    intro xs ys
    induction xs with
    | nil => intro r; rfl
    | cons x rest ih => intro r; exact ih _
  simp only [post, List.map_append, deliver_append]

@[simp] theorem maps_post (h : Hub σ) (letters : List Letter) : (h.post letters).maps = h.maps := rfl

@[simp] theorem nodes_post (h : Hub σ) (letters : List Letter) :
    (h.post letters).nodes = h.nodes := rfl

@[simp] theorem maps_amend (h : Hub σ) (id : SessionId) (f : Session → Session) :
    (h.amend id f).maps = h.maps := rfl

@[simp] theorem nodes_amend (h : Hub σ) (id : SessionId) (f : Session → Session) :
    (h.amend id f).nodes = h.nodes := rfl

@[simp] theorem maps_putMap (h : Hub σ) (map : MapId) (m : OpenMap) :
    (h.putMap map m).maps = h.maps.insert map m := rfl

@[simp] theorem nodes_putMap (h : Hub σ) (map : MapId) (m : OpenMap) :
    (h.putMap map m).nodes = h.nodes := rfl

@[simp] theorem router_putMap (h : Hub σ) (map : MapId) (m : OpenMap) :
    (h.putMap map m).router = h.router := rfl

@[simp] theorem store_putMap (h : Hub σ) (map : MapId) (m : OpenMap) :
    (h.putMap map m).store = h.store := rfl

@[simp] theorem store_putNode (h : Hub σ) (node : NodeId) (n : OpenNode) :
    (h.putNode node n).store = h.store := rfl

@[simp] theorem maps_putNode (h : Hub σ) (node : NodeId) (n : OpenNode) :
    (h.putNode node n).maps = h.maps := rfl

@[simp] theorem nodes_putNode (h : Hub σ) (node : NodeId) (n : OpenNode) :
    (h.putNode node n).nodes = h.nodes.insert node n := rfl

@[simp] theorem router_putNode (h : Hub σ) (node : NodeId) (n : OpenNode) :
    (h.putNode node n).router = h.router := rfl

theorem isRegistered_post (h : Hub σ) (letters : List Letter) (id : SessionId) :
    (h.post letters).router.isRegistered id = h.router.isRegistered id :=
  Router.isRegistered_deliver _ _ _

theorem isRegistered_amend (h : Hub σ) (id : SessionId) (f : Session → Session) (q : SessionId) :
    (h.amend id f).router.isRegistered q = h.router.isRegistered q :=
  Router.isRegistered_updateSession _ _ _ _

section Storing

variable [Store σ]

theorem writeBackMap_of_get? {h : Hub σ} {map : MapId} {m : OpenMap}
    (found : h.maps.get? map = some m) :
    h.writeBackMap map = { h with
      maps := h.maps.erase map
      store := (Store.saveMap h.store map m.diagram).2 } := by
  rw [writeBackMap, found]

theorem writeBackNode_of_get? {h : Hub σ} {node : NodeId} {n : OpenNode}
    (found : h.nodes.get? node = some n) :
    h.writeBackNode node = { h with
      nodes := h.nodes.erase node
      store := (Store.saveNode h.store node n.record.fields).2 } := by
  rw [writeBackNode, found]

@[simp] theorem maps_writeBackMap (h : Hub σ) (map : MapId) :
    (h.writeBackMap map).maps = h.maps.erase map := by
  cases found : h.maps.get? map with
  | some m => rw [writeBackMap_of_get? found]
  | none =>
      rw [writeBackMap, found]
      exact (Table.erase_of_absent found).symm

@[simp] theorem nodes_writeBackNode (h : Hub σ) (node : NodeId) :
    (h.writeBackNode node).nodes = h.nodes.erase node := by
  cases found : h.nodes.get? node with
  | some n => rw [writeBackNode_of_get? found]
  | none =>
      rw [writeBackNode, found]
      exact (Table.erase_of_absent found).symm

@[simp] theorem nodes_writeBackMap (h : Hub σ) (map : MapId) :
    (h.writeBackMap map).nodes = h.nodes := by
  rw [writeBackMap]
  split <;> rfl

@[simp] theorem maps_writeBackNode (h : Hub σ) (node : NodeId) :
    (h.writeBackNode node).maps = h.maps := by
  rw [writeBackNode]
  split <;> rfl

@[simp] theorem router_writeBackMap (h : Hub σ) (map : MapId) :
    (h.writeBackMap map).router = h.router := by
  rw [writeBackMap]
  split <;> rfl

@[simp] theorem router_writeBackNode (h : Hub σ) (node : NodeId) :
    (h.writeBackNode node).router = h.router := by
  rw [writeBackNode]
  split <;> rfl

end Storing

end Hub

end TopoSync
