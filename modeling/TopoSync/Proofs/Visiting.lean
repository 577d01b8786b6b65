import TopoSync.Proofs.Farewells
import TopoSync.Proofs.Hub.Reordering
import TopoSync.Proofs.Placeholding

/-!
# The order of visits

A session that ends leaves one map or node after the other, and a shutdown writes them back one after
the other.  The order in which they come is free: every entry is visited once, and what a visit does
concerns its own entry.  Only the announcements of locks that are given back come in that order, too.
-/

namespace TopoSync

/-- The frame that announces that a node is unlocked. -/
def unlockFrame (node : NodeId) : Frame :=
  (Notification.nodeUnlocked node).toFrame

namespace Hub

/-- Whether two visits of a hub end alike.  What is open and stored, the sessions, the marks and the
counts are the same, and every session is told of the same nodes, each at most once, that they are
unlocked.  The same frames are queued to it, then, unless its reader goes away in between: if it leaves
after some frames, it has those that were sent first. -/
structure EndAlike (h one two : Hub MemoryStore) : Prop where
  agrees : one.AgreesOn .everything two
  failed : ∀ q, q ∈ two.router.failed ↔ q ∈ one.router.failed
  stats : two.router.stats = one.router.stats
  queues : ∀ q, ∃ told told' : List NodeId, told.Perm told' ∧ told.Nodup ∧
    one.router.queueOf q = h.router.queueOf q ++ (h.router.takenBy q told).map unlockFrame ∧
    two.router.queueOf q = h.router.queueOf q ++ (h.router.takenBy q told').map unlockFrame ∧
    ((h.router.takenBy q told).Perm (h.router.takenBy q told') ∨
      ∃ s left, h.router.session? q = some s ∧ s.reader = .leaving left ∧ 0 < left ∧
        left < told.length)

/-- Visits that send nothing. -/
theorem EndAlike.silent {h one two : Hub MemoryStore} (agrees : one.AgreesOn .everything two)
    (quiet : one.router = h.router) (quiet' : two.router = h.router) : h.EndAlike one two where
  agrees := agrees
  failed q := by rw [quiet, quiet']
  stats := by rw [quiet, quiet']
  queues q := by
    refine ⟨[], [], .nil, .nil, ?_, ?_, h.router.takenBy_perm q .nil⟩
    · rw [quiet, h.router.takenBy_nil, List.map_nil, List.append_nil]
    · rw [quiet', h.router.takenBy_nil, List.map_nil, List.append_nil]

/-- What is looked up for some keys is listed once for each of them at most. -/
theorem nodup_lookedUp {κ β : Type} (look : κ → Option β) {keys : List κ} (distinct : keys.Nodup) :
    ((keys.filterMap fun k => (look k).map (k, ·)).map Prod.fst).Nodup := by
  have listed : (keys.filterMap fun k => (look k).map (k, ·)).map Prod.fst =
      keys.filter fun k => (look k).isSome := by
    clear distinct
    induction keys with
    | nil => rfl
    | cons k rest ih => cases found : look k <;> simp [found, ih]
  rw [listed]
  exact distinct.filter _

section Maps

variable (h : Hub MemoryStore)

/-- The maps of a session can be left in any order. -/
theorem closeMaps_perm (session : SessionId) {order order' : List MapId}
    (each : order.Perm (h.mapsOf session)) (each' : order'.Perm (h.mapsOf session)) :
    h.EndAlike (h.closeMaps session order) (h.closeMaps session order') := by
  have distinct := each.nodup_iff.mpr (h.nodup_mapsOf session)
  have distinct' := each'.nodup_iff.mpr (h.nodup_mapsOf session)
  have views : ∀ map ∈ order, h.ViewsMap session map := fun _ member =>
    mem_mapsOf_iff.mp (each.mem_iff.mp member)
  have views' : ∀ map ∈ order', h.ViewsMap session map := fun _ member =>
    mem_mapsOf_iff.mp (each'.mem_iff.mp member)
  refine .silent ⟨fun q _ => ?_, fun q _ => ?_, fun q _ => ?_, ?_⟩
    (h.router_closeMaps session order) (h.router_closeMaps session order')
  · rw [h.get?_maps_closeMaps session distinct views, h.get?_maps_closeMaps session distinct' views']
    simp only [each.mem_iff, each'.mem_iff]
  · rw [nodes_closeMaps, nodes_closeMaps]
  · rw [router_closeMaps, router_closeMaps]
  · rw [h.store_closeMaps session distinct, h.store_closeMaps session distinct']
    exact MemoryStore.saveMaps_perm ((each.trans each'.symm).filterMap _)
      (nodup_lookedUp _ distinct) h.store

/-- The open maps can be written back in any order. -/
theorem writeBackMaps_perm {order order' : List MapId} (each : order.Perm h.maps.keys)
    (each' : order'.Perm h.maps.keys) :
    h.EndAlike (h.writeBackMaps order) (h.writeBackMaps order') := by
  have distinct := each.nodup_iff.mpr h.maps.nodup_keys
  have distinct' := each'.nodup_iff.mpr h.maps.nodup_keys
  refine .silent ⟨fun q _ => ?_, fun q _ => ?_, fun q _ => ?_, ?_⟩
    (h.router_writeBackMaps order) (h.router_writeBackMaps order')
  · simp only [get?_maps_writeBackMaps, each.mem_iff, each'.mem_iff]
  · rw [nodes_writeBackMaps, nodes_writeBackMaps]
  · rw [router_writeBackMaps, router_writeBackMaps]
  · rw [h.store_writeBackMaps distinct, h.store_writeBackMaps distinct']
    exact MemoryStore.saveMaps_perm ((each.trans each'.symm).filterMap _)
      (nodup_lookedUp _ distinct) h.store

end Maps

section Nodes

variable (h : Hub MemoryStore)

/-- The open nodes can be written back in any order. -/
theorem writeBackNodes_perm {order order' : List NodeId} (each : order.Perm h.nodes.keys)
    (each' : order'.Perm h.nodes.keys) :
    h.EndAlike (h.writeBackNodes order) (h.writeBackNodes order') := by
  have distinct := each.nodup_iff.mpr h.nodes.nodup_keys
  have distinct' := each'.nodup_iff.mpr h.nodes.nodup_keys
  refine .silent ⟨fun q _ => ?_, fun q _ => ?_, fun q _ => ?_, ?_⟩
    (h.router_writeBackNodes order) (h.router_writeBackNodes order')
  · rw [maps_writeBackNodes, maps_writeBackNodes]
  · simp only [get?_nodes_writeBackNodes, each.mem_iff, each'.mem_iff]
  · rw [router_writeBackNodes, router_writeBackNodes]
  · rw [h.store_writeBackNodes distinct, h.store_writeBackNodes distinct']
    exact MemoryStore.saveNodes_perm ((each.trans each'.symm).filterMap _)
      (nodup_lookedUp _ distinct) h.store

/-- The nodes, of some, that a viewer has open and whose lock a session holds. -/
def unlocksSeen {σ : Type} (h : Hub σ) (holder viewer : SessionId) (nodes : List NodeId) : List NodeId :=
  nodes.filter fun node => (h.nodes.get? node).any fun n =>
    n.isHeldBy holder && decide (viewer ∈ n.subscribers)

/-- Of the frames by which a session gives its locks back, node by node, a viewer is sent those about
the nodes that it has open. -/
theorem addressed_unlocks (holder viewer : SessionId) (nodes : List NodeId) :
    addressed viewer ((nodes.flatMap (h.unlockLetters holder)).map Letter.toFrame) =
      (h.unlocksSeen holder viewer nodes).map unlockFrame := by
  have letters : addressed viewer (nodes.flatMap (h.unlockLetters holder)) =
      (h.unlocksSeen holder viewer nodes).map Notification.nodeUnlocked := by
    induction nodes with
    | nil => rfl
    | cons node rest ih =>
        rw [List.flatMap_cons, addressed_append, ih, addressed_unlockLetters, unlocksSeen, unlocksSeen,
          List.filter_cons]
        cases found : h.nodes.get? node with
        | none => rfl
        | some n =>
            by_cases held : n.isHeldBy holder = true <;> by_cases sees : viewer ∈ n.subscribers <;>
              simp [held, sees, Option.filter_some]
  calc
    addressed viewer ((nodes.flatMap (h.unlockLetters holder)).map Letter.toFrame) =
        (addressed viewer (nodes.flatMap (h.unlockLetters holder))).map Notification.toFrame :=
      addressed_map viewer Notification.toFrame _
    _ = _ := by rw [letters, List.map_map]; rfl

/-- The frames by which locks are given back are all of one length. -/
theorem length_unlocks {holder : SessionId} {nodes : List NodeId} :
    ∀ e ∈ (nodes.flatMap (h.unlockLetters holder)).map Letter.toFrame, e.2.length = 12 := by
  intro e member
  obtain ⟨letter, posted, rfl⟩ := List.mem_map.mp member
  obtain ⟨node, _, posted⟩ := List.mem_flatMap.mp posted
  rw [unlockLetters] at posted
  split at posted
  · cases posted
  · obtain ⟨id, _, rfl⟩ := List.mem_map.mp posted
    rfl

/-- The nodes of a session can be left in any order. -/
theorem closeNodes_perm (session : SessionId) {order order' : List NodeId}
    (each : order.Perm (h.nodesOf session)) (each' : order'.Perm (h.nodesOf session)) :
    h.EndAlike (h.closeNodes session order) (h.closeNodes session order') := by
  have perm := each.trans each'.symm
  have distinct := each.nodup_iff.mpr (h.nodup_nodesOf session)
  have distinct' := each'.nodup_iff.mpr (h.nodup_nodesOf session)
  have views : ∀ node ∈ order, h.ViewsNode session node := fun _ member =>
    mem_nodesOf_iff.mp (each.mem_iff.mp member)
  have views' : ∀ node ∈ order', h.ViewsNode session node := fun _ member =>
    mem_nodesOf_iff.mp (each'.mem_iff.mp member)
  have router := h.router_closeNodes session distinct views
  have router' := h.router_closeNodes session distinct' views'
  have letters := (perm.flatMap_right (h.unlockLetters session)).map Letter.toFrame
  obtain ⟨sessions, failed, stats⟩ := Router.deliver_reordered (r := h.router) letters
    h.length_unlocks
  refine ⟨⟨fun q _ => ?_, fun q _ => ?_, fun q _ => ?_, ?_⟩, fun q => ?_, ?_, fun q => ?_⟩
  · rw [maps_closeNodes, maps_closeNodes]
  · rw [h.get?_nodes_closeNodes session distinct views,
      h.get?_nodes_closeNodes session distinct' views']
    simp only [each.mem_iff, each'.mem_iff]
  · rw [router, router']
    exact sessions q
  · rw [h.store_closeNodes session distinct, h.store_closeNodes session distinct']
    exact MemoryStore.saveNodes_perm (perm.filterMap _) (nodup_lookedUp _ distinct) h.store
  · rw [router, router']
    exact failed q
  · rw [router, router']
    exact stats
  · have queue : ∀ nodes, (h.post (nodes.flatMap (h.unlockLetters session))).router.queueOf q =
        h.router.queueOf q ++
          (h.router.takenBy q (h.unlocksSeen session q nodes)).map unlockFrame := by
      intro nodes
      have sent := h.router.addressed_sent_deliver
        ((nodes.flatMap (h.unlockLetters session)).map Letter.toFrame) q
      rw [addressed_unlocks, ← Router.takenBy, Router.takenBy_map] at sent
      exact sent
    have seen : (h.unlocksSeen session q order).Perm (h.unlocksSeen session q order') :=
      perm.filter _
    exact ⟨_, _, seen, distinct.filter _, by rw [router, queue], by rw [router', queue],
      h.router.takenBy_perm q seen⟩

end Nodes

end Hub

/-- A session may leave its maps and its nodes, and everything may be written back, in any order: each
order counts the same, and two orders end alike. -/
theorem visits_in_any_order (h : Hub MemoryStore) (session : SessionId) :
    (∀ order order' : List MapId,
      order.Perm (h.mapsOf session) → order'.Perm (h.mapsOf session) →
        order.length = (h.releaseMaps session).1 ∧ order'.length = (h.releaseMaps session).1 ∧
        h.EndAlike (h.closeMaps session order) (h.closeMaps session order')) ∧
    (∀ order order' : List NodeId,
      order.Perm (h.nodesOf session) → order'.Perm (h.nodesOf session) →
        order.length = (h.releaseNodes session).1 ∧ order'.length = (h.releaseNodes session).1 ∧
        h.EndAlike (h.closeNodes session order) (h.closeNodes session order')) ∧
    (∀ order order' : List MapId, order.Perm h.maps.keys → order'.Perm h.maps.keys →
      order.length = h.flushMaps.1 ∧ order'.length = h.flushMaps.1 ∧
      h.EndAlike (h.writeBackMaps order) (h.writeBackMaps order')) ∧
    ∀ order order' : List NodeId, order.Perm h.nodes.keys → order'.Perm h.nodes.keys →
      order.length = h.flushNodes.1 ∧ order'.length = h.flushNodes.1 ∧
      h.EndAlike (h.writeBackNodes order) (h.writeBackNodes order') := by
  refine ⟨fun order order' each each' => ?_, fun order order' each each' => ?_,
    fun order order' each each' => ?_, fun order order' each each' => ?_⟩
  · exact ⟨each.length_eq, each'.length_eq, h.closeMaps_perm session each each'⟩
  · exact ⟨each.length_eq, each'.length_eq, h.closeNodes_perm session each each'⟩
  · have size := h.maps.size_eq_length_keys
    exact ⟨each.length_eq.trans size.symm, each'.length_eq.trans size.symm,
      h.writeBackMaps_perm each each'⟩
  · have size := h.nodes.size_eq_length_keys
    exact ⟨each.length_eq.trans size.symm, each'.length_eq.trans size.symm,
      h.writeBackNodes_perm each each'⟩

/-- Two sessions have two maps and two nodes open, and the first has locked both nodes. -/
def lockedBoth : Hub MemoryStore :=
  let store := (mapAndNode.insertMap 2 "office" {}).insertNode 6 {}
  ((Engine.start store 1000).after
    [.event (.connected ⟨1⟩ "a" .staying),
      .event (.connected ⟨2⟩ "b" .staying),
      sending ⟨1⟩ .openMap [1], sending ⟨1⟩ .openMap [2],
      sending ⟨1⟩ .openNode [5], sending ⟨1⟩ .openNode [6],
      sending ⟨1⟩ .lockNode [5], sending ⟨1⟩ .lockNode [6],
      sending ⟨2⟩ .openNode [5], sending ⟨2⟩ .openNode [6]]).hub

theorem visits_in_any_order_lockedBoth :
    lockedBoth.mapsOf ⟨1⟩ = [1, 2] ∧ lockedBoth.nodesOf ⟨1⟩ = [5, 6] ∧
      lockedBoth.EndAlike (lockedBoth.closeMaps ⟨1⟩ [1, 2]) (lockedBoth.closeMaps ⟨1⟩ [2, 1]) ∧
      lockedBoth.EndAlike (lockedBoth.closeNodes ⟨1⟩ [5, 6]) (lockedBoth.closeNodes ⟨1⟩ [6, 5]) ∧
      (lockedBoth.closeNodes ⟨1⟩ [5, 6]).router.queueOf ⟨2⟩ =
        lockedBoth.router.queueOf ⟨2⟩ ++ [5, 6].map unlockFrame ∧
      (lockedBoth.closeNodes ⟨1⟩ [6, 5]).router.queueOf ⟨2⟩ =
        lockedBoth.router.queueOf ⟨2⟩ ++ [6, 5].map unlockFrame ∧
      lockedBoth.EndAlike (lockedBoth.writeBackMaps [1, 2]) (lockedBoth.writeBackMaps [2, 1]) ∧
      lockedBoth.EndAlike (lockedBoth.writeBackNodes [5, 6]) (lockedBoth.writeBackNodes [6, 5]) := by
  have maps : lockedBoth.mapsOf ⟨1⟩ = [1, 2] := by decide_cbv
  have nodes : lockedBoth.nodesOf ⟨1⟩ = [5, 6] := by decide_cbv
  have keys : lockedBoth.maps.keys = [1, 2] := by decide_cbv
  have keys' : lockedBoth.nodes.keys = [5, 6] := by decide_cbv
  obtain ⟨leaveMaps, leaveNodes, writeMaps, writeNodes⟩ := visits_in_any_order lockedBoth ⟨1⟩
  rw [maps] at leaveMaps
  rw [nodes] at leaveNodes
  rw [keys] at writeMaps
  rw [keys'] at writeNodes
  have swapMaps : [(2 : MapId), 1].Perm [1, 2] := .swap 1 2 []
  have swapNodes : [(6 : NodeId), 5].Perm [5, 6] := .swap 5 6 []
  exact ⟨maps, nodes, (leaveMaps _ _ (.refl _) swapMaps).2.2,
    (leaveNodes _ _ (.refl _) swapNodes).2.2, by decide_cbv, by decide_cbv,
    (writeMaps _ _ (.refl _) swapMaps).2.2, (writeNodes _ _ (.refl _) swapNodes).2.2⟩

end TopoSync
