import TopoSync.Proofs.Hub.Leaving
import TopoSync.Proofs.Lifecycle

/-!
# What the end of a session and the shutdown do

The end of a session takes it out of every entry, writes back what nobody else has open and tells
those who see its locks that they are free.  The shutdown writes everything back.  Both are said here
in full, so that nothing else of the hub can have changed.
-/

namespace TopoSync

namespace Hub

variable {σ : Type} [Store σ]

section Maps

theorem get?_maps_releaseMaps {h : Hub σ} (ok : h.Orderly) (session : SessionId) (map : MapId) :
    (h.releaseMaps session).2.maps.get? map =
      (h.maps.get? map).bind fun m => m.without? session := by
  have views : ∀ map ∈ h.mapsOf session, h.ViewsMap session map := fun map => mem_mapsOf_iff.mp
  rw [releaseMaps, h.get?_maps_closeMaps session (h.nodup_mapsOf session) views]
  split
  · rfl
  · rename_i unlisted
    cases found : h.maps.get? map with
    | none => rfl
    | some m =>
        have absent : ¬ session ∈ m.subscribers :=
          fun member => unlisted (mem_mapsOf_iff.mpr ⟨m, found, member⟩)
        exact (OpenMap.without?_of_not_mem (ok.map_viewed map m found) absent).symm

theorem store_releaseMaps (h : Hub σ) (session : SessionId) :
    (h.releaseMaps session).2.store =
      Store.saveMaps h.store (h.diagramsWhere (OpenMap.isOnlyFor session)) := by
  rw [releaseMaps, h.store_closeMaps session (h.nodup_mapsOf session), mapsOf]
  congr 1
  refine h.filterMap_diagramIf? (q := fun m => decide (session ∈ m.subscribers)) fun m only => ?_
  exact decide_eq_true (OpenMap.mem_of_isOnlyFor only)

end Maps

section Nodes

theorem get?_nodes_releaseNodes {h : Hub σ} (ok : h.Orderly) (session : SessionId) (node : NodeId) :
    (h.releaseNodes session).2.nodes.get? node =
      (h.nodes.get? node).bind fun n => n.without? session := by
  have views : ∀ node ∈ h.nodesOf session, h.ViewsNode session node :=
    fun node => mem_nodesOf_iff.mp
  rw [releaseNodes, h.get?_nodes_closeNodes session (h.nodup_nodesOf session) views]
  split
  · rfl
  · rename_i unlisted
    cases found : h.nodes.get? node with
    | none => rfl
    | some n =>
        have absent : ¬ session ∈ n.subscribers :=
          fun member => unlisted (mem_nodesOf_iff.mpr ⟨n, found, member⟩)
        exact (OpenNode.without?_of_not_mem (ok.node_viewed node n found) absent
          fun k => ok.holder_views node n k found).symm

theorem store_releaseNodes (h : Hub σ) (session : SessionId) :
    (h.releaseNodes session).2.store =
      Store.saveNodes h.store (h.fieldsWhere (OpenNode.isOnlyFor session)) := by
  rw [releaseNodes, h.store_closeNodes session (h.nodup_nodesOf session), nodesOf]
  congr 1
  refine h.filterMap_fieldsIf? (q := fun n => decide (session ∈ n.subscribers)) fun n only => ?_
  exact decide_eq_true (OpenNode.mem_of_isOnlyFor only)

theorem router_releaseNodes (h : Hub σ) (session : SessionId) :
    (h.releaseNodes session).2.router = (h.post (h.farewell session)).router :=
  h.router_closeNodes session (h.nodup_nodesOf session) fun _ => mem_nodesOf_iff.mp

end Nodes

section Ending

variable {h : Hub σ} (session : SessionId)

theorem nodes_releaseMaps (h : Hub σ) : (h.releaseMaps session).2.nodes = h.nodes :=
  h.nodes_closeMaps session _

theorem router_releaseMaps (h : Hub σ) : (h.releaseMaps session).2.router = h.router :=
  h.router_closeMaps session _

theorem get?_maps_endSession (ok : h.Orderly) (map : MapId) :
    (h.endSession session).maps.get? map =
      (h.maps.get? map).bind fun m => m.without? session := by
  have later : (h.endSession session).maps = (h.releaseMaps session).2.maps :=
    maps_closeNodes _ _ _
  rw [later, get?_maps_releaseMaps ok]

theorem orderly_releaseMaps (ok : h.Orderly) : (h.releaseMaps session).2.Orderly :=
  (h.trail_closeMaps session (h.mapsOf session)).keeps (fun change => change.orderly) ok

theorem get?_nodes_endSession (ok : h.Orderly) (node : NodeId) :
    (h.endSession session).nodes.get? node =
      (h.nodes.get? node).bind fun n => n.without? session := by
  have earlier := h.nodes_releaseMaps session
  have swept := get?_nodes_releaseNodes (orderly_releaseMaps session ok) session node
  rwa [earlier] at swept

/-- The end of a session saves what only it has open, each map and node once. -/
theorem store_endSession (h : Hub σ) :
    (h.endSession session).store =
      Store.saveNodes (Store.saveMaps h.store (h.diagramsWhere (OpenMap.isOnlyFor session)))
        (h.fieldsWhere (OpenNode.isOnlyFor session)) := by
  have swept := (h.releaseMaps session).2.store_releaseNodes session
  have fields : (h.releaseMaps session).2.fieldsWhere (OpenNode.isOnlyFor session) =
      h.fieldsWhere (OpenNode.isOnlyFor session) := by
    rw [fieldsWhere, nodes_releaseMaps, fieldsWhere]
  rwa [store_releaseMaps, fields] at swept

/-- The end of a session posts the letters about its locks and nothing else. -/
theorem router_endSession (h : Hub σ) :
    (h.endSession session).router =
      (h.post (h.farewell session)).router.unregister session := by
  have posted := (h.releaseMaps session).2.router_releaseNodes session
  have letters : (h.releaseMaps session).2.farewell session = h.farewell session := by
    have here : (h.releaseMaps session).2.unlockLetters session = h.unlockLetters session := by
      funext node
      rw [unlockLetters, heldNode?, nodes_releaseMaps, ← heldNode?, ← unlockLetters]
    rw [farewell, here, nodesOf, nodes_releaseMaps, ← nodesOf, ← farewell]
  rw [letters, post, router_releaseMaps] at posted
  exact congrArg (fun r : Router => r.unregister session) posted

end Ending

section Flush

theorem store_writeBackMap (h : Hub σ) (map : MapId) :
    (h.writeBackMap map).store =
      Store.saveMaps h.store ((h.diagramIf? (fun _ => true) map).map (map, ·)).toList := by
  rw [diagramIf?]
  cases found : h.maps.get? map with
  | none => rw [writeBackMap, found]; rfl
  | some m => rw [writeBackMap_of_get? found]; rfl

theorem store_writeBackNode (h : Hub σ) (node : NodeId) :
    (h.writeBackNode node).store =
      Store.saveNodes h.store ((h.fieldsIf? (fun _ => true) node).map (node, ·)).toList := by
  rw [fieldsIf?]
  cases found : h.nodes.get? node with
  | none => rw [writeBackNode, found]; rfl
  | some n => rw [writeBackNode_of_get? found]; rfl

theorem store_writeBackMaps (h : Hub σ) {maps : List MapId} (distinct : maps.Nodup) :
    (h.writeBackMaps maps).store =
      Store.saveMaps h.store
        (maps.filterMap fun map => (h.diagramIf? (fun _ => true) map).map (map, ·)) := by
  refine store_foldl (fun h map => h.diagramIf? (fun _ => true) map)
    (fun store e => (Store.saveMap store e.1 e.2).2)
    (fun h map => h.store_writeBackMap map) ?_ h distinct
  intro h map q apart
  rw [diagramIf?, maps_writeBackMap, Table.get?_erase, if_neg apart, ← diagramIf?]

theorem store_writeBackNodes (h : Hub σ) {nodes : List NodeId} (distinct : nodes.Nodup) :
    (h.writeBackNodes nodes).store =
      Store.saveNodes h.store
        (nodes.filterMap fun node => (h.fieldsIf? (fun _ => true) node).map (node, ·)) := by
  refine store_foldl (fun h node => h.fieldsIf? (fun _ => true) node)
    (fun store e => (Store.saveNode store e.1 e.2).2)
    (fun h node => h.store_writeBackNode node) ?_ h distinct
  intro h node q apart
  rw [fieldsIf?, nodes_writeBackNode, Table.get?_erase, if_neg apart, ← fieldsIf?]

theorem nodes_writeBackMaps (h : Hub σ) (maps : List MapId) :
    (h.writeBackMaps maps).nodes = h.nodes := by
  induction maps generalizing h with
  | nil => rfl
  | cons map rest ih => exact (ih _).trans (nodes_writeBackMap h map)

/-- The shutdown saves every map and node that is open, each once. -/
theorem store_flush (h : Hub σ) :
    h.flushMaps.2.flushNodes.2.store =
      Store.saveNodes (Store.saveMaps h.store (h.diagramsWhere fun _ => true))
        (h.fieldsWhere fun _ => true) := by
  have maps : h.flushMaps.2.store = Store.saveMaps h.store (h.diagramsWhere fun _ => true) := by
    have all := h.filterMap_diagramIf? (p := fun _ => true) (q := fun _ => true) fun _ _ => rfl
    rw [List.filter_true] at all
    rw [flushMaps, h.store_writeBackMaps h.maps.nodup_keys, ← all, Table.keys]
  have kept : h.flushMaps.2.nodes = h.nodes := h.nodes_writeBackMaps _
  have all := h.flushMaps.2.filterMap_fieldsIf? (p := fun _ => true) (q := fun _ => true)
    fun _ _ => rfl
  rw [List.filter_true] at all
  have fields : h.flushMaps.2.fieldsWhere (fun _ => true) = h.fieldsWhere fun _ => true := by
    rw [fieldsWhere, kept, fieldsWhere]
  rw [flushNodes, store_writeBackNodes _ h.flushMaps.2.nodes.nodup_keys, ← maps, Table.keys, all,
    fields]

end Flush

end Hub

end TopoSync
