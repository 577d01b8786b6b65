import TopoSync.Proofs.Hub.Trails

/-!
# The end of a session and the shutdown

Both go through tables entry by entry.  A session that ends leaves every map and node that it has
open, in whatever order they are visited, so nothing of it is left when it is taken out.
-/

namespace TopoSync.Hub

variable {σ : Type}

/-- Whether a session subscribes to a map. -/
def ViewsMap (h : Hub σ) (session : SessionId) (map : MapId) : Prop :=
  ∃ m, h.maps.get? map = some m ∧ session ∈ m.subscribers

/-- Whether a session subscribes to a node. -/
def ViewsNode (h : Hub σ) (session : SessionId) (node : NodeId) : Prop :=
  ∃ n, h.nodes.get? node = some n ∧ session ∈ n.subscribers

theorem mem_mapsOf_iff {h : Hub σ} {session : SessionId} {map : MapId} [Store σ] :
    map ∈ h.mapsOf session ↔ h.ViewsMap session map := by
  simp only [mapsOf, List.mem_map, List.mem_filter, decide_eq_true_eq]
  constructor
  · rintro ⟨⟨_, m⟩, ⟨entry, member⟩, rfl⟩
    exact ⟨m, Table.mem_entries_iff.mp entry, member⟩
  · rintro ⟨m, found, member⟩
    exact ⟨(map, m), ⟨Table.mem_entries_iff.mpr found, member⟩, rfl⟩

theorem mem_nodesOf_iff {h : Hub σ} {session : SessionId} {node : NodeId} [Store σ] :
    node ∈ h.nodesOf session ↔ h.ViewsNode session node := by
  simp only [nodesOf, List.mem_map, List.mem_filter, decide_eq_true_eq]
  constructor
  · rintro ⟨⟨_, n⟩, ⟨entry, member⟩, rfl⟩
    exact ⟨n, Table.mem_entries_iff.mp entry, member⟩
  · rintro ⟨n, found, member⟩
    exact ⟨(node, n), ⟨Table.mem_entries_iff.mpr found, member⟩, rfl⟩

theorem get?_nodes_unlockNode_of_ne {h : Hub σ} {session : SessionId} {node q : NodeId}
    (other : q ≠ node) : (h.unlockNode session node).2.nodes.get? q = h.nodes.get? q := by
  rw [unlockNode]
  split
  · rfl
  · exact Table.get?_insert_of_ne other _ _

theorem maps_unlockNode (h : Hub σ) (session : SessionId) (node : NodeId) :
    (h.unlockNode session node).2.maps = h.maps := by
  rw [unlockNode]
  split <;> rfl

section Closing

variable [Store σ]

theorem maps_leaveNode (h : Hub σ) (session : SessionId) (node : NodeId) :
    (h.leaveNode session node).maps = h.maps := by
  rw [leaveNode]
  split
  · rfl
  · dsimp only
    split
    · rw [maps_writeBackNode, maps_putNode]
    · rw [maps_putNode]

theorem maps_closeNode (h : Hub σ) (session : SessionId) (node : NodeId) :
    (h.closeNode session node).2.maps = h.maps := by
  rw [closeNode]
  split
  · rfl
  · rw [maps_leaveNode, maps_unlockNode]

/-- After a session has closed a map it views the others that it viewed. -/
theorem viewsMap_of_closeMap {h : Hub σ} {session : SessionId} {map q : MapId}
    (views : (h.closeMap session map).2.ViewsMap session q) :
    q ≠ map ∧ h.ViewsMap session q := by
  rw [closeMap] at views
  split at views
  · rename_i missing
    refine ⟨?_, views⟩
    rintro rfl
    obtain ⟨m, found, member⟩ := views
    rw [subscribedMap?_eq_some_iff.mpr ⟨found, member⟩] at missing
    cases missing
  · rename_i m found
    have left : ¬ session ∈ m.subscribers.erase session :=
      fun member => (Roster.mem_erase.mp member).2 rfl
    dsimp only at views
    split at views
    · rw [ViewsMap, maps_writeBackMap, maps_putMap, Table.erase_insert_self] at views
      exact Table.exists_of_erase views
    · rw [ViewsMap, maps_putMap] at views
      exact Table.exists_of_insert (P := fun m : OpenMap => session ∈ m.subscribers) left views

theorem viewsNode_of_leaveNode {h : Hub σ} {session : SessionId} {node q : NodeId}
    (views : (h.leaveNode session node).ViewsNode session q) :
    q ≠ node ∧ h.ViewsNode session q := by
  rw [leaveNode] at views
  split at views
  · rename_i missing
    refine ⟨?_, views⟩
    rintro rfl
    obtain ⟨n, found, _⟩ := views
    rw [missing] at found
    cases found
  · rename_i n found
    have left : ¬ session ∈ n.subscribers.erase session :=
      fun member => (Roster.mem_erase.mp member).2 rfl
    dsimp only at views
    split at views
    · rw [ViewsNode, nodes_writeBackNode, nodes_putNode, Table.erase_insert_self] at views
      exact Table.exists_of_erase views
    · rw [ViewsNode, nodes_putNode] at views
      exact Table.exists_of_insert (P := fun n : OpenNode => session ∈ n.subscribers) left views

/-- After a session has closed a node it views the others that it viewed. -/
theorem viewsNode_of_closeNode {h : Hub σ} {session : SessionId} {node q : NodeId}
    (views : (h.closeNode session node).2.ViewsNode session q) :
    q ≠ node ∧ h.ViewsNode session q := by
  rw [closeNode] at views
  split at views
  · rename_i missing
    refine ⟨?_, views⟩
    rintro rfl
    obtain ⟨n, found, member⟩ := views
    rw [subscribedNode?_eq_some_iff.mpr ⟨found, member⟩] at missing
    cases missing
  · obtain ⟨other, n, found, member⟩ := viewsNode_of_leaveNode views
    rw [get?_nodes_unlockNode_of_ne other] at found
    exact ⟨other, n, found, member⟩

theorem viewsMap_of_closeMaps {h : Hub σ} {session : SessionId} {maps : List MapId} {q : MapId}
    (views : (h.closeMaps session maps).ViewsMap session q) :
    q ∉ maps ∧ h.ViewsMap session q := by
  induction maps generalizing h with
  | nil => exact ⟨List.not_mem_nil, views⟩
  | cons map rest ih =>
      obtain ⟨later, views⟩ := ih views
      obtain ⟨other, views⟩ := viewsMap_of_closeMap views
      exact ⟨List.not_mem_cons_of_ne_of_not_mem other later, views⟩

theorem viewsNode_of_closeNodes {h : Hub σ} {session : SessionId} {nodes : List NodeId}
    {q : NodeId} (views : (h.closeNodes session nodes).ViewsNode session q) :
    q ∉ nodes ∧ h.ViewsNode session q := by
  induction nodes generalizing h with
  | nil => exact ⟨List.not_mem_nil, views⟩
  | cons node rest ih =>
      obtain ⟨later, views⟩ := ih views
      obtain ⟨other, views⟩ := viewsNode_of_closeNode views
      exact ⟨List.not_mem_cons_of_ne_of_not_mem other later, views⟩

theorem maps_closeNodes (h : Hub σ) (session : SessionId) (nodes : List NodeId) :
    (h.closeNodes session nodes).maps = h.maps := by
  induction nodes generalizing h with
  | nil => rfl
  | cons node rest ih => exact (ih _).trans (maps_closeNode h session node)

/-- What is done for each item of a list posts nothing if it does not for any single item. -/
theorem trail_foldl {β : Type} {step : Hub σ → β → Hub σ} (one : ∀ h b, Trail h [] (step h b))
    (h : Hub σ) (items : List β) : Trail h [] (items.foldl step h) := by
  induction items generalizing h with
  | nil => exact .still h
  | cons b rest ih => exact (one h b).trans_silent (ih (step h b))

theorem trail_closeMaps (h : Hub σ) (session : SessionId) (maps : List MapId) :
    Trail h [] (h.closeMaps session maps) :=
  trail_foldl (fun h map => h.trail_closeMap session map) h maps

theorem trail_closeNodes (h : Hub σ) (session : SessionId) (nodes : List NodeId) :
    ∃ letters : List Letter, Trail h (letters.map .letter) (h.closeNodes session nodes) := by
  induction nodes generalizing h with
  | nil => exact ⟨[], .still h⟩
  | cons node rest ih =>
      obtain ⟨first, one⟩ := h.trail_closeNode session node
      obtain ⟨others, two⟩ := ih (h.closeNode session node).2
      refine ⟨first ++ others, ?_⟩
      rw [List.map_append]
      exact one.trans two

/-- The end of a session is a succession of changes, the last of which takes the session out. -/
theorem trail_endSession (h : Hub σ) (session : SessionId) :
    ∃ letters : List Letter,
      Trail h (letters.map .letter ++ [.ended session]) (h.endSession session) := by
  have sweepMaps := h.trail_closeMaps session (h.mapsOf session)
  obtain ⟨letters, sweepNodes⟩ := trail_closeNodes (h.releaseMaps session).2 session
    ((h.releaseMaps session).2.nodesOf session)
  have noMap : ∀ map, ¬ ((h.releaseMaps session).2.releaseNodes session).2.ViewsMap session map := by
    rintro map ⟨m, found, member⟩
    rw [releaseNodes, maps_closeNodes] at found
    obtain ⟨unlisted, views⟩ := viewsMap_of_closeMaps ⟨m, found, member⟩
    exact unlisted (mem_mapsOf_iff.mpr views)
  have noNode : ∀ node,
      ¬ ((h.releaseMaps session).2.releaseNodes session).2.ViewsNode session node := by
    intro node views
    obtain ⟨unlisted, views⟩ := viewsNode_of_closeNodes views
    exact unlisted (mem_nodesOf_iff.mpr views)
  have ended := Change.sessionEnded ((h.releaseMaps session).2.releaseNodes session).2 session
    (fun map m found member => noMap map ⟨m, found, member⟩)
    (fun node n found member => noNode node ⟨n, found, member⟩)
  exact ⟨letters, (sweepMaps.trans_silent sweepNodes).trans (.single ended)⟩

theorem trail_writeBackMaps (h : Hub σ) (maps : List MapId) : Trail h [] (h.writeBackMaps maps) :=
  trail_foldl (fun h map => .single (.mapFlushed h map)) h maps

theorem trail_writeBackNodes (h : Hub σ) (nodes : List NodeId) :
    Trail h [] (h.writeBackNodes nodes) :=
  trail_foldl (fun h node => .single (.nodeFlushed h node)) h nodes

theorem router_writeBackMaps (h : Hub σ) (maps : List MapId) :
    (h.writeBackMaps maps).router = h.router := by
  induction maps generalizing h with
  | nil => rfl
  | cons map rest ih => exact (ih _).trans (router_writeBackMap h map)

theorem router_writeBackNodes (h : Hub σ) (nodes : List NodeId) :
    (h.writeBackNodes nodes).router = h.router := by
  induction nodes generalizing h with
  | nil => rfl
  | cons node rest ih => exact (ih _).trans (router_writeBackNode h node)

/-- Writing everything back is nothing to the router. -/
theorem router_flush (h : Hub σ) : h.flushMaps.2.flushNodes.2.router = h.router :=
  (router_writeBackNodes _ _).trans (router_writeBackMaps _ _)

theorem get?_maps_writeBackMaps (h : Hub σ) (maps : List MapId) (q : MapId) :
    (h.writeBackMaps maps).maps.get? q = if q ∈ maps then none else h.maps.get? q := by
  induction maps generalizing h with
  | nil => rfl
  | cons map rest ih =>
      rw [writeBackMaps, List.foldl_cons, ← writeBackMaps, ih, maps_writeBackMap, Table.get?_erase]
      by_cases here : q = map <;> simp [here]

theorem get?_nodes_writeBackNodes (h : Hub σ) (nodes : List NodeId) (q : NodeId) :
    (h.writeBackNodes nodes).nodes.get? q = if q ∈ nodes then none else h.nodes.get? q := by
  induction nodes generalizing h with
  | nil => rfl
  | cons node rest ih =>
      rw [writeBackNodes, List.foldl_cons, ← writeBackNodes, ih, nodes_writeBackNode,
        Table.get?_erase]
      by_cases here : q = node <;> simp [here]

theorem maps_writeBackNodes (h : Hub σ) (nodes : List NodeId) :
    (h.writeBackNodes nodes).maps = h.maps := by
  induction nodes generalizing h with
  | nil => rfl
  | cons node rest ih => exact (ih _).trans (maps_writeBackNode h node)

/-- After everything has been written back no map is open. -/
theorem maps_flush (h : Hub σ) : h.flushMaps.2.flushNodes.2.maps = ∅ := by
  rw [flushNodes, maps_writeBackNodes, flushMaps]
  refine Table.eq_empty_of_get? fun q => ?_
  rw [get?_maps_writeBackMaps]
  split
  · rfl
  · rename_i closed
    exact Table.get?_eq_none_iff.mpr closed

/-- After everything has been written back no node is open. -/
theorem nodes_flush (h : Hub σ) : h.flushMaps.2.flushNodes.2.nodes = ∅ := by
  rw [flushNodes]
  refine Table.eq_empty_of_get? fun q => ?_
  rw [get?_nodes_writeBackNodes]
  split
  · rfl
  · rename_i closed
    exact Table.get?_eq_none_iff.mpr closed

/-- Writing everything back posts nothing. -/
theorem trail_flush (h : Hub σ) : Trail h [] h.flushMaps.2.flushNodes.2 :=
  (h.trail_writeBackMaps h.maps.keys).trans_silent (trail_writeBackNodes _ _)

end Closing

end TopoSync.Hub
