import Mathlib.Data.List.Basic
import TopoSync.Proofs.Hub.Sweeps

/-!
# Leaving maps and nodes

A session that leaves a map or a node changes its entry alone: the session is no longer among the
subscribers, and an entry that loses its last subscriber goes to the store.  Leaving some maps or
nodes one after the other therefore saves those that nobody else has open, each once and with its
contents as they were, and tells everybody else exactly about the locks that the session held.
-/

namespace TopoSync

namespace OpenMap

/-- The map without one of its subscribers, if it has others. -/
def without? (m : OpenMap) (session : SessionId) : Option OpenMap :=
  let left := m.subscribers.erase session
  if left.isEmpty then none else some { m with subscribers := left }

/-- Whether a session has the map open and nobody else does. -/
def isOnlyFor (session : SessionId) (m : OpenMap) : Bool :=
  m.subscribers.members = [session]

theorem mem_of_isOnlyFor {m : OpenMap} {session : SessionId}
    (only : m.isOnlyFor session = true) : session ∈ m.subscribers := by
  rw [Roster.mem_def, of_decide_eq_true only]
  exact List.mem_singleton.mpr rfl

/-- Only the last subscriber takes the map along. -/
theorem without?_of_viewed {m : OpenMap} (viewed : ∃ s, s ∈ m.subscribers) (session : SessionId) :
    m.without? session =
      if m.subscribers.members = [session] then none
      else some { m with subscribers := m.subscribers.erase session } := by
  have occupied := Roster.isEmpty_eq_false_iff.mpr viewed
  rw [without?]
  by_cases last : (m.subscribers.erase session).isEmpty = true
  · rw [if_pos last, if_pos (Roster.isEmpty_erase_iff.mp ⟨occupied, last⟩)]
  · rw [if_neg last, if_neg fun only => last (Roster.isEmpty_erase_iff.mpr only).2]

theorem without?_of_not_mem {m : OpenMap} {session : SessionId}
    (viewed : ∃ s, s ∈ m.subscribers) (absent : ¬ session ∈ m.subscribers) :
    m.without? session = some m := by
  rw [without?, Roster.erase_of_not_mem absent, Roster.isEmpty_eq_false_iff.mpr viewed]
  rfl

end OpenMap

namespace OpenNode

/-- The node without one of its subscribers and without the lock that it may hold, if there are other
subscribers. -/
def without? (n : OpenNode) (session : SessionId) : Option OpenNode :=
  let left := n.subscribers.erase session
  if left.isEmpty then none
  else some { n with holder := n.holder.filter fun k => k.session ≠ session, subscribers := left }

/-- Whether a session has the node open and nobody else does. -/
def isOnlyFor (session : SessionId) (n : OpenNode) : Bool :=
  n.subscribers.members = [session]

theorem mem_of_isOnlyFor {n : OpenNode} {session : SessionId}
    (only : n.isOnlyFor session = true) : session ∈ n.subscribers := by
  rw [Roster.mem_def, of_decide_eq_true only]
  exact List.mem_singleton.mpr rfl

/-- Only the last subscriber takes the node along. -/
theorem without?_of_viewed {n : OpenNode} (viewed : ∃ s, s ∈ n.subscribers) (session : SessionId) :
    n.without? session =
      if n.subscribers.members = [session] then none
      else some { n with
        holder := n.holder.filter fun k => k.session ≠ session
        subscribers := n.subscribers.erase session } := by
  have occupied := Roster.isEmpty_eq_false_iff.mpr viewed
  rw [without?]
  by_cases last : (n.subscribers.erase session).isEmpty = true
  · rw [if_pos last, if_pos (Roster.isEmpty_erase_iff.mp ⟨occupied, last⟩)]
  · rw [if_neg last, if_neg fun only => last (Roster.isEmpty_erase_iff.mpr only).2]

theorem without?_of_not_mem {n : OpenNode} {session : SessionId}
    (viewed : ∃ s, s ∈ n.subscribers) (absent : ¬ session ∈ n.subscribers)
    (held : ∀ k, n.holder = some k → k.session ∈ n.subscribers) :
    n.without? session = some n := by
  have holder : (n.holder.filter fun k => k.session ≠ session) = n.holder := by
    cases locked : n.holder with
    | none => rfl
    | some k =>
        have other : k.session ≠ session := by
          rintro rfl
          exact absent (held k locked)
        simp [other]
  rw [without?, holder, Roster.erase_of_not_mem absent, Roster.isEmpty_eq_false_iff.mpr viewed]
  rfl

end OpenNode

namespace Store

variable {σ : Type} [Store σ]

/-- The store after some maps have been saved, one after the other. -/
def saveMaps (store : σ) (maps : List (MapId × Diagram)) : σ :=
  maps.foldl (fun store e => (Store.saveMap store e.1 e.2).2) store

/-- The store after the fields of some nodes have been saved, one after the other. -/
def saveNodes (store : σ) (nodes : List (NodeId × NodeFields)) : σ :=
  nodes.foldl (fun store e => (Store.saveNode store e.1 e.2).2) store

end Store

namespace Hub

variable {σ : Type}

/-- The open maps of some kind, with their contents. -/
def diagramsWhere (h : Hub σ) (p : OpenMap → Bool) : List (MapId × Diagram) :=
  (h.maps.entries.filter fun e => p e.2).map fun e => (e.1, e.2.diagram)

/-- The open nodes of some kind, with their fields. -/
def fieldsWhere (h : Hub σ) (p : OpenNode → Bool) : List (NodeId × NodeFields) :=
  (h.nodes.entries.filter fun e => p e.2).map fun e => (e.1, e.2.record.fields)

/-- The contents of an open map, if it is of some kind. -/
def diagramIf? (h : Hub σ) (p : OpenMap → Bool) (map : MapId) : Option Diagram :=
  ((h.maps.get? map).filter p).map OpenMap.diagram

/-- The fields of an open node, if it is of some kind. -/
def fieldsIf? (h : Hub σ) (p : OpenNode → Bool) (node : NodeId) : Option NodeFields :=
  ((h.nodes.get? node).filter p).map fun n => n.record.fields

theorem nodup_diagramsWhere (h : Hub σ) (p : OpenMap → Bool) :
    ((h.diagramsWhere p).map Prod.fst).Nodup := by
  rw [diagramsWhere, List.map_map]
  exact h.maps.distinct.sublist (List.filter_sublist.map Prod.fst)

theorem nodup_fieldsWhere (h : Hub σ) (p : OpenNode → Bool) :
    ((h.fieldsWhere p).map Prod.fst).Nodup := by
  rw [fieldsWhere, List.map_map]
  exact h.nodes.distinct.sublist (List.filter_sublist.map Prod.fst)

theorem filterMap_diagramIf? (h : Hub σ) {p q : OpenMap → Bool}
    (among : ∀ m, p m = true → q m = true) :
    ((h.maps.entries.filter fun e => q e.2).map Prod.fst).filterMap
        (fun map => (h.diagramIf? p map).map (map, ·)) = h.diagramsWhere p := by
  simp only [diagramIf?, Option.map_map]
  exact h.maps.filterMap_get? (fun _ m _ => among m) fun map m => (map, m.diagram)

theorem filterMap_fieldsIf? (h : Hub σ) {p q : OpenNode → Bool}
    (among : ∀ n, p n = true → q n = true) :
    ((h.nodes.entries.filter fun e => q e.2).map Prod.fst).filterMap
        (fun node => (h.fieldsIf? p node).map (node, ·)) = h.fieldsWhere p := by
  simp only [fieldsIf?, Option.map_map]
  exact h.nodes.filterMap_get? (fun _ n _ => among n) fun node n => (node, n.record.fields)

/-- What is done for one key after the other saves what is looked up for the keys at the start, if a
step saves what is looked up for its own key and leaves the other keys alone. -/
theorem store_foldl {κ β : Type} (look : Hub σ → κ → Option β) (save : σ → κ × β → σ)
    {step : Hub σ → κ → Hub σ}
    (saves : ∀ h k, (step h k).store = ((look h k).map (k, ·)).toList.foldl save h.store)
    (others : ∀ h k q, q ≠ k → look (step h k) q = look h q) (h : Hub σ) {keys : List κ}
    (distinct : keys.Nodup) :
    (keys.foldl step h).store = (keys.filterMap fun k => (look h k).map (k, ·)).foldl save h.store := by
  induction keys generalizing h with
  | nil => rfl
  | cons k rest ih =>
      obtain ⟨fresh, distinct⟩ := List.nodup_cons.mp distinct
      have later : (rest.filterMap fun q => (look (step h k) q).map (q, ·)) =
          rest.filterMap fun q => (look h q).map (q, ·) := by
        apply List.filterMap_congr
        intro q member
        have apart : q ≠ k := by
          rintro rfl
          exact fresh member
        rw [others h k q apart]
      rw [List.foldl_cons, ih (step h k) distinct, later, saves]
      cases found : look h k <;> simp [found]

theorem nodup_mapsOf (h : Hub σ) (session : SessionId) : (h.mapsOf session).Nodup :=
  h.maps.distinct.sublist (List.filter_sublist.map Prod.fst)

theorem nodup_nodesOf (h : Hub σ) (session : SessionId) : (h.nodesOf session).Nodup :=
  h.nodes.distinct.sublist (List.filter_sublist.map Prod.fst)

/-- The letters by which a session gives back the lock of a node, if it holds the lock. -/
def unlockLetters (h : Hub σ) (session : SessionId) (node : NodeId) : List Letter :=
  match h.heldNode? session node with
  | none => []
  | some n => lettersToAll n.subscribers (.nodeUnlocked node)

/-- The letters by which a session that ends gives back its locks. -/
def farewell (h : Hub σ) (session : SessionId) : List Letter :=
  (h.nodesOf session).flatMap (h.unlockLetters session)

/-- Giving a lock back posts the letters that say so. -/
theorem router_unlockNode (h : Hub σ) (session : SessionId) (node : NodeId) :
    (h.unlockNode session node).2.router = (h.post (h.unlockLetters session node)).router := by
  rw [unlockNode, unlockLetters]
  cases h.heldNode? session node with
  | none => rfl
  | some n =>
      dsimp only
      rw [notifyAll_eq_post]
      rfl

theorem store_unlockNode (h : Hub σ) (session : SessionId) (node : NodeId) :
    (h.unlockNode session node).2.store = h.store := by
  rw [unlockNode]
  split <;> rfl

/-- Giving a lock back leaves the node without it. -/
theorem get?_nodes_unlockNode_self {h : Hub σ} {node : NodeId} {n : OpenNode}
    (found : h.nodes.get? node = some n) (session : SessionId) :
    (h.unlockNode session node).2.nodes.get? node =
      some { n with holder := n.holder.filter fun k => k.session ≠ session } := by
  rw [unlockNode]
  cases holding : h.heldNode? session node with
  | none =>
      have free := heldNode?_eq_none found holding
      have kept : (n.holder.filter fun k => k.session ≠ session) = n.holder := by
        cases held : n.holder with
        | none => rfl
        | some k => simpa [OpenNode.isHeldBy, held] using free
      rw [kept]
      exact found
  | some n' =>
      obtain ⟨found', held⟩ := heldNode?_eq_some_iff.mp holding
      obtain rfl : n = n' := Option.some.inj (found.symm.trans found')
      have gone : (n.holder.filter fun k => k.session ≠ session) = none := by
        cases locked : n.holder with
        | none => rfl
        | some k => simpa [OpenNode.isHeldBy, locked] using held
      rw [gone]
      dsimp only
      rw [notifyAll_eq_post, nodes_post, nodes_putNode, Table.get?_insert_self]

section Closing

variable [Store σ]

/-- Who does not have a map open cannot close it. -/
theorem closeMap_of_not_views {h : Hub σ} {session : SessionId} {map : MapId}
    (absent : ¬ h.ViewsMap session map) : (h.closeMap session map).2 = h := by
  rw [closeMap]
  split
  · rfl
  · rename_i m found
    exact absurd ⟨m, subscribedMap?_eq_some_iff.mp found⟩ absent

/-- A map that is closed keeps its other subscribers, or is written back if it has none. -/
theorem closeMap_of_mem {h : Hub σ} {session : SessionId} {map : MapId} {m : OpenMap}
    (found : h.maps.get? map = some m) (member : session ∈ m.subscribers) :
    (h.closeMap session map).2 =
      match m.without? session with
      | none => h.writeBackMap map
      | some left => h.putMap map left := by
  rw [closeMap, subscribedMap?_eq_some_iff.mpr ⟨found, member⟩, OpenMap.without?]
  dsimp only
  split
  · rw [writeBackMap_of_get? found, writeBackMap_of_get? (Table.get?_insert_self _ _ _)]
    simp only [maps_putMap, Table.erase_insert_self]
    rfl
  · rfl

theorem router_closeMap (h : Hub σ) (session : SessionId) (map : MapId) :
    (h.closeMap session map).2.router = h.router := by
  rw [closeMap]
  split
  · rfl
  · dsimp only
    split
    · rw [router_writeBackMap, router_putMap]
    · rfl

theorem nodes_closeMap (h : Hub σ) (session : SessionId) (map : MapId) :
    (h.closeMap session map).2.nodes = h.nodes := by
  rw [closeMap]
  split
  · rfl
  · dsimp only
    split
    · rw [nodes_writeBackMap, nodes_putMap]
    · rfl

theorem get?_maps_closeMap (h : Hub σ) (session : SessionId) (map q : MapId)
    (views : h.ViewsMap session map) :
    (h.closeMap session map).2.maps.get? q =
      if q = map then (h.maps.get? q).bind fun m => m.without? session else h.maps.get? q := by
  obtain ⟨m, found, member⟩ := views
  rw [closeMap_of_mem found member]
  cases left : m.without? session with
  | none =>
      dsimp only
      rw [maps_writeBackMap, Table.get?_erase]
      by_cases here : q = map
      · simp [here, found, left]
      · simp [here]
  | some rest =>
      dsimp only
      rw [maps_putMap, Table.get?_insert]
      by_cases here : q = map
      · simp [here, found, left]
      · simp [here]

/-- Closing a map saves it exactly if nobody else has it open. -/
theorem store_closeMap (h : Hub σ) (session : SessionId) (map : MapId) :
    (h.closeMap session map).2.store =
      Store.saveMaps h.store
        ((h.diagramIf? (OpenMap.isOnlyFor session) map).map (map, ·)).toList := by
  by_cases views : h.ViewsMap session map
  · obtain ⟨m, found, member⟩ := views
    have occupied : m.subscribers.isEmpty = false := Roster.isEmpty_eq_false_iff.mpr ⟨_, member⟩
    rw [closeMap_of_mem found member, diagramIf?, found, Option.filter_some, OpenMap.without?]
    by_cases only : m.subscribers.members = [session]
    · have last := (Roster.isEmpty_erase_iff.mpr only).2
      simp only [last, OpenMap.isOnlyFor, only, decide_true, if_true]
      rw [writeBackMap_of_get? found]
      rfl
    · have others : (m.subscribers.erase session).isEmpty = false := by
        rw [← Bool.not_eq_true]
        exact fun last => only (Roster.isEmpty_erase_iff.mp ⟨occupied, last⟩)
      simp only [others, OpenMap.isOnlyFor, only, decide_false]
      rfl
  · have none : (h.maps.get? map).filter (OpenMap.isOnlyFor session) = none := by
      refine Option.filter_eq_none_iff.mpr fun m found only => views ⟨m, found, ?_⟩
      exact OpenMap.mem_of_isOnlyFor only
    rw [closeMap_of_not_views views, diagramIf?, none]
    rfl

theorem get?_maps_closeMaps (h : Hub σ) (session : SessionId) {maps : List MapId}
    (distinct : maps.Nodup) (views : ∀ map ∈ maps, h.ViewsMap session map) (q : MapId) :
    (h.closeMaps session maps).maps.get? q =
      if q ∈ maps then (h.maps.get? q).bind fun m => m.without? session else h.maps.get? q := by
  induction maps generalizing h with
  | nil => rfl
  | cons map rest ih =>
      obtain ⟨fresh, distinct⟩ := List.nodup_cons.mp distinct
      have closed := h.get?_maps_closeMap session map
      have later : ∀ other ∈ rest, (h.closeMap session map).2.ViewsMap session other := by
        intro other member
        have apart : other ≠ map := fun same => fresh (same ▸ member)
        rw [ViewsMap, closed other (views map List.mem_cons_self), if_neg apart]
        exact views other (List.mem_cons_of_mem _ member)
      rw [closeMaps, List.foldl_cons, ← closeMaps, ih _ distinct later,
        closed q (views map List.mem_cons_self)]
      by_cases here : q = map
      · subst here
        simp [fresh]
      · simp [here]

theorem store_closeMaps (h : Hub σ) (session : SessionId) {maps : List MapId}
    (distinct : maps.Nodup) :
    (h.closeMaps session maps).store =
      Store.saveMaps h.store
        (maps.filterMap fun map => (h.diagramIf? (OpenMap.isOnlyFor session) map).map (map, ·)) := by
  refine store_foldl (fun h map => h.diagramIf? (OpenMap.isOnlyFor session) map)
    (fun store e => (Store.saveMap store e.1 e.2).2)
    (fun h map => h.store_closeMap session map) ?_ h distinct
  intro h map q apart
  have kept : (h.closeMap session map).2.maps.get? q = h.maps.get? q := by
    by_cases views : h.ViewsMap session map
    · rw [h.get?_maps_closeMap session map q views, if_neg apart]
    · rw [closeMap_of_not_views views]
  rw [diagramIf?, kept, diagramIf?]

theorem router_closeMaps (h : Hub σ) (session : SessionId) (maps : List MapId) :
    (h.closeMaps session maps).router = h.router := by
  induction maps generalizing h with
  | nil => rfl
  | cons map rest ih => exact (ih _).trans (h.router_closeMap session map)

theorem nodes_closeMaps (h : Hub σ) (session : SessionId) (maps : List MapId) :
    (h.closeMaps session maps).nodes = h.nodes := by
  induction maps generalizing h with
  | nil => rfl
  | cons map rest ih => exact (ih _).trans (h.nodes_closeMap session map)

theorem closeNode_of_not_views {h : Hub σ} {session : SessionId} {node : NodeId}
    (absent : ¬ h.ViewsNode session node) : (h.closeNode session node).2 = h := by
  rw [closeNode]
  split
  · rfl
  · rename_i n found
    exact absurd ⟨n, subscribedNode?_eq_some_iff.mp found⟩ absent

/-- A node that is left keeps its other subscribers, or is written back if it has none. -/
theorem leaveNode_of_get? {h : Hub σ} {session : SessionId} {node : NodeId} {n : OpenNode}
    (found : h.nodes.get? node = some n) :
    h.leaveNode session node =
      if (n.subscribers.erase session).isEmpty then h.writeBackNode node
      else h.putNode node { n with subscribers := n.subscribers.erase session } := by
  rw [leaveNode, found]
  dsimp only
  split
  · rw [writeBackNode_of_get? found, writeBackNode_of_get? (Table.get?_insert_self _ _ _)]
    simp only [nodes_putNode, Table.erase_insert_self]
    rfl
  · rfl

theorem router_leaveNode (h : Hub σ) (session : SessionId) (node : NodeId) :
    (h.leaveNode session node).router = h.router := by
  rw [leaveNode]
  split
  · rfl
  · dsimp only
    split
    · rw [router_writeBackNode, router_putNode]
    · rfl

/-- Closing a node posts what giving the lock back posts. -/
theorem router_closeNode {h : Hub σ} {session : SessionId} {node : NodeId}
    (views : h.ViewsNode session node) :
    (h.closeNode session node).2.router = (h.post (h.unlockLetters session node)).router := by
  obtain ⟨n, found, member⟩ := views
  rw [closeNode, subscribedNode?_eq_some_iff.mpr ⟨found, member⟩]
  exact (router_leaveNode _ session node).trans (h.router_unlockNode session node)

theorem get?_nodes_closeNode (h : Hub σ) (session : SessionId) (node q : NodeId)
    (views : h.ViewsNode session node) :
    (h.closeNode session node).2.nodes.get? q =
      if q = node then (h.nodes.get? q).bind fun n => n.without? session else h.nodes.get? q := by
  obtain ⟨n, found, member⟩ := views
  have unlocked := get?_nodes_unlockNode_self found session
  rw [closeNode, subscribedNode?_eq_some_iff.mpr ⟨found, member⟩]
  dsimp only
  rw [leaveNode_of_get? unlocked]
  by_cases here : q = node
  · subst here
    rw [if_pos rfl, found, Option.bind_some, OpenNode.without?]
    dsimp only
    split
    · rw [nodes_writeBackNode, Table.get?_erase, if_pos rfl]
    · rw [nodes_putNode, Table.get?_insert_self]
  · rw [if_neg here]
    split
    · rw [nodes_writeBackNode, Table.get?_erase, if_neg here]
      exact get?_nodes_unlockNode_of_ne here
    · rw [nodes_putNode, Table.get?_insert_of_ne here]
      exact get?_nodes_unlockNode_of_ne here

/-- Closing a node saves its fields exactly if nobody else has it open. -/
theorem store_closeNode (h : Hub σ) (session : SessionId) (node : NodeId) :
    (h.closeNode session node).2.store =
      Store.saveNodes h.store
        ((h.fieldsIf? (OpenNode.isOnlyFor session) node).map (node, ·)).toList := by
  by_cases views : h.ViewsNode session node
  · obtain ⟨n, found, member⟩ := views
    have occupied : n.subscribers.isEmpty = false := Roster.isEmpty_eq_false_iff.mpr ⟨_, member⟩
    have unlocked := get?_nodes_unlockNode_self found session
    rw [closeNode, subscribedNode?_eq_some_iff.mpr ⟨found, member⟩]
    dsimp only
    rw [leaveNode_of_get? unlocked, fieldsIf?, found, Option.filter_some]
    by_cases only : n.subscribers.members = [session]
    · have last := (Roster.isEmpty_erase_iff.mpr only).2
      simp only [last, OpenNode.isOnlyFor, only, decide_true, if_true]
      rw [writeBackNode_of_get? unlocked]
      dsimp only
      rw [store_unlockNode]
      rfl
    · have others : (n.subscribers.erase session).isEmpty = false := by
        rw [← Bool.not_eq_true]
        exact fun last => only (Roster.isEmpty_erase_iff.mp ⟨occupied, last⟩)
      simp only [others, OpenNode.isOnlyFor, only, decide_false]
      exact h.store_unlockNode session node
  · have none : (h.nodes.get? node).filter (OpenNode.isOnlyFor session) = none := by
      refine Option.filter_eq_none_iff.mpr fun n found only => views ⟨n, found, ?_⟩
      exact OpenNode.mem_of_isOnlyFor only
    rw [closeNode_of_not_views views, fieldsIf?, none]
    rfl

/-- A node that is closed is nothing to those who have another one open. -/
theorem viewsNode_closeNode_of_ne {h : Hub σ} {session q : SessionId} {node other : NodeId}
    (apart : other ≠ node) (views : h.ViewsNode session node) (sees : h.ViewsNode q other) :
    (h.closeNode session node).2.ViewsNode q other := by
  rw [ViewsNode, h.get?_nodes_closeNode session node other views, if_neg apart]
  exact sees

theorem get?_nodes_closeNodes (h : Hub σ) (session : SessionId) {nodes : List NodeId}
    (distinct : nodes.Nodup) (views : ∀ node ∈ nodes, h.ViewsNode session node) (q : NodeId) :
    (h.closeNodes session nodes).nodes.get? q =
      if q ∈ nodes then (h.nodes.get? q).bind fun n => n.without? session
      else h.nodes.get? q := by
  induction nodes generalizing h with
  | nil => rfl
  | cons node rest ih =>
      obtain ⟨fresh, distinct⟩ := List.nodup_cons.mp distinct
      have first := views node List.mem_cons_self
      have later : ∀ other ∈ rest, (h.closeNode session node).2.ViewsNode session other := by
        intro other member
        refine viewsNode_closeNode_of_ne ?_ first (views other (List.mem_cons_of_mem _ member))
        exact fun same => fresh (same ▸ member)
      rw [closeNodes, List.foldl_cons, ← closeNodes, ih _ distinct later,
        h.get?_nodes_closeNode session node q first]
      by_cases here : q = node
      · subst here
        simp [fresh]
      · simp [here]

theorem store_closeNodes (h : Hub σ) (session : SessionId) {nodes : List NodeId}
    (distinct : nodes.Nodup) :
    (h.closeNodes session nodes).store =
      Store.saveNodes h.store
        (nodes.filterMap fun node =>
          (h.fieldsIf? (OpenNode.isOnlyFor session) node).map (node, ·)) := by
  refine store_foldl (fun h node => h.fieldsIf? (OpenNode.isOnlyFor session) node)
    (fun store e => (Store.saveNode store e.1 e.2).2)
    (fun h node => h.store_closeNode session node) ?_ h distinct
  intro h node q apart
  have kept : (h.closeNode session node).2.nodes.get? q = h.nodes.get? q := by
    by_cases views : h.ViewsNode session node
    · rw [h.get?_nodes_closeNode session node q views, if_neg apart]
    · rw [closeNode_of_not_views views]
  rw [fieldsIf?, kept, fieldsIf?]

/-- Closing nodes posts what giving back their locks posts, node by node. -/
theorem router_closeNodes (h : Hub σ) (session : SessionId) {nodes : List NodeId}
    (distinct : nodes.Nodup) (views : ∀ node ∈ nodes, h.ViewsNode session node) :
    (h.closeNodes session nodes).router =
      (h.post (nodes.flatMap (h.unlockLetters session))).router := by
  induction nodes generalizing h with
  | nil => rfl
  | cons node rest ih =>
      obtain ⟨fresh, distinct⟩ := List.nodup_cons.mp distinct
      have first := views node List.mem_cons_self
      have apart : ∀ other ∈ rest, other ≠ node := fun other member same => fresh (same ▸ member)
      have later : ∀ other ∈ rest, (h.closeNode session node).2.ViewsNode session other :=
        fun other member => viewsNode_closeNode_of_ne (apart other member) first
          (views other (List.mem_cons_of_mem _ member))
      have letters : rest.flatMap ((h.closeNode session node).2.unlockLetters session) =
          rest.flatMap (h.unlockLetters session) := by
        apply List.flatMap_congr
        intro other member
        rw [unlockLetters, heldNode?, h.get?_nodes_closeNode session node other first,
          if_neg (apart other member), ← heldNode?, ← unlockLetters]
      rw [closeNodes, List.foldl_cons, ← closeNodes, ih _ distinct later, letters,
        List.flatMap_cons, ← post_post, post, post, router_closeNode first]

end Closing

end Hub

end TopoSync
