import TopoSync.Proofs.Hub.Leaving
import TopoSync.Proofs.Hub.Showing

/-!
# What a request does to an entry

A request of a session does one thing at most to the entry of a map or a node, and what it does is in
the session's power: it subscribes itself or leaves, edits a map that it subscribes to, and locks a
free node or changes and unlocks one whose lock it holds.  Everything that a request can and cannot do
to what others have open follows from these few cases.
-/

namespace TopoSync

/-- What a request of a session can do to the entry of a map. -/
inductive MapTurn (s : SessionId) : Option OpenMap → Option OpenMap → Prop
  | still (entry : Option OpenMap) : MapTurn s entry entry
  | loaded (d : Diagram) : MapTurn s none (some ⟨d, Roster.insert ∅ s⟩)
  | joined (m : OpenMap) :
      MapTurn s (some m) (some { m with subscribers := m.subscribers.insert s })
  | edited (m : OpenMap) (edit : Edit) (member : s ∈ m.subscribers) :
      MapTurn s (some m) (some { m with diagram := m.diagram.edited edit })
  | left (m : OpenMap) (member : s ∈ m.subscribers) : MapTurn s (some m) (m.without? s)

/-- What a request of a session can do to the entry of a node. -/
inductive NodeTurn (s : SessionId) : Option OpenNode → Option OpenNode → Prop
  | still (entry : Option OpenNode) : NodeTurn s entry entry
  | loaded (record : NodeRecord) : NodeTurn s none (some ⟨record, none, Roster.insert ∅ s⟩)
  | joined (n : OpenNode) :
      NodeTurn s (some n) (some { n with subscribers := n.subscribers.insert s })
  | locked (n : OpenNode) (holder : Holder) (free : n.holder = none) (own : holder.session = s)
      (member : s ∈ n.subscribers) : NodeTurn s (some n) (some { n with holder := some holder })
  | updated (n : OpenNode) (fields : NodeFields) (held : n.isHeldBy s = true) :
      NodeTurn s (some n) (some { n with record := { n.record with fields } })
  | unlocked (n : OpenNode) (held : n.isHeldBy s = true) :
      NodeTurn s (some n) (some { n with holder := none })
  | left (n : OpenNode) (member : s ∈ n.subscribers) : NodeTurn s (some n) (n.without? s)

namespace MapTurn

variable {s : SessionId} {before after : Option OpenMap}

/-- The contents of a map that is open before and after change only at the hands of a subscriber. -/
theorem diagram_eq_or_mem (turn : MapTurn s before after) {m m' : OpenMap} (open_ : before = some m)
    (still : after = some m') : m'.diagram = m.diagram ∨ s ∈ m.subscribers := by
  cases turn with
  | still => exact .inl (congrArg OpenMap.diagram (Option.some.inj (still.symm.trans open_)))
  | loaded => cases open_
  | joined => cases open_; cases still; exact .inl rfl
  | edited m edit member => cases open_; exact .inr member
  | left m member => cases open_; exact .inr member

/-- Other sessions subscribe afterwards exactly if they did before. -/
theorem subscribes_iff (turn : MapTurn s before after) {q : SessionId} (other : q ≠ s) :
    (∃ m, after = some m ∧ q ∈ m.subscribers) ↔ ∃ m, before = some m ∧ q ∈ m.subscribers := by
  cases turn with
  | still => exact .rfl
  | loaded d => simp [Roster.mem_insert, other]
  | joined m => simp [Roster.mem_insert, other]
  | edited m edit member => simp
  | left m member =>
      rw [OpenMap.without?]
      split
      · rename_i empty
        have gone := Roster.isEmpty_iff.mp empty q
        simpa [Roster.mem_erase, other] using gone
      · simp [Roster.mem_erase, other]

end MapTurn

namespace NodeTurn

variable {s : SessionId} {before after : Option OpenNode}

/-- The record of a node that is open before and after changes only at the hands of the holder of the
lock, and only in its fields. -/
theorem record_eq_or_held (turn : NodeTurn s before after) {n n' : OpenNode} (open_ : before = some n)
    (still : after = some n') :
    n'.record = n.record ∨
      n.isHeldBy s = true ∧ n'.record.interfaces = n.record.interfaces := by
  cases turn with
  | still => exact .inl (congrArg OpenNode.record (Option.some.inj (still.symm.trans open_)))
  | loaded => cases open_
  | joined => cases open_; cases still; exact .inl rfl
  | locked => cases open_; cases still; exact .inl rfl
  | updated n fields held => cases open_; cases still; exact .inr ⟨held, rfl⟩
  | unlocked => cases open_; cases still; exact .inl rfl
  | left n member =>
      cases open_
      rw [OpenNode.without?] at still
      split at still
      · cases still
      · cases still
        exact .inl rfl

/-- Other sessions subscribe afterwards exactly if they did before. -/
theorem subscribes_iff (turn : NodeTurn s before after) {q : SessionId} (other : q ≠ s) :
    (∃ n, after = some n ∧ q ∈ n.subscribers) ↔ ∃ n, before = some n ∧ q ∈ n.subscribers := by
  cases turn with
  | still => exact .rfl
  | loaded record => simp [Roster.mem_insert, other]
  | joined n => simp [Roster.mem_insert, other]
  | locked n holder free own member => simp
  | updated n fields held => simp
  | unlocked n held => simp
  | left n member =>
      rw [OpenNode.without?]
      split
      · rename_i empty
        have gone := Roster.isEmpty_iff.mp empty q
        simpa [Roster.mem_erase, other] using gone
      · simp [Roster.mem_erase, other]

end NodeTurn

namespace Hub

variable {σ : Type} [Store σ] (h : Hub σ) (s : SessionId) (now : UInt32)

theorem mapTurn_openMap (map : MapId) :
    MapTurn s (h.maps.get? map) ((h.openMap s map).2.maps.get? map) := by
  rcases h.openMap_cases s map with ⟨_, refused⟩ | ⟨_, _, _, refused⟩ | ⟨m, _, found, joined⟩ |
    ⟨d, store, _, closed, _, loaded⟩
  · rw [refused]
    exact .still _
  · rw [refused]
    exact .still _
  · rw [joined, maps_post, maps_putMap, Table.get?_insert_self, found]
    exact .joined m
  · rw [loaded, maps_post, maps_putMap, Table.get?_insert_self, closed]
    exact .loaded d

theorem mapTurn_closeMap (map : MapId) :
    MapTurn s (h.maps.get? map) ((h.closeMap s map).2.maps.get? map) := by
  by_cases views : h.ViewsMap s map
  · rw [h.get?_maps_closeMap s map map views, if_pos rfl]
    obtain ⟨m, found, member⟩ := views
    rw [found]
    exact .left m member
  · rw [closeMap_of_not_views views]
    exact .still _

/-- Whatever a session asks for, it does one thing at most to an entry of a map. -/
theorem mapTurn_apply (request : Request) (q : MapId) :
    MapTurn s (h.maps.get? q) ((h.apply s now request).2.maps.get? q) := by
  by_cases here : request.map? = some q
  · by_cases wants : request.editedMap? = some q
    · rcases edit_cases wants h now with ⟨_, _, refused⟩ | ⟨e, m, _, _, found, member, _, maps⟩
      · rw [refused]
        exact .still _
      · rw [maps, Table.get?_insert_self, found]
        exact .edited m e member
    · cases request with
      | openMap map =>
          obtain rfl := Option.some.inj here
          exact h.mapTurn_openMap s map
      | closeMap map =>
          obtain rfl := Option.some.inj here
          exact h.mapTurn_closeMap s map
      | addSymbol | deleteSymbol | translateSymbol | addConnection | deleteConnection =>
          exact absurd here wants
      | _ => cases here
  · rw [(h.sameBut_apply s now request).maps q here]
    exact .still _

theorem nodeTurn_openNode (node : NodeId) :
    NodeTurn s (h.nodes.get? node) ((h.openNode s node).2.nodes.get? node) := by
  rcases h.openNode_cases s node with ⟨_, _, _, refused⟩ | ⟨store, _, _, missed⟩ |
    ⟨n, found, joined⟩ | ⟨record, store, closed, _, loaded⟩
  · rw [refused]
    exact .still _
  · rw [missed]
    exact .still _
  · rw [joined, nodes_post, nodes_putNode, Table.get?_insert_self, found]
    exact .joined n
  · rw [loaded, nodes_post, nodes_putNode, Table.get?_insert_self, closed]
    exact .loaded record

theorem nodeTurn_closeNode (node : NodeId) :
    NodeTurn s (h.nodes.get? node) ((h.closeNode s node).2.nodes.get? node) := by
  by_cases views : h.ViewsNode s node
  · rw [h.get?_nodes_closeNode s node node views, if_pos rfl]
    obtain ⟨n, found, member⟩ := views
    rw [found]
    exact .left n member
  · rw [closeNode_of_not_views views]
    exact .still _

omit [Store σ] in
theorem nodeTurn_lockNode (node : NodeId) :
    NodeTurn s (h.nodes.get? node) ((h.lockNode s node now).2.nodes.get? node) := by
  rw [lockNode]
  split
  · exact .still _
  · rename_i n subscribed
    obtain ⟨found, member⟩ := subscribedNode?_eq_some_iff.mp subscribed
    split
    · exact .still _
    · rename_i free
      split
      · exact .still _
      · dsimp only
        rw [nodes_putNode, Table.get?_insert_self, found]
        exact .locked n _ free rfl member

omit [Store σ] in
theorem nodeTurn_setFields (node : NodeId) (fields : NodeFields) :
    NodeTurn s (h.nodes.get? node) ((h.setFields s node fields).2.nodes.get? node) := by
  rw [setFields]
  split
  · exact .still _
  · rename_i n holding
    obtain ⟨found, held⟩ := heldNode?_eq_some_iff.mp holding
    dsimp only
    rw [notifyOthers_eq_post, nodes_post, nodes_putNode, Table.get?_insert_self, found]
    exact .updated n fields held

omit [Store σ] in
theorem nodeTurn_unlockNode (node : NodeId) :
    NodeTurn s (h.nodes.get? node) ((h.unlockNode s node).2.nodes.get? node) := by
  rw [unlockNode]
  split
  · exact .still _
  · rename_i n holding
    obtain ⟨found, held⟩ := heldNode?_eq_some_iff.mp holding
    dsimp only
    rw [notifyAll_eq_post, nodes_post, nodes_putNode, Table.get?_insert_self, found]
    exact .unlocked n held

/-- Whatever a session asks for, it does one thing at most to an entry of a node. -/
theorem nodeTurn_apply (request : Request) (q : NodeId) :
    NodeTurn s (h.nodes.get? q) ((h.apply s now request).2.nodes.get? q) := by
  by_cases here : request.node? = some q
  · cases request with
    | openNode node =>
        obtain rfl := Option.some.inj here
        exact h.nodeTurn_openNode s node
    | closeNode node =>
        obtain rfl := Option.some.inj here
        exact h.nodeTurn_closeNode s node
    | setNode node fields =>
        obtain rfl := Option.some.inj here
        exact h.nodeTurn_setFields s node fields
    | lockNode node =>
        obtain rfl := Option.some.inj here
        exact h.nodeTurn_lockNode s now node
    | unlockNode node =>
        obtain rfl := Option.some.inj here
        exact h.nodeTurn_unlockNode s node
    | _ => cases here
  · rw [(h.sameBut_apply s now request).nodes q here]
    exact .still _

end Hub

end TopoSync
