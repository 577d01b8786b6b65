import TopoSync.Proofs.Hub.Ending

/-!
# What acts do to the store

An act asks the store at most one question, and then saves what it gives up: a request to close what
nobody else has open, the end of a session and the shutdown give something up, and nothing else does.
Hence the store after an act is known in full, whatever kind of store it is.
-/

namespace TopoSync

/-- Whether an act gives up what some sessions have open and what a request closes: at the shutdown, or
if the only session that has it open ends or makes the request. -/
def Act.givesUp (members : Roster) (closing : Request) : Act → Bool
  | answer session _ frame =>
      decide (Request.ofFrame? frame = some closing) && decide (members.members = [session])
  | finish session => members.members = [session]
  | flush => true
  | connect .. | retire .. | buffer .. | clearMarks => false

theorem Act.givesUp_iff {a : Act} {members : Roster} {closing : Request} :
    a.givesUp members closing = true ↔
      a = .flush ∨ ∃ session, members.members = [session] ∧
        (a = .finish session ∨
          ∃ now frame, a = .answer session now frame ∧ Request.ofFrame? frame = some closing) := by
  cases a with
  | answer session now frame =>
      simp only [givesUp, Bool.and_eq_true, decide_eq_true_eq]
      constructor
      · rintro ⟨asked, only⟩
        exact .inr ⟨session, only, .inr ⟨now, frame, rfl, asked⟩⟩
      · rintro (flushed | ⟨_, only, ended | ⟨_, _, same, asked⟩⟩)
        · cases flushed
        · cases ended
        · cases same
          exact ⟨asked, only⟩
  | finish session =>
      simp only [givesUp, decide_eq_true_eq]
      constructor
      · exact fun only => .inr ⟨session, only, .inl rfl⟩
      · rintro (flushed | ⟨_, only, ended | ⟨_, _, same, _⟩⟩)
        · cases flushed
        · cases ended
          exact only
        · cases same
  | flush => simp [givesUp]
  | _ => simp [givesUp]

/-- Whether a request asks for a map or a node to be closed. -/
def Request.closes : Request → Bool
  | closeMap _ | closeNode _ => true
  | _ => false

namespace Hub

variable {σ : Type}

/-- The maps that an act gives up, with their contents. -/
def mapsGivenUp (h : Hub σ) (a : Act) : List (MapId × Diagram) :=
  (h.maps.entries.filter fun e => a.givesUp e.2.subscribers (.closeMap e.1)).map
    fun e => (e.1, e.2.diagram)

/-- The nodes that an act gives up, with their fields. -/
def nodesGivenUp (h : Hub σ) (a : Act) : List (NodeId × NodeFields) :=
  (h.nodes.entries.filter fun e => a.givesUp e.2.subscribers (.closeNode e.1)).map
    fun e => (e.1, e.2.record.fields)

theorem mem_mapsGivenUp_iff {h : Hub σ} {a : Act} {map : MapId} {contents : Diagram} :
    (map, contents) ∈ h.mapsGivenUp a ↔
      ∃ m, h.maps.get? map = some m ∧ m.diagram = contents ∧
        a.givesUp m.subscribers (.closeMap map) = true := by
  simp only [mapsGivenUp, List.mem_map, List.mem_filter, Prod.mk.injEq]
  constructor
  · rintro ⟨⟨_, m⟩, ⟨member, given⟩, rfl, rfl⟩
    exact ⟨m, Table.mem_entries_iff.mp member, rfl, given⟩
  · rintro ⟨m, found, rfl, given⟩
    exact ⟨(map, m), ⟨Table.mem_entries_iff.mpr found, given⟩, rfl, rfl⟩

theorem mem_nodesGivenUp_iff {h : Hub σ} {a : Act} {node : NodeId} {fields : NodeFields} :
    (node, fields) ∈ h.nodesGivenUp a ↔
      ∃ n, h.nodes.get? node = some n ∧ n.record.fields = fields ∧
        a.givesUp n.subscribers (.closeNode node) = true := by
  simp only [nodesGivenUp, List.mem_map, List.mem_filter, Prod.mk.injEq]
  constructor
  · rintro ⟨⟨_, n⟩, ⟨member, given⟩, rfl, rfl⟩
    exact ⟨n, Table.mem_entries_iff.mp member, rfl, given⟩
  · rintro ⟨n, found, rfl, given⟩
    exact ⟨(node, n), ⟨Table.mem_entries_iff.mpr found, given⟩, rfl, rfl⟩

theorem nodup_mapsGivenUp (h : Hub σ) (a : Act) : ((h.mapsGivenUp a).map Prod.fst).Nodup := by
  rw [mapsGivenUp, List.map_map]
  exact h.maps.distinct.sublist (List.filter_sublist.map Prod.fst)

theorem nodup_nodesGivenUp (h : Hub σ) (a : Act) : ((h.nodesGivenUp a).map Prod.fst).Nodup := by
  rw [nodesGivenUp, List.map_map]
  exact h.nodes.distinct.sublist (List.filter_sublist.map Prod.fst)

section Blind

variable (h : Hub σ) (session : SessionId) (map : MapId)

theorem store_addElement {α : Type} [MapElement α] (temp : ElementId) (build : ElementId → α) :
    (h.addElement session map temp build).2.store = h.store := by
  rcases h.addElement_cases session map temp build with ⟨_, refused⟩ | ⟨_, _, _, _, _, _, _, effect⟩
  · rw [refused]
  · rw [effect]
    rfl

theorem store_deleteElement {α : Type} [MapElement α] (id : ElementId) :
    (h.deleteElement α session map id).2.store = h.store := by
  rcases h.deleteElement_cases (α := α) session map id with
    ⟨_, refused⟩ | ⟨_, _, _, _, _, _, _, _, _, _, effect⟩
  · rw [refused]
  · rw [effect]
    rfl

theorem store_addConnection (temp sym0 sym1 : ElementId) :
    (h.addConnection session map temp sym0 sym1).2.store = h.store := by
  rw [addConnection]
  split
  · rfl
  · exact h.store_addElement session map temp _

theorem store_translateSymbol (id : ElementId) (dx dy : Int32) :
    (h.translateSymbol session map id dx dy).2.store = h.store := by
  rw [translateSymbol]
  split
  · rfl
  · dsimp only
    split
    · rfl
    · split <;> rfl

theorem store_logIn (login : String) : (h.logIn session login).2.store = h.store := by
  rw [logIn]
  split <;> rfl

theorem store_setFields (node : NodeId) (fields : NodeFields) :
    (h.setFields session node fields).2.store = h.store := by
  rw [setFields]
  split <;> rfl

theorem store_lockNode (node : NodeId) (now : UInt32) :
    (h.lockNode session node now).2.store = h.store := by
  rw [lockNode]
  split
  · rfl
  · split
    · rfl
    · split <;> rfl

theorem store_acknowledge {α : Type} [MapElement α] (old new : ElementId) :
    (h.acknowledge α session old new).2.store = h.store := by
  rcases h.acknowledge_cases α session old new with ⟨_, refused⟩ | ⟨_, _, _, _, effect⟩
  · rw [refused]
  · rw [effect]
    rfl

end Blind

section GivenUp

variable (h : Hub σ) {session : SessionId} {now : UInt32} {frame : Bytes}

/-- A request that closes nothing gives no map up and no node. -/
theorem givenUp_of_not_closes {request : Request} (made : Request.ofFrame? frame = some request)
    (idle : request.closes = false) :
    h.mapsGivenUp (.answer session now frame) = [] ∧
      h.nodesGivenUp (.answer session now frame) = [] := by
  have noMap : ∀ map, request ≠ .closeMap map := by
    rintro map rfl
    cases idle
  have noNode : ∀ node, request ≠ .closeNode node := by
    rintro node rfl
    cases idle
  constructor
  · simp [mapsGivenUp, Act.givesUp, made, noMap]
  · simp [nodesGivenUp, Act.givesUp, made, noNode]

/-- Closing a map gives that map up when it is the session's alone, and no node. -/
theorem givenUp_closeMap {map : MapId} (made : Request.ofFrame? frame = some (.closeMap map)) :
    h.mapsGivenUp (.answer session now frame) =
        ((h.diagramIf? (OpenMap.isOnlyFor session) map).map (map, ·)).toList ∧
      h.nodesGivenUp (.answer session now frame) = [] := by
  constructor
  · have same : ∀ q, decide (some (Request.closeMap map) = some (.closeMap q)) =
        decide (q = map) := fun q => by simp [eq_comm]
    have found := h.maps.filter_key map (OpenMap.isOnlyFor session)
    simp only [OpenMap.isOnlyFor] at found
    simp only [mapsGivenUp, Act.givesUp, made, same]
    rw [found, diagramIf?]
    cases (h.maps.get? map).filter (OpenMap.isOnlyFor session) <;> rfl
  · simp [nodesGivenUp, Act.givesUp, made]

/-- Closing a node gives that node up when it is the session's alone, and no map. -/
theorem givenUp_closeNode {node : NodeId}
    (made : Request.ofFrame? frame = some (.closeNode node)) :
    h.mapsGivenUp (.answer session now frame) = [] ∧
      h.nodesGivenUp (.answer session now frame) =
        ((h.fieldsIf? (OpenNode.isOnlyFor session) node).map (node, ·)).toList := by
  constructor
  · simp [mapsGivenUp, Act.givesUp, made]
  · have same : ∀ q, decide (some (Request.closeNode node) = some (.closeNode q)) =
        decide (q = node) := fun q => by simp [eq_comm]
    have found := h.nodes.filter_key node (OpenNode.isOnlyFor session)
    simp only [OpenNode.isOnlyFor] at found
    simp only [nodesGivenUp, Act.givesUp, made, same]
    rw [found, fieldsIf?]
    cases (h.nodes.get? node).filter (OpenNode.isOnlyFor session) <;> rfl

end GivenUp

section Asking

variable [Store σ]

/-- The store after the question that a request asks, if it asks one: what is open already is not
asked for. -/
def asked (h : Hub σ) : Request → σ
  | .getMapList => (Store.listMaps h.store).2
  | .openMap map =>
      if map = 0 ∨ h.maps.contains map = true then h.store else (Store.loadMap h.store map).2
  | .openNode node =>
      if h.nodes.contains node = true then h.store else (Store.loadNode h.store node).2
  | _ => h.store

/-- The store after the question that an act asks. -/
def consulted (h : Hub σ) : Act → σ
  | .answer _ _ frame =>
      match Request.ofFrame? frame with
      | none => h.store
      | some request => h.asked request
  | .connect .. | .retire .. | .buffer .. | .finish _ | .clearMarks | .flush => h.store

theorem store_sendMapList (h : Hub σ) (session : SessionId) :
    (h.sendMapList session).store = (Store.listMaps h.store).2 := by
  rw [sendMapList]
  rcases Store.listMaps h.store with ⟨_ | _, _⟩ <;> rfl

theorem store_openMap (h : Hub σ) (session : SessionId) (map : MapId) :
    (h.openMap session map).2.store = h.asked (.openMap map) := by
  rw [openMap, fetchMap, asked, Table.contains_eq_isSome]
  by_cases reserved : map = 0
  · rw [if_pos reserved, if_pos (.inl reserved)]
  · rw [if_neg reserved]
    cases h.maps.get? map with
    | some m =>
        rw [if_pos (.inr rfl)]
        rfl
    | none =>
        rw [if_neg (by simpa using reserved)]
        dsimp only
        rcases Store.loadMap h.store map with ⟨_ | _ | _, _⟩ <;> rfl

theorem store_openNode (h : Hub σ) (session : SessionId) (node : NodeId) :
    (h.openNode session node).2.store = h.asked (.openNode node) := by
  rw [openNode, fetchNode, asked, Table.contains_eq_isSome]
  cases h.nodes.get? node with
  | some n => rfl
  | none =>
      dsimp only
      rcases Store.loadNode h.store node with ⟨_ | _ | _, _⟩ <;> rfl

/-- Only a request to close saves anything: any other leaves the store as its question does. -/
theorem store_apply_of_not_closes (h : Hub σ) (session : SessionId) (now : UInt32)
    {request : Request} (idle : request.closes = false) :
    (h.apply session now request).2.store = h.asked request := by
  cases request with
  | closeMap map => cases idle
  | closeNode node => cases idle
  | login login password => exact h.store_logIn session login
  | getMapList => exact h.store_sendMapList session
  | openMap map => exact h.store_openMap session map
  | addSymbol map id x y => exact h.store_addElement session map id _
  | renameSymbol map old new => exact h.store_acknowledge session old new
  | deleteSymbol map id => exact h.store_deleteElement session map id
  | translateSymbol map id dx dy => exact h.store_translateSymbol session map id dx dy
  | addConnection map id sym0 sym1 => exact h.store_addConnection session map id sym0 sym1
  | renameConnection map old new => exact h.store_acknowledge session old new
  | deleteConnection map id => exact h.store_deleteElement session map id
  | openNode node => exact h.store_openNode session node
  | setNode node fields => exact h.store_setFields session node fields
  | lockNode node => exact h.store_lockNode session node now
  | unlockNode node => exact h.store_unlockNode session node
  | unsupported command => rfl

/-- A request asks its question and saves what it gives up. -/
theorem store_answer (h : Hub σ) {session : SessionId} {frame : Bytes} {request : Request}
    (made : Request.ofFrame? frame = some request) (now : UInt32) :
    (h.apply session now request).2.store =
      Store.saveNodes (Store.saveMaps (h.asked request) (h.mapsGivenUp (.answer session now frame)))
        (h.nodesGivenUp (.answer session now frame)) := by
  cases idle : request.closes with
  | false =>
      obtain ⟨noMaps, noNodes⟩ := h.givenUp_of_not_closes made idle
      rw [noMaps, noNodes]
      exact h.store_apply_of_not_closes session now idle
  | true =>
      cases request with
      | closeMap map =>
          obtain ⟨given, noNodes⟩ := h.givenUp_closeMap made
          rw [given, noNodes]
          exact h.store_closeMap session map
      | closeNode node =>
          obtain ⟨noMaps, given⟩ := h.givenUp_closeNode made
          rw [noMaps, given]
          exact h.store_closeNode session node
      | _ => cases idle

/-- An act asks its question and saves what it gives up, each map and node once and with its contents
as they are when the act begins. -/
theorem store_perform (h : Hub σ) (a : Act) :
    (h.perform a).store =
      Store.saveNodes (Store.saveMaps (h.consulted a) (h.mapsGivenUp a)) (h.nodesGivenUp a) := by
  cases a with
  | answer session now frame =>
      rw [perform, answerFrame_eq, consulted]
      cases made : Request.ofFrame? frame with
      | none => simp [mapsGivenUp, nodesGivenUp, Act.givesUp, made, Store.saveMaps, Store.saveNodes]
      | some request => exact h.store_answer made now
  | finish session => exact h.store_endSession session
  | flush => exact h.store_flush
  | _ =>
      simp only [mapsGivenUp, nodesGivenUp, Act.givesUp, List.filter_false, List.map_nil]
      rfl

end Asking

end Hub

end TopoSync
