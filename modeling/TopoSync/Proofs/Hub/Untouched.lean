import TopoSync.Proofs.Hub.Kinds
import TopoSync.Proofs.Hub.Sweeps

/-!
# What operations leave alone

A request about a map leaves every other map and all nodes alone, and a request about a node leaves
every other node and all maps alone.  What placeholders stand for changes only in one table of the
session that asks.  A session that ends goes through its maps first and then through its nodes.
-/

namespace TopoSync

namespace Request

/-- The map whose contents or subscribers a request may change. -/
def map? : Request → Option MapId
  | openMap map | closeMap map | addSymbol map .. | deleteSymbol map _ | translateSymbol map ..
  | addConnection map .. | deleteConnection map _ => some map
  | login .. | getMapList | renameSymbol .. | renameConnection .. | openNode _ | closeNode _
  | setNode .. | lockNode _ | unlockNode _ | unsupported _ => none

/-- The node whose fields, lock or subscribers a request may change. -/
def node? : Request → Option NodeId
  | openNode node | closeNode node | setNode node _ | lockNode node | unlockNode node => some node
  | login .. | getMapList | openMap _ | closeMap _ | addSymbol .. | renameSymbol ..
  | deleteSymbol .. | translateSymbol .. | addConnection .. | renameConnection ..
  | deleteConnection .. | unsupported _ => none

/-- The kind of element in whose table of placeholders a request may change something. -/
def tableKind? : Request → Option ElementKind
  | addSymbol .. | renameSymbol .. | deleteSymbol .. => some .symbol
  | addConnection .. | renameConnection .. | deleteConnection .. => some .connection
  | login .. | getMapList | openMap _ | closeMap _ | translateSymbol .. | openNode _ | closeNode _
  | setNode .. | lockNode _ | unlockNode _ | unsupported _ => none

end Request

namespace Hub

variable {σ : Type}

/-- Whether what is open and what placeholders stand for is the same in two hubs, one map, one node
and one table of a session apart. -/
structure SameBut (map? : Option MapId) (node? : Option NodeId)
    (table? : Option (SessionId × ElementKind)) (h h' : Hub σ) : Prop where
  maps : ∀ q, map? ≠ some q → h'.maps.get? q = h.maps.get? q
  nodes : ∀ q, node? ≠ some q → h'.nodes.get? q = h.nodes.get? q
  tables : ∀ q kind, table? ≠ some (q, kind) → h'.placeholders? kind q = h.placeholders? kind q

namespace SameBut

variable {map? : Option MapId} {node? : Option NodeId} {table? : Option (SessionId × ElementKind)}
  {h h' : Hub σ}

theorem refl (h : Hub σ) : SameBut map? node? table? h h where
  maps _ _ := rfl
  nodes _ _ := rfl
  tables _ _ _ := rfl

theorem trans {h'' : Hub σ} (one : SameBut map? node? table? h h')
    (two : SameBut map? node? table? h' h'') : SameBut map? node? table? h h'' where
  maps q other := (two.maps q other).trans (one.maps q other)
  nodes q other := (two.nodes q other).trans (one.nodes q other)
  tables q kind other := (two.tables q kind other).trans (one.tables q kind other)

theorem post (same : SameBut map? node? table? h h') (letters : List Letter) :
    SameBut map? node? table? h (h'.post letters) :=
  { same with
    tables := fun q kind other => (placeholders?_post h' letters kind q).trans
      (same.tables q kind other) }

theorem amend (same : SameBut map? node? table? h h') (id : SessionId) {f : Session → Session}
    (spares : ∀ s kind, table? ≠ some (id, kind) →
      (f s).placeholdersFor kind = s.placeholdersFor kind) :
    SameBut map? node? table? h (h'.amend id f) where
  maps := same.maps
  nodes := same.nodes
  tables q kind other := by
    rw [← same.tables q kind other, placeholders?_amend, placeholders?]
    split
    · rename_i here
      subst here
      simp only [spares _ kind other]
    · rfl

theorem withStore (same : SameBut map? node? table? h h') (store : σ) :
    SameBut map? node? table? h { h' with store } :=
  ⟨same.maps, same.nodes, same.tables⟩

theorem putMap {map : MapId} (same : SameBut (some map) node? table? h h') (m : OpenMap) :
    SameBut (some map) node? table? h (h'.putMap map m) where
  maps q other := by
    have apart : q ≠ map := fun here => other (congrArg some here.symm)
    exact (Table.get?_insert_of_ne apart _ _).trans (same.maps q other)
  nodes := same.nodes
  tables := same.tables

theorem putNode {node : NodeId} (same : SameBut map? (some node) table? h h') (n : OpenNode) :
    SameBut map? (some node) table? h (h'.putNode node n) where
  maps := same.maps
  nodes q other := by
    have apart : q ≠ node := fun here => other (congrArg some here.symm)
    exact (Table.get?_insert_of_ne apart _ _).trans (same.nodes q other)
  tables := same.tables

theorem writeBackMap [Store σ] {map : MapId} (same : SameBut (some map) node? table? h h') :
    SameBut (some map) node? table? h (h'.writeBackMap map) where
  maps q other := by
    have apart : ¬ q = map := fun here => other (congrArg some here.symm)
    rw [maps_writeBackMap, Table.get?_erase, if_neg apart]
    exact same.maps q other
  nodes q other := by
    rw [nodes_writeBackMap]
    exact same.nodes q other
  tables q kind other := by
    rw [placeholders?, router_writeBackMap]
    exact same.tables q kind other

theorem writeBackNode [Store σ] {node : NodeId} (same : SameBut map? (some node) table? h h') :
    SameBut map? (some node) table? h (h'.writeBackNode node) where
  maps q other := by
    rw [maps_writeBackNode]
    exact same.maps q other
  nodes q other := by
    have apart : ¬ q = node := fun here => other (congrArg some here.symm)
    rw [nodes_writeBackNode, Table.get?_erase, if_neg apart]
    exact same.nodes q other
  tables q kind other := by
    rw [placeholders?, router_writeBackNode]
    exact same.tables q kind other

end SameBut

section Elements

variable {α : Type} [MapElement α] {kind : ElementKind} (kinds : kind.Describes α)

include kinds

theorem sameBut_addElement (h : Hub σ) (origin : SessionId) (map : MapId) (temp : ElementId)
    (build : ElementId → α) :
    SameBut (some map) none (some (origin, kind)) h (h.addElement origin map temp build).2 := by
  rcases h.addElement_cases origin map temp build with
    ⟨e, refused⟩ | ⟨m, id, _, _, _, _, _, effect⟩
  · rw [refused]
    exact .refl h
  · rw [effect]
    refine SameBut.amend (((SameBut.refl h).putMap _).post _) origin fun s other apart => ?_
    refine kinds.spares_record s temp id fun same => apart ?_
    exact congrArg (fun k => some (origin, k)) same.symm

theorem sameBut_deleteElement (h : Hub σ) (origin : SessionId) (map : MapId) (id : ElementId) :
    SameBut (some map) none (some (origin, kind)) h (h.deleteElement α origin map id).2 := by
  rcases h.deleteElement_cases (α := α) origin map id with
    ⟨e, refused⟩ | ⟨m, _, k, ids, _, _, _, _, _, _, effect⟩
  · rw [refused]
    exact .refl h
  · rw [effect]
    refine SameBut.post (SameBut.putMap (SameBut.amend (.refl h) origin fun s other apart => ?_) _) _
    exact kinds.spares s ids other fun same => apart (congrArg (fun k => some (origin, k)) same.symm)

theorem sameBut_acknowledge (h : Hub σ) (session : SessionId) (old new : ElementId) :
    SameBut none none (some (session, kind)) h (h.acknowledge α session old new).2 := by
  rcases h.acknowledge_cases α session old new with ⟨e, refused⟩ | ⟨s, ids, _, _, effect⟩
  · rw [refused]
    exact .refl h
  · rw [effect]
    refine SameBut.amend (.refl h) session fun s other apart => ?_
    exact kinds.spares s ids other fun same => apart (congrArg (fun k => some (session, k)) same.symm)

end Elements

theorem sameBut_addConnection (h : Hub σ) (origin : SessionId) (map : MapId)
    (temp sym0 sym1 : ElementId) :
    SameBut (some map) none (some (origin, .connection)) h
      (h.addConnection origin map temp sym0 sym1).2 := by
  rw [addConnection]
  split
  · exact .refl h
  · exact sameBut_addElement describes_connection h origin map temp _

theorem sameBut_translateSymbol (h : Hub σ) (origin : SessionId) (map : MapId) (id : ElementId)
    (dx dy : Int32) : SameBut (some map) none none h (h.translateSymbol origin map id dx dy).2 := by
  rw [translateSymbol]
  split
  · exact .refl h
  · dsimp only
    split
    · exact .refl h
    · split
      · exact .refl h
      · rw [notifyOthers_eq_post]
        exact ((SameBut.refl h).putMap _).post _

theorem sameBut_logIn (h : Hub σ) (session : SessionId) (login : String) :
    SameBut none none none h (h.logIn session login).2 := by
  rw [logIn]
  split
  · exact (SameBut.refl h).amend session fun _ kind _ => by cases kind <;> rfl
  · exact .refl h

theorem sameBut_lockNode (h : Hub σ) (session : SessionId) (node : NodeId) (now : UInt32) :
    SameBut none (some node) none h (h.lockNode session node now).2 := by
  rw [lockNode]
  split
  · exact .refl h
  · split
    · exact .refl h
    · split
      · exact .refl h
      · dsimp only
        rw [lockFrames_eq_map]
        exact ((SameBut.refl h).putNode _).post _

theorem sameBut_setFields (h : Hub σ) (session : SessionId) (node : NodeId) (fields : NodeFields) :
    SameBut none (some node) none h (h.setFields session node fields).2 := by
  rw [setFields]
  split
  · exact .refl h
  · dsimp only
    rw [notifyOthers_eq_post]
    exact ((SameBut.refl h).putNode _).post _

theorem sameBut_unlockNode (h : Hub σ) (session : SessionId) (node : NodeId) :
    SameBut none (some node) none h (h.unlockNode session node).2 := by
  rw [unlockNode]
  split
  · exact .refl h
  · dsimp only
    rw [notifyAll_eq_post]
    exact ((SameBut.refl h).putNode _).post _

variable [Store σ]

theorem sameBut_sendMapList (h : Hub σ) (session : SessionId) :
    SameBut none none none h (h.sendMapList session) := by
  rw [sendMapList]
  split
  · exact (SameBut.refl h).withStore _
  · rw [notify_eq_post]
    exact ((SameBut.refl h).withStore _).post _

theorem sameBut_openMap (h : Hub σ) (session : SessionId) (map : MapId) :
    SameBut (some map) none none h (h.openMap session map).2 := by
  rcases h.openMap_cases session map with ⟨_, refused⟩ | ⟨reason, _, _, refused⟩ |
    ⟨m, _, _, joined⟩ | ⟨diagram, store, _, _, _, loaded⟩
  · rw [refused]
    exact .refl h
  · rw [refused]
    exact (SameBut.refl h).withStore _
  · rw [joined]
    exact ((SameBut.refl h).putMap _).post _
  · rw [loaded]
    exact ((SameBut.refl h).withStore store).putMap _ |>.post _

theorem sameBut_closeMap (h : Hub σ) (session : SessionId) (map : MapId) :
    SameBut (some map) none none h (h.closeMap session map).2 := by
  rw [closeMap]
  split
  · exact .refl h
  · dsimp only
    split
    · exact ((SameBut.refl h).putMap _).writeBackMap
    · exact (SameBut.refl h).putMap _

theorem sameBut_openNode (h : Hub σ) (session : SessionId) (node : NodeId) :
    SameBut none (some node) none h (h.openNode session node).2 := by
  rcases h.openNode_cases session node with ⟨reason, _, _, refused⟩ | ⟨store, _, _, missed⟩ |
    ⟨n, _, joined⟩ | ⟨record, store, _, _, loaded⟩
  · rw [refused]
    exact (SameBut.refl h).withStore _
  · rw [missed]
    exact ((SameBut.refl h).withStore store).post _
  · rw [joined]
    exact ((SameBut.refl h).putNode _).post _
  · rw [loaded]
    exact ((SameBut.refl h).withStore store).putNode _ |>.post _

theorem sameBut_leaveNode (h : Hub σ) (session : SessionId) (node : NodeId) :
    SameBut none (some node) none h (h.leaveNode session node) := by
  rw [leaveNode]
  split
  · exact .refl h
  · dsimp only
    split
    · exact ((SameBut.refl h).putNode _).writeBackNode
    · exact (SameBut.refl h).putNode _

theorem sameBut_closeNode (h : Hub σ) (session : SessionId) (node : NodeId) :
    SameBut none (some node) none h (h.closeNode session node).2 := by
  rw [closeNode]
  split
  · exact .refl h
  · exact (sameBut_unlockNode h session node).trans (sameBut_leaveNode _ session node)

/-- Whatever becomes of a request, it concerns the map and the node that it names, and placeholders of
the session that asks. -/
theorem sameBut_apply (h : Hub σ) (session : SessionId) (now : UInt32) (request : Request) :
    SameBut request.map? request.node? (request.tableKind?.map fun kind => (session, kind)) h
      (h.apply session now request).2 := by
  cases request with
  | login login password => exact sameBut_logIn h session login
  | getMapList => exact sameBut_sendMapList h session
  | openMap map => exact sameBut_openMap h session map
  | closeMap map => exact sameBut_closeMap h session map
  | addSymbol map id x y => exact sameBut_addElement describes_symbol h session map id _
  | renameSymbol map old new => exact sameBut_acknowledge describes_symbol h session old new
  | deleteSymbol map id => exact sameBut_deleteElement describes_symbol h session map id
  | translateSymbol map id dx dy => exact sameBut_translateSymbol h session map id dx dy
  | addConnection map id sym0 sym1 => exact sameBut_addConnection h session map id sym0 sym1
  | renameConnection map old new => exact sameBut_acknowledge describes_connection h session old new
  | deleteConnection map id => exact sameBut_deleteElement describes_connection h session map id
  | openNode node => exact sameBut_openNode h session node
  | closeNode node => exact sameBut_closeNode h session node
  | setNode node fields => exact sameBut_setFields h session node fields
  | lockNode node => exact sameBut_lockNode h session node now
  | unlockNode node => exact sameBut_unlockNode h session node
  | unsupported command => exact .refl h

/-- Closing maps is nothing to the nodes. -/
theorem get?_nodes_closeMaps (h : Hub σ) (session : SessionId) (maps : List MapId) (node : NodeId) :
    (h.closeMaps session maps).nodes.get? node = h.nodes.get? node := by
  induction maps generalizing h with
  | nil => rfl
  | cons map rest ih =>
      exact (ih _).trans ((sameBut_closeMap h session map).nodes node (by simp))

end Hub

end TopoSync
