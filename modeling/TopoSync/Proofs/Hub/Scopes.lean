import TopoSync.Proofs.Counterparts
import TopoSync.Proofs.Hub.Postings
import TopoSync.Proofs.Hub.Untouched

/-!
# Scopes

A scope picks some maps, nodes and sessions.  Two hubs agree on a scope if they have the same open and
the same in the store of what it picks, and know the same of the sessions.  The parts that operations
are made of keep hubs in agreement when they are done in both, and when they are done in one of them
outside of the scope.
-/

namespace TopoSync

/-- Some maps, nodes and sessions. -/
structure Scope where
  map : MapId → Prop
  node : NodeId → Prop
  session : SessionId → Prop

namespace Scope

/-- The scope that picks all. -/
def everything : Scope :=
  ⟨fun _ => True, fun _ => True, fun _ => True⟩

/-- Whether two scopes pick nothing in common. -/
structure Apart (a b : Scope) : Prop where
  map : ∀ q, a.map q → ¬ b.map q
  node : ∀ q, a.node q → ¬ b.node q
  session : ∀ q, a.session q → ¬ b.session q

theorem Apart.symm {a b : Scope} (apart : a.Apart b) : b.Apart a :=
  ⟨fun q there here => apart.map q here there, fun q there here => apart.node q here there,
    fun q there here => apart.session q here there⟩

/-- What neither of two scopes picks. -/
def outside (a b : Scope) : Scope where
  map q := ¬ a.map q ∧ ¬ b.map q
  node q := ¬ a.node q ∧ ¬ b.node q
  session q := ¬ a.session q ∧ ¬ b.session q

theorem outside_apart (a b : Scope) : (outside a b).Apart a ∧ (outside a b).Apart b :=
  ⟨⟨fun _ picked => picked.1, fun _ picked => picked.1, fun _ picked => picked.1⟩,
    ⟨fun _ picked => picked.2, fun _ picked => picked.2, fun _ picked => picked.2⟩⟩

end Scope

/-- The map and the node whose contents or subscribers a request may change, and the session that
asks. -/
def Request.scope (request : Request) (session : SessionId) : Scope where
  map q := request.map? = some q
  node q := request.node? = some q
  session q := q = session

namespace MemoryStore

/-- Whether two stores have the same of what a scope picks.  The names of all maps are the same. -/
structure AgreesOn (scope : Scope) (s s' : MemoryStore) : Prop where
  names : ∀ q, (s'.maps.get? q).map Prod.fst = (s.maps.get? q).map Prod.fst
  maps : ∀ q, scope.map q → s'.maps.get? q = s.maps.get? q
  mapSaves : ∀ q, scope.map q → s'.mapSaves.get? q = s.mapSaves.get? q
  nodes : ∀ q, scope.node q → s'.nodes.get? q = s.nodes.get? q
  nodeSaves : ∀ q, scope.node q → s'.nodeSaves.get? q = s.nodeSaves.get? q
  refusing : s'.refusing = s.refusing

theorem get?_mapSaves_putMap (m : MemoryStore) (map : MapId) (contents : Diagram) (q : MapId) :
    (m.putMap map contents).mapSaves.get? q =
      if q = map then some (m.mapSaveCount map + 1) else m.mapSaves.get? q :=
  Table.get?_insert _ _ _ _

theorem get?_nodeSaves_putNode (m : MemoryStore) (node : NodeId) (fields : NodeFields) (q : NodeId) :
    (m.putNode node fields).nodeSaves.get? q =
      if q = node then some (m.nodeSaveCount node + 1) else m.nodeSaves.get? q :=
  Table.get?_insert _ _ _ _

namespace AgreesOn

variable {scope : Scope} {s s' : MemoryStore} {map : MapId} {node : NodeId}

theorem refl (s : MemoryStore) : s.AgreesOn scope s :=
  ⟨fun _ => rfl, fun _ _ => rfl, fun _ _ => rfl, fun _ _ => rfl, fun _ _ => rfl, rfl⟩

theorem symm (same : s.AgreesOn scope s') : s'.AgreesOn scope s :=
  ⟨fun q => (same.names q).symm, fun q inside => (same.maps q inside).symm,
    fun q inside => (same.mapSaves q inside).symm, fun q inside => (same.nodes q inside).symm,
    fun q inside => (same.nodeSaves q inside).symm, same.refusing.symm⟩

theorem trans {s'' : MemoryStore} (one : s.AgreesOn scope s') (two : s'.AgreesOn scope s'') :
    s.AgreesOn scope s'' :=
  ⟨fun q => (two.names q).trans (one.names q),
    fun q inside => (two.maps q inside).trans (one.maps q inside),
    fun q inside => (two.mapSaves q inside).trans (one.mapSaves q inside),
    fun q inside => (two.nodes q inside).trans (one.nodes q inside),
    fun q inside => (two.nodeSaves q inside).trans (one.nodeSaves q inside),
    two.refusing.trans one.refusing⟩

/-- The lists of maps are the same. -/
theorem mapList (same : s.AgreesOn scope s') : s'.mapList = s.mapList :=
  MapEntry.sorted_congr Prod.fst Prod.fst same.names

/-- Saving in both what both have open. -/
theorem saveMap (same : s.AgreesOn scope s') (picked : scope.map map) (contents : Diagram) :
    (Store.saveMap s map contents).2.AgreesOn scope (Store.saveMap s' map contents).2 := by
  simp only [Store.saveMap, same.refusing]
  split
  · exact same
  · exact {
      names := fun q => by
        rw [get?_maps_putMap, get?_maps_putMap, same.maps map picked]
        split
        · rfl
        · exact same.names q
      maps := fun q inside => by
        rw [get?_maps_putMap, get?_maps_putMap, same.maps map picked, same.maps q inside]
      mapSaves := fun q inside => by
        rw [get?_mapSaves_putMap, get?_mapSaves_putMap, mapSaveCount, mapSaveCount,
          same.mapSaves map picked, same.mapSaves q inside]
      nodes := same.nodes
      nodeSaves := same.nodeSaves
      refusing := same.refusing }

theorem saveNode (same : s.AgreesOn scope s') (picked : scope.node node) (fields : NodeFields) :
    (Store.saveNode s node fields).2.AgreesOn scope (Store.saveNode s' node fields).2 := by
  simp only [Store.saveNode, same.refusing]
  split
  · exact same
  · exact {
      names := same.names
      maps := same.maps
      mapSaves := same.mapSaves
      nodes := fun q inside => by
        rw [get?_nodes_putNode, get?_nodes_putNode, same.nodes node picked, same.nodes q inside]
      nodeSaves := fun q inside => by
        rw [get?_nodeSaves_putNode, get?_nodeSaves_putNode, nodeSaveCount, nodeSaveCount,
          same.nodeSaves node picked, same.nodeSaves q inside]
      refusing := same.refusing }

/-- Saving a map outside of the scope. -/
theorem saveMapOutside (same : s.AgreesOn scope s') (outside : ¬ scope.map map)
    (kept : s'.maps.contains map = true) (contents : Diagram) :
    s.AgreesOn scope (Store.saveMap s' map contents).2 := by
  have other : ∀ {q}, scope.map q → ¬ q = map := fun inside here => outside (here ▸ inside)
  simp only [Store.saveMap]
  split
  · exact same
  · exact {
      names := fun q => by
        rw [get?_maps_putMap]
        split
        · rename_i here
          obtain ⟨entry, found⟩ := Option.isSome_iff_exists.mp kept
          rw [← same.names, here, found]
          rfl
        · exact same.names q
      maps := fun q inside => by
        rw [get?_maps_putMap, if_neg (other inside), same.maps q inside]
      mapSaves := fun q inside => by
        rw [get?_mapSaves_putMap, if_neg (other inside), same.mapSaves q inside]
      nodes := same.nodes
      nodeSaves := same.nodeSaves
      refusing := same.refusing }

theorem saveNodeOutside (same : s.AgreesOn scope s') (outside : ¬ scope.node node)
    (fields : NodeFields) : s.AgreesOn scope (Store.saveNode s' node fields).2 := by
  have other : ∀ {q}, scope.node q → ¬ q = node := fun inside here => outside (here ▸ inside)
  simp only [Store.saveNode]
  split
  · exact same
  · exact {
      names := same.names
      maps := same.maps
      mapSaves := same.mapSaves
      nodes := fun q inside => by
        rw [get?_nodes_putNode, if_neg (other inside), same.nodes q inside]
      nodeSaves := fun q inside => by
        rw [get?_nodeSaves_putNode, if_neg (other inside), same.nodeSaves q inside]
      refusing := same.refusing }

end AgreesOn

end MemoryStore

namespace Hub

/-- Whether two hubs have the same of what a scope picks: open, in the store and of the sessions. -/
structure AgreesOn (scope : Scope) (h h' : Hub MemoryStore) : Prop where
  maps : ∀ q, scope.map q → h'.maps.get? q = h.maps.get? q
  nodes : ∀ q, scope.node q → h'.nodes.get? q = h.nodes.get? q
  sessions : ∀ q, scope.session q → h'.router.session? q = h.router.session? q
  store : h.store.AgreesOn scope h'.store

namespace AgreesOn

variable {scope : Scope} {h h' : Hub MemoryStore}

theorem refl (h : Hub MemoryStore) : h.AgreesOn scope h :=
  ⟨fun _ _ => rfl, fun _ _ => rfl, fun _ _ => rfl, .refl _⟩

theorem symm (same : h.AgreesOn scope h') : h'.AgreesOn scope h :=
  ⟨fun q inside => (same.maps q inside).symm, fun q inside => (same.nodes q inside).symm,
    fun q inside => (same.sessions q inside).symm, same.store.symm⟩

theorem trans {h'' : Hub MemoryStore} (one : h.AgreesOn scope h') (two : h'.AgreesOn scope h'') :
    h.AgreesOn scope h'' :=
  ⟨fun q inside => (two.maps q inside).trans (one.maps q inside),
    fun q inside => (two.nodes q inside).trans (one.nodes q inside),
    fun q inside => (two.sessions q inside).trans (one.sessions q inside),
    one.store.trans two.store⟩

/-- Agreement on two scopes and on what neither of them picks is agreement on everything. -/
theorem everywhere {a b : Scope} (first : h.AgreesOn a h') (second : h.AgreesOn b h')
    (rest : h.AgreesOn (.outside a b) h') : h.AgreesOn .everything h' := by
  have either : ∀ {p q r : Prop}, (p → r) → (q → r) → (¬ p ∧ ¬ q → r) → r := by tauto
  refine ⟨fun q _ => ?_, fun q _ => ?_, fun q _ => ?_, ⟨first.store.names, fun q _ => ?_,
    fun q _ => ?_, fun q _ => ?_, fun q _ => ?_, first.store.refusing⟩⟩
  · exact either (first.maps q) (second.maps q) (rest.maps q)
  · exact either (first.nodes q) (second.nodes q) (rest.nodes q)
  · exact either (first.sessions q) (second.sessions q) (rest.sessions q)
  · exact either (first.store.maps q) (second.store.maps q) (rest.store.maps q)
  · exact either (first.store.mapSaves q) (second.store.mapSaves q) (rest.store.mapSaves q)
  · exact either (first.store.nodes q) (second.store.nodes q) (rest.store.nodes q)
  · exact either (first.store.nodeSaves q) (second.store.nodeSaves q) (rest.store.nodeSaves q)

section Both

variable (same : h.AgreesOn scope h') {map : MapId} {node : NodeId}

include same

theorem subscribedMap? (session : SessionId) (picked : scope.map map) :
    h'.subscribedMap? session map = h.subscribedMap? session map := by
  rw [Hub.subscribedMap?, Hub.subscribedMap?, same.maps map picked]

theorem subscribedNode? (session : SessionId) (picked : scope.node node) :
    h'.subscribedNode? session node = h.subscribedNode? session node := by
  rw [Hub.subscribedNode?, Hub.subscribedNode?, same.nodes node picked]

theorem heldNode? (session : SessionId) (picked : scope.node node) :
    h'.heldNode? session node = h.heldNode? session node := by
  rw [Hub.heldNode?, Hub.heldNode?, same.nodes node picked]

theorem isRegistered {session : SessionId} (picked : scope.session session) :
    h'.router.isRegistered session = h.router.isRegistered session := by
  rw [Router.isRegistered_eq_isSome, same.sessions session picked, Router.isRegistered_eq_isSome]

theorem putMap (map : MapId) (m : OpenMap) : (h.putMap map m).AgreesOn scope (h'.putMap map m) where
  maps q inside := by
    rw [maps_putMap, maps_putMap, Table.get?_insert, Table.get?_insert, same.maps q inside]
  nodes := same.nodes
  sessions := same.sessions
  store := same.store

theorem putNode (node : NodeId) (n : OpenNode) :
    (h.putNode node n).AgreesOn scope (h'.putNode node n) where
  maps := same.maps
  nodes q inside := by
    rw [nodes_putNode, nodes_putNode, Table.get?_insert, Table.get?_insert, same.nodes q inside]
  sessions := same.sessions
  store := same.store

theorem amend (id : SessionId) (f : Session → Session) :
    (h.amend id f).AgreesOn scope (h'.amend id f) where
  maps := same.maps
  nodes := same.nodes
  sessions q inside := by
    rw [Hub.amend, Hub.amend, Router.session?_updateSession, Router.session?_updateSession,
      same.sessions q inside]
  store := same.store

theorem post (letters : List Letter) : (h.post letters).AgreesOn scope (h'.post letters) where
  maps := same.maps
  nodes := same.nodes
  sessions q inside := by
    rw [Hub.post, Hub.post, Router.session?_deliver, Router.session?_deliver, same.sessions q inside]
  store := same.store

theorem writeBackMap (picked : scope.map map) :
    (h.writeBackMap map).AgreesOn scope (h'.writeBackMap map) := by
  rw [Hub.writeBackMap, Hub.writeBackMap, same.maps map picked]
  split
  · exact same
  · rename_i m _
    refine ⟨fun q inside => ?_, same.nodes, same.sessions, same.store.saveMap picked m.diagram⟩
    dsimp only
    rw [Table.get?_erase, Table.get?_erase, same.maps q inside]

theorem writeBackNode (picked : scope.node node) :
    (h.writeBackNode node).AgreesOn scope (h'.writeBackNode node) := by
  rw [Hub.writeBackNode, Hub.writeBackNode, same.nodes node picked]
  split
  · exact same
  · rename_i n _
    refine ⟨same.maps, fun q inside => ?_, same.sessions,
      same.store.saveNode picked n.record.fields⟩
    dsimp only
    rw [Table.get?_erase, Table.get?_erase, same.nodes q inside]

end Both

end AgreesOn

/-- Whether the readers of all queues stay. -/
def AllStay {σ : Type} (h : Hub σ) : Prop :=
  ∀ q s, h.router.session? q = some s → s.reader = .staying

/-- Whether every open map is in the store. -/
def MapsStored (h : Hub MemoryStore) : Prop :=
  ∀ map m, h.maps.get? map = some m → h.store.maps.contains map = true

/-- Whether a hub whose queues all have readers that stay has the same of a scope as another one. -/
structure Preserves (scope : Scope) (h h' : Hub MemoryStore) : Prop where
  agrees : h.AgreesOn scope h'
  stay : h'.AllStay

namespace Preserves

variable {scope : Scope} {h h' : Hub MemoryStore} (preserves : Preserves scope h h') {map : MapId}
  {node : NodeId}

include preserves

theorem putMap (outside : ¬ scope.map map) (m : OpenMap) : Preserves scope h (h'.putMap map m) where
  agrees := { preserves.agrees with
    maps := fun q inside => by
      have other : q ≠ map := fun here => outside (here ▸ inside)
      exact (Table.get?_insert_of_ne other _ _).trans (preserves.agrees.maps q inside)
    store := preserves.agrees.store }
  stay := preserves.stay

theorem putNode (outside : ¬ scope.node node) (n : OpenNode) :
    Preserves scope h (h'.putNode node n) where
  agrees := { preserves.agrees with
    nodes := fun q inside => by
      have other : q ≠ node := fun here => outside (here ▸ inside)
      exact (Table.get?_insert_of_ne other _ _).trans (preserves.agrees.nodes q inside)
    store := preserves.agrees.store }
  stay := preserves.stay

theorem amend {id : SessionId} (outside : ¬ scope.session id) {f : Session → Session}
    (keeps : ∀ s, (f s).reader = s.reader) : Preserves scope h (h'.amend id f) where
  agrees := { preserves.agrees with
    sessions := fun q inside => by
      have other : q ≠ id := fun here => outside (here ▸ inside)
      rw [Hub.amend, Router.session?_updateSession, if_neg other, preserves.agrees.sessions q inside]
    store := preserves.agrees.store }
  stay q s known := by
    have readers := (Router.Agrees.updateSession h'.router id keeps).readers q
    rw [Hub.amend] at known
    rw [known] at readers
    obtain ⟨t, before, same⟩ := Option.map_eq_some_iff.mp readers.symm
    exact same.symm.trans (preserves.stay q t before)

/-- Readers that stay take no notice of what they take. -/
theorem post (letters : List Letter) : Preserves scope h (h'.post letters) where
  agrees := { preserves.agrees with
    sessions := fun q inside => by
      rw [← preserves.agrees.sessions q inside, Hub.post, Router.session?_deliver]
      cases known : h'.router.session? q with
      | none => rfl
      | some s =>
          rw [Option.map_some, Session.spend, preserves.stay q s known]
          exact congrArg some (congrArg (fun reader => { s with reader }) (preserves.stay q s known).symm)
    store := preserves.agrees.store }
  stay q := Router.staying_deliver (preserves.stay q) _

theorem writeBackMap (outside : ¬ scope.map map) (kept : h'.store.maps.contains map = true) :
    Preserves scope h (h'.writeBackMap map) := by
  rw [Hub.writeBackMap]
  split
  · exact preserves
  · rename_i m _
    refine ⟨⟨fun q inside => ?_, preserves.agrees.nodes, preserves.agrees.sessions,
      preserves.agrees.store.saveMapOutside outside kept m.diagram⟩, preserves.stay⟩
    have other : ¬ q = map := fun here => outside (here ▸ inside)
    dsimp only
    rw [Table.get?_erase, if_neg other, preserves.agrees.maps q inside]

theorem writeBackNode (outside : ¬ scope.node node) : Preserves scope h (h'.writeBackNode node) := by
  rw [Hub.writeBackNode]
  split
  · exact preserves
  · rename_i n _
    refine ⟨⟨preserves.agrees.maps, fun q inside => ?_, preserves.agrees.sessions,
      preserves.agrees.store.saveNodeOutside outside n.record.fields⟩, preserves.stay⟩
    have other : ¬ q = node := fun here => outside (here ▸ inside)
    dsimp only
    rw [Table.get?_erase, if_neg other, preserves.agrees.nodes q inside]

end Preserves

end Hub

end TopoSync
