import TopoSync.Proofs.Commuting
import TopoSync.Proofs.Hub.Savings
import TopoSync.Proofs.Hub.Turns
import TopoSync.Proofs.Reconciling
import TopoSync.Proofs.Shelves

/-!
# The footprint of a request

A request of a session reaches no further than the map or the node that it names, the record of it in
the store and the session itself.  Other sessions are sent frames, and that is all that they get to
notice.
-/

namespace TopoSync

namespace Hub

section Offered

variable {σ : Type} {h h' : Hub σ} {q s : SessionId}

/-- Whether a session is the same in two hubs, frames apart that were offered to the reader of its
queue. -/
def OffersOnly (q : SessionId) (h h' : Hub σ) : Prop :=
  ∃ offered, h'.router.session? q = (h.router.session? q).map fun t => t.spend offered

namespace OffersOnly

theorem of_router (same : h'.router = h.router) : OffersOnly q h h' := by
  refine ⟨0, ?_⟩
  rw [same]
  simp

/-- Only the router is looked at. -/
theorem of_same {h'' : Hub σ} (offers : OffersOnly q h h') (same : h''.router = h'.router) :
    OffersOnly q h h'' := by
  rwa [OffersOnly, same]

theorem post (offers : OffersOnly q h h') (letters : List Letter) :
    OffersOnly q h (h'.post letters) := by
  obtain ⟨offered, same⟩ := offers
  refine ⟨offered + (addressed q (letters.map Letter.toFrame)).length, ?_⟩
  rw [Hub.post, Router.session?_deliver, same, Option.map_map]
  exact congrArg (fun f => (h.router.session? q).map f) (funext fun t => t.spend_spend _ _)

theorem posted (h : Hub σ) (letters : List Letter) : OffersOnly q h (h.post letters) :=
  (of_router rfl).post letters

theorem amend (offers : OffersOnly q h h') (other : q ≠ s) (f : Session → Session) :
    OffersOnly q h (h'.amend s f) := by
  obtain ⟨offered, same⟩ := offers
  refine ⟨offered, ?_⟩
  rw [Hub.amend, Router.session?_updateSession, if_neg other, same]

end OffersOnly

variable (h) (other : q ≠ s)

include other

theorem offersOnly_addElement {α : Type} [MapElement α] (map : MapId) (temp : ElementId)
    (build : ElementId → α) : OffersOnly q h (h.addElement s map temp build).2 := by
  rcases h.addElement_cases s map temp build with ⟨_, refused⟩ | ⟨m, id, _, _, _, _, _, effect⟩
  · rw [refused]
    exact .of_router rfl
  · rw [effect]
    exact ((OffersOnly.of_router rfl).post _).amend other _

theorem offersOnly_deleteElement {α : Type} [MapElement α] (map : MapId) (id : ElementId) :
    OffersOnly q h (h.deleteElement α s map id).2 := by
  rcases h.deleteElement_cases (α := α) s map id with
    ⟨_, refused⟩ | ⟨m, _, k, ids, _, _, _, _, _, _, effect⟩
  · rw [refused]
    exact .of_router rfl
  · rw [effect]
    have forgotten : OffersOnly q h (h.amend s fun t => MapElement.withPlaceholders α t ids) :=
      (OffersOnly.of_router rfl).amend other _
    exact (forgotten.of_same rfl).post _

theorem offersOnly_addConnection (map : MapId) (temp sym0 sym1 : ElementId) :
    OffersOnly q h (h.addConnection s map temp sym0 sym1).2 := by
  rw [addConnection]
  split
  · exact .of_router rfl
  · exact h.offersOnly_addElement other map temp _

theorem offersOnly_acknowledge {α : Type} [MapElement α] (old new : ElementId) :
    OffersOnly q h (h.acknowledge α s old new).2 := by
  rcases h.acknowledge_cases α s old new with ⟨_, refused⟩ | ⟨_, ids, _, _, effect⟩
  · rw [refused]
    exact .of_router rfl
  · rw [effect]
    exact (OffersOnly.of_router rfl).amend other _

theorem offersOnly_logIn (login : String) : OffersOnly q h (h.logIn s login).2 := by
  rw [logIn]
  split
  · have noted : OffersOnly q h (h.amend s fun t => { t with login }) :=
      (OffersOnly.of_router rfl).amend other _
    exact noted
  · exact .of_router rfl

omit other

theorem offersOnly_translateSymbol (map : MapId) (id : ElementId) (dx dy : Int32) :
    OffersOnly q h (h.translateSymbol s map id dx dy).2 := by
  rw [translateSymbol]
  split
  · exact .of_router rfl
  · dsimp only
    split
    · exact .of_router rfl
    · split
      · exact .of_router rfl
      · rw [notifyOthers_eq_post]
        exact (OffersOnly.of_router rfl).post _

theorem offersOnly_setFields (node : NodeId) (fields : NodeFields) :
    OffersOnly q h (h.setFields s node fields).2 := by
  rw [setFields]
  split
  · exact .of_router rfl
  · dsimp only
    rw [notifyOthers_eq_post]
    exact (OffersOnly.of_router rfl).post _

theorem offersOnly_lockNode (node : NodeId) (now : UInt32) :
    OffersOnly q h (h.lockNode s node now).2 := by
  rw [lockNode]
  split
  · exact .of_router rfl
  · rename_i n _
    split
    · exact .of_router rfl
    · split
      · exact .of_router rfl
      · rename_i t _
        dsimp only
        rw [lockFrames_eq_map]
        exact (OffersOnly.posted h
          (lockLetters node n.subscribers ⟨s, t.login, t.host, now⟩)).of_same rfl

theorem offersOnly_unlockNode (node : NodeId) : OffersOnly q h (h.unlockNode s node).2 := by
  obtain ⟨offered, same⟩ := OffersOnly.posted (q := q) h (h.unlockLetters s node)
  exact ⟨offered, by rw [router_unlockNode, same]⟩

variable [Store σ]

theorem offersOnly_sendMapList : OffersOnly q h (h.sendMapList s) := by
  rw [sendMapList]
  split
  · exact .of_router rfl
  · rw [notify_eq_post]
    exact (OffersOnly.of_router rfl).post _

theorem offersOnly_openMap (map : MapId) : OffersOnly q h (h.openMap s map).2 := by
  rcases h.openMap_cases s map with ⟨_, refused⟩ | ⟨_, _, _, refused⟩ | ⟨m, _, _, joined⟩ |
    ⟨diagram, store, _, _, _, loaded⟩
  · rw [refused]
    exact .of_router rfl
  · rw [refused]
    exact .of_router rfl
  · rw [joined]
    exact (OffersOnly.of_router rfl).post _
  · rw [loaded]
    exact (OffersOnly.of_router rfl).post _

theorem offersOnly_openNode (node : NodeId) : OffersOnly q h (h.openNode s node).2 := by
  rcases h.openNode_cases s node with ⟨_, _, _, refused⟩ | ⟨store, _, _, missed⟩ |
    ⟨n, _, joined⟩ | ⟨record, store, _, _, loaded⟩
  · rw [refused]
    exact .of_router rfl
  · rw [missed]
    exact (OffersOnly.of_router rfl).post _
  · rw [joined]
    exact (OffersOnly.of_router rfl).post _
  · rw [loaded]
    exact (OffersOnly.of_router rfl).post _

theorem offersOnly_closeNode (node : NodeId) : OffersOnly q h (h.closeNode s node).2 := by
  by_cases views : h.ViewsNode s node
  · obtain ⟨offered, same⟩ := OffersOnly.posted (q := q) h (h.unlockLetters s node)
    exact ⟨offered, by rw [router_closeNode views, same]⟩
  · rw [closeNode_of_not_views views]
    exact .of_router rfl

/-- Another session than the one that asks is sent frames at most. -/
theorem offersOnly_apply (other : q ≠ s) (now : UInt32) (request : Request) :
    OffersOnly q h (h.apply s now request).2 := by
  cases request with
  | login login password => exact h.offersOnly_logIn other login
  | getMapList => exact h.offersOnly_sendMapList
  | openMap map => exact h.offersOnly_openMap map
  | closeMap map => exact .of_router (h.router_closeMap s map)
  | addSymbol map id x y => exact h.offersOnly_addElement other map id _
  | renameSymbol map old new => exact h.offersOnly_acknowledge (α := Symbol) other old new
  | deleteSymbol map id => exact h.offersOnly_deleteElement (α := Symbol) other map id
  | translateSymbol map id dx dy => exact h.offersOnly_translateSymbol map id dx dy
  | addConnection map id sym0 sym1 => exact h.offersOnly_addConnection other map id sym0 sym1
  | renameConnection map old new => exact h.offersOnly_acknowledge (α := Connection) other old new
  | deleteConnection map id => exact h.offersOnly_deleteElement (α := Connection) other map id
  | openNode node => exact h.offersOnly_openNode node
  | closeNode node => exact h.offersOnly_closeNode node
  | setNode node fields => exact h.offersOnly_setFields node fields
  | lockNode node => exact h.offersOnly_lockNode node now
  | unlockNode node => exact h.offersOnly_unlockNode node
  | unsupported command => exact .of_router rfl

end Offered

section Stored

variable {σ : Type} [Store σ] (h : Hub σ) (s : SessionId)

/-- A question changes nothing in the shelves. -/
theorem sameBut_asked {shelves : Store.Shelves σ} (separate : shelves.Separate) (request : Request) :
    shelves.SameBut none none h.store (h.asked request) := by
  cases request with
  | getMapList => exact separate.listMaps h.store
  | openMap map =>
      rw [asked]
      split
      · exact .refl _
      · exact separate.loadMap h.store map
  | openNode node =>
      rw [asked]
      split
      · exact .refl _
      · exact separate.loadNode h.store node
  | _ => exact .refl _

/-- Closing a map leaves the store alone, or the session was the only subscriber and has the map
written back. -/
theorem store_closeMap_cases (map : MapId) :
    (h.closeMap s map).2.store = h.store ∨
      ∃ m, h.maps.get? map = some m ∧ m.subscribers.members = [s] ∧
        (h.closeMap s map).2.maps.get? map = none ∧
        (h.closeMap s map).2.store = (Store.saveMap h.store map m.diagram).2 := by
  rw [store_closeMap]
  cases saved : h.diagramIf? (OpenMap.isOnlyFor s) map with
  | none => exact .inl rfl
  | some d =>
      obtain ⟨m, found, rfl⟩ := Option.map_eq_some_iff.mp saved
      obtain ⟨found, only⟩ := Option.filter_eq_some_iff.mp found
      have member := OpenMap.mem_of_isOnlyFor only
      refine .inr ⟨m, found, of_decide_eq_true only, ?_, rfl⟩
      rw [h.get?_maps_closeMap s map map ⟨m, found, member⟩, if_pos rfl, found, Option.bind_some,
        OpenMap.without?_of_viewed ⟨s, member⟩, if_pos (of_decide_eq_true only)]

/-- The same of a node. -/
theorem store_closeNode_cases (node : NodeId) :
    (h.closeNode s node).2.store = h.store ∨
      ∃ n, h.nodes.get? node = some n ∧ n.subscribers.members = [s] ∧
        (h.closeNode s node).2.nodes.get? node = none ∧
        (h.closeNode s node).2.store = (Store.saveNode h.store node n.record.fields).2 := by
  rw [store_closeNode]
  cases saved : h.fieldsIf? (OpenNode.isOnlyFor s) node with
  | none => exact .inl rfl
  | some fields =>
      obtain ⟨n, found, rfl⟩ := Option.map_eq_some_iff.mp saved
      obtain ⟨found, only⟩ := Option.filter_eq_some_iff.mp found
      have member := OpenNode.mem_of_isOnlyFor only
      refine .inr ⟨n, found, of_decide_eq_true only, ?_, rfl⟩
      rw [h.get?_nodes_closeNode s node node ⟨n, found, member⟩, if_pos rfl, found, Option.bind_some,
        OpenNode.without?_of_viewed ⟨s, member⟩, if_pos (of_decide_eq_true only)]

/-- Whether a session has closed a map that nobody else had open, so that the map was written back. -/
def WritesBackMap (h : Hub σ) (s : SessionId) (request : Request) (map : MapId) (h' : Hub σ) :
    Prop :=
  request = .closeMap map ∧ ∃ m, h.maps.get? map = some m ∧ m.subscribers.members = [s] ∧
    h'.maps.get? map = none ∧ h'.store = (Store.saveMap h.store map m.diagram).2

/-- Whether a session has closed a node that nobody else had open, so that the node was written back. -/
def WritesBackNode (h : Hub σ) (s : SessionId) (request : Request) (node : NodeId) (h' : Hub σ) :
    Prop :=
  request = .closeNode node ∧ ∃ n, h.nodes.get? node = some n ∧ n.subscribers.members = [s] ∧
    h'.nodes.get? node = none ∧ h'.store = (Store.saveNode h.store node n.record.fields).2

/-- A request leaves every shelf as it is, or writes a map or a node back, and then every shelf but
that of the map or the node. -/
theorem store_apply_cases {shelves : Store.Shelves σ} (separate : shelves.Separate) (now : UInt32)
    (request : Request) :
    let h' := (h.apply s now request).2
    shelves.SameBut none none h.store h'.store ∨
      (∃ map, shelves.SameBut (some map) none h.store h'.store ∧ h.WritesBackMap s request map h') ∨
      ∃ node, shelves.SameBut none (some node) h.store h'.store ∧
        h.WritesBackNode s request node h' := by
  intro h'
  cases idle : request.closes with
  | false =>
      refine .inl ?_
      rw [show h'.store = h.asked request from h.store_apply_of_not_closes s now idle]
      exact h.sameBut_asked separate request
  | true =>
      cases request with
      | closeMap map =>
          rcases h.store_closeMap_cases s map with same | ⟨m, found, only, closed, saved⟩
          · exact .inl (same ▸ .refl _)
          · refine .inr (.inl ⟨map, ?_, rfl, m, found, only, closed, saved⟩)
            exact saved ▸ separate.saveMap h.store map m.diagram
      | closeNode node =>
          rcases h.store_closeNode_cases s node with same | ⟨n, found, only, closed, saved⟩
          · exact .inl (same ▸ .refl _)
          · refine .inr (.inr ⟨node, ?_, rfl, n, found, only, closed, saved⟩)
            exact saved ▸ separate.saveNode h.store node n.record.fields
      | _ => cases idle

end Stored

/-- What a request of a session may change and what it may not. -/
structure Footprint {σ : Type} [Store σ] (shelves : Store.Shelves σ) (h : Hub σ) (s : SessionId)
    (now : UInt32) (request : Request) (h' : Hub σ) : Prop where
  /-- Other sessions keep their login, host, tables and received bytes. -/
  otherSessions : ∀ q, q ≠ s → OffersOnly q h h'
  /-- Only the map and the node that the request names may change. -/
  otherMaps : ∀ q, request.map? ≠ some q → h'.maps.get? q = h.maps.get? q
  otherNodes : ∀ q, request.node? ≠ some q → h'.nodes.get? q = h.nodes.get? q
  /-- The store changes only where a map or a node is written back that nobody has open any more. -/
  mapShelves : ∀ q, shelves.map h'.store q ≠ shelves.map h.store q → h.WritesBackMap s request q h'
  nodeShelves : ∀ q, shelves.node h'.store q ≠ shelves.node h.store q →
    h.WritesBackNode s request q h'
  restOfStore : shelves.rest h'.store = shelves.rest h.store
  /-- Contents are changed by subscribers, and fields by the holder of the lock. -/
  diagrams : ∀ q m m', h.maps.get? q = some m → h'.maps.get? q = some m' →
    m'.diagram ≠ m.diagram → s ∈ m.subscribers
  records : ∀ q n n', h.nodes.get? q = some n → h'.nodes.get? q = some n' →
    n'.record ≠ n.record → n.isHeldBy s = true ∧ n'.record.interfaces = n.record.interfaces
  /-- Nobody else comes or goes. -/
  mapSubscribers : ∀ q p, p ≠ s → (h'.ViewsMap p q ↔ h.ViewsMap p q)
  nodeSubscribers : ∀ q p, p ≠ s → (h'.ViewsNode p q ↔ h.ViewsNode p q)
  /-- An entry of the session's own tables is made by an addition that is accepted, and goes when it is
  acknowledged or when an element is deleted under its placeholder. -/
  entries : ∀ kind p k, h'.recorded? kind s p = some k ↔
    h.Assigns s request kind p k ∨
      h.recorded? kind s p = some k ∧ ¬ h.Drops s now request kind p k

/-- Every request keeps to its footprint. -/
theorem footprint_apply {σ : Type} [Store σ] {shelves : Store.Shelves σ} (separate : shelves.Separate)
    {h : Hub σ} (proper : h.ProperTables) (s : SessionId) (now : UInt32) (request : Request) :
    h.Footprint shelves s now request (h.apply s now request).2 where
  otherSessions _ other := h.offersOnly_apply other now request
  otherMaps := (h.sameBut_apply s now request).maps
  otherNodes := (h.sameBut_apply s now request).nodes
  mapShelves q changed := by
    rcases h.store_apply_cases s separate now request with same | ⟨map, same, written⟩ | ⟨_, same, _⟩
    · exact absurd (same.maps q nofun) changed
    · by_cases here : map = q
      · exact here ▸ written
      · exact absurd (same.maps q fun same => here (Option.some.inj same)) changed
    · exact absurd (same.maps q nofun) changed
  nodeShelves q changed := by
    rcases h.store_apply_cases s separate now request with same | ⟨_, same, _⟩ | ⟨node, same, written⟩
    · exact absurd (same.nodes q nofun) changed
    · exact absurd (same.nodes q nofun) changed
    · by_cases here : node = q
      · exact here ▸ written
      · exact absurd (same.nodes q fun same => here (Option.some.inj same)) changed
  restOfStore := by
    rcases h.store_apply_cases s separate now request with same | ⟨_, same, _⟩ | ⟨_, same, _⟩ <;>
      exact same.rest
  diagrams q _ _ before after changed :=
    ((h.mapTurn_apply s now request q).diagram_eq_or_mem before after).resolve_left changed
  records q _ _ before after changed :=
    ((h.nodeTurn_apply s now request q).record_eq_or_held before after).resolve_left changed
  mapSubscribers q _ other := (h.mapTurn_apply s now request q).subscribes_iff other
  nodeSubscribers q _ other := (h.nodeTurn_apply s now request q).subscribes_iff other
  entries kind p k := by
    rw [recorded?_apply_iff proper s now request]
    simp only [true_and]

end Hub

/-- At every moment of every run, whatever a session asks for keeps to its footprint.  The store may be
of any kind whose reads change nothing and whose saves change one shelf: the store in memory and the
store in tables are such stores. -/
theorem footprint_of_request :
    MemoryStore.shelves.Separate ∧ Database.shelves.Separate ∧
    ∀ {σ : Type} [Store σ] {shelves : Store.Shelves σ}, shelves.Separate →
      ∀ (store : σ) (maxFrameSize : Nat) (moves : List Move),
        let e := Engine.start store maxFrameSize
        (e.after moves).hub = e.hub.performAll (e.acts moves) ∧
        ∀ done rest, e.acts moves = done ++ rest →
          let h := e.hub.performAll done
          ∀ s now request, h.Footprint shelves s now request (h.apply s now request).2 := by
  refine ⟨MemoryStore.separate_shelves, Database.separate_shelves, ?_⟩
  intro σ _ shelves separate store maxFrameSize moves e
  refine ⟨e.hub_after moves, ?_⟩
  intro done rest _ h s now request
  have begun : e.hub.ProperTables := Hub.ProperTables.start store
  exact Hub.footprint_apply separate (begun.performAll done) s now request

theorem footprint_of_request_threeInOffice :
    let h := ((Engine.start planAndOffice 1000).after threeInOffice).hub
    h.Footprint MemoryStore.shelves ⟨1⟩ 0 (.closeMap 7) (h.apply ⟨1⟩ 0 (.closeMap 7)).2 ∧
      (h.apply ⟨1⟩ 0 (.closeMap 7)).2.store.mapSaveCount 7 = 1 ∧
      h.Footprint MemoryStore.shelves ⟨2⟩ 0 (.addSymbol 8 (-1) 3 4)
        (h.apply ⟨2⟩ 0 (.addSymbol 8 (-1) 3 4)).2 ∧
      (h.apply ⟨2⟩ 0 (.addSymbol 8 (-1) 3 4)).2.recorded? .symbol ⟨2⟩ (-1) = some 2 ∧
      (h.apply ⟨2⟩ 0 (.addSymbol 8 (-1) 3 4)).2.recorded? .symbol ⟨1⟩ (-1) = none := by
  intro h
  obtain ⟨_, _, every⟩ := footprint_of_request
  obtain ⟨run, moments⟩ := every MemoryStore.separate_shelves planAndOffice 1000 threeInOffice
  have here := moments ((Engine.start planAndOffice 1000).acts threeInOffice) []
    (List.append_nil _).symm
  rw [← run] at here
  refine ⟨here _ _ _, ?_, here _ _ _, ?_, ?_⟩
  · show (((Engine.start planAndOffice 1000).after threeInOffice).hub.apply ⟨1⟩ 0
      (.closeMap 7)).2.store.mapSaveCount 7 = 1
    decide_cbv
  · show (((Engine.start planAndOffice 1000).after threeInOffice).hub.apply ⟨2⟩ 0
      (.addSymbol 8 (-1) 3 4)).2.recorded? .symbol ⟨2⟩ (-1) = some 2
    decide_cbv
  · show (((Engine.start planAndOffice 1000).after threeInOffice).hub.apply ⟨2⟩ 0
      (.addSymbol 8 (-1) 3 4)).2.recorded? .symbol ⟨1⟩ (-1) = none
    decide_cbv

end TopoSync
