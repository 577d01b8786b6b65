import TopoSync.Proofs.Acts
import TopoSync.Proofs.Counterparts

/-!
# A hub over either store

The hub works in the same way over a store in memory and over a database that keeps the same.  What it
does with a map depends on which numbers are in use and never on the order of the elements or on the
names of symbols, and what it saves is saved by both stores, since it saves only what it has read.  So
the two hubs give the same answers and go on matching; only the contents of a map are sent in another
order.
-/

namespace TopoSync

/-- Whether two frames are the same, or both tell the contents of a map, which are alike. -/
def Frame.Alike (f f' : Frame) : Prop :=
  f' = f ∨ ∃ map d d', Diagram.Alike d d' ∧ f = (Notification.mapSnapshot map d).toFrame ∧
    f' = (Notification.mapSnapshot map d').toFrame

/-- Whether two open maps have the same subscribers and contents that match. -/
structure OpenMap.Matches (m m' : OpenMap) : Prop where
  diagram : m.diagram.Matches m'.diagram
  subscribers : m'.subscribers = m.subscribers

/-- Other contents that match, for the same subscribers. -/
theorem OpenMap.matches_of_diagram {d d' : Diagram} (diagram : d.Matches d') (r : Roster) :
    OpenMap.Matches ⟨d, r⟩ ⟨d', r⟩ :=
  ⟨diagram, rfl⟩

/-- Other subscribers of contents that match. -/
theorem OpenMap.Matches.withSubscribers {m m' : OpenMap} (matched : m.Matches m') (r : Roster) :
    OpenMap.Matches { m with subscribers := r } { m' with subscribers := r } :=
  ⟨matched.diagram, rfl⟩

namespace Router

/-- Whether two recipients get frames that are alike. -/
def SentAlike (e e' : SessionId × Frame) : Prop :=
  e'.1 = e.1 ∧ e.2.Alike e'.2

/-- Whether two routers differ only in frames sent that are alike, and so in how many bytes were
sent. -/
structure Matches (r r' : Router) : Prop where
  sessions : r'.sessions = r.sessions
  failed : r'.failed = r.failed
  framesSent : r'.stats.framesSent = r.stats.framesSent
  failedDeliveries : r'.stats.failedDeliveries = r.stats.failedDeliveries
  sent : List.Forall₂ SentAlike r.sent r'.sent

namespace Matches

variable {r r' : Router} (same : r.Matches r')

include same

theorem session? (id : SessionId) : r'.session? id = r.session? id := by
  rw [Router.session?, Router.session?, same.sessions]

theorem isRegistered (id : SessionId) : r'.isRegistered id = r.isRegistered id := by
  rw [Router.isRegistered, Router.isRegistered, same.sessions]

theorem withSessions (f : Table SessionId Session → Table SessionId Session) :
    Matches { r with sessions := f r.sessions } { r' with sessions := f r'.sessions } :=
  { same with sessions := congrArg f same.sessions }

theorem send (id : SessionId) {f f' : Frame} (alike : f.Alike f') :
    (r.send id f).2.Matches (r'.send id f').2 := by
  rw [Router.send, Router.send, same.session?]
  split
  · refine ⟨congrArg (Table.insert · id _) same.sessions, same.failed,
      congrArg (· + 1) same.framesSent, same.failedDeliveries, ?_⟩
    exact List.rel_append same.sent (.cons ⟨rfl, alike⟩ .nil)
  · refine ⟨same.sessions, ?_, same.framesSent, congrArg (· + 1) same.failedDeliveries, same.sent⟩
    simp only [recordFailure, same.isRegistered, same.failed]

theorem deliver {frames frames' : List (SessionId × Frame)}
    (alike : List.Forall₂ SentAlike frames frames') :
    (r.deliver frames).2.Matches (r'.deliver frames').2 := by
  induction alike generalizing r r' with
  | nil => exact same
  | @cons e e' frames frames' first _ ih =>
      obtain ⟨id, f⟩ := e
      obtain ⟨id', f'⟩ := e'
      obtain ⟨rfl, alike⟩ := first
      exact ih (same.send id' alike)

end Matches

end Router

theorem Table.keys_insert_congr {κ α β : Type} [DecidableEq κ] {t : Table κ α} {u : Table κ β}
    (same : u.keys = t.keys) (k : κ) (a : α) (b : β) : (u.insert k b).keys = (t.insert k a).keys := by
  by_cases member : k ∈ t.keys
  · rw [keys_insert_of_mem member, keys_insert_of_mem (same ▸ member), same]
  · have absent : k ∉ u.keys := same ▸ member
    rw [insert, insert, dif_neg member, dif_neg absent]
    simp only [keys, List.map_append, List.map_cons, List.map_nil]
    exact congrArg (· ++ [k]) same

/-- The keys of the entries with a property are the keys whose value has it. -/
theorem Table.map_fst_filter {κ α : Type} [DecidableEq κ] (t : Table κ α) (p : α → Bool) :
    (t.entries.filter fun e => p e.2).map Prod.fst = t.keys.filter fun k => (t.get? k).any p := by
  rw [keys, List.filter_map]
  congr 1
  refine List.filter_congr fun e member => ?_
  rw [Function.comp_apply, mem_entries_iff.mp member]
  rfl

namespace Hub

/-- Whether a hub over a store in memory and a hub over a database that keeps the same have the same
open, up to the order of elements and the names of symbols, and have done the same. -/
structure Matches (h : Hub MemoryStore) (h' : Hub Database) : Prop where
  backed : h.Backed
  store : h'.store.Reflects h.store
  keys : h'.maps.keys = h.maps.keys
  maps : ∀ map, Option.Rel OpenMap.Matches (h.maps.get? map) (h'.maps.get? map)
  nodes : h'.nodes = h.nodes
  router : h.router.Matches h'.router

/-- Whether two outcomes are the same answer with hubs that match. -/
structure AnsweredAs {β γ : Type} (o : Except β γ × Hub MemoryStore)
    (o' : Except β γ × Hub Database) : Prop where
  answer : o'.1 = o.1
  hub : Matches o.2 o'.2

theorem AnsweredAs.dropValue {α : Type} {o : Outcome MemoryStore α} {o' : Outcome Database α}
    (answered : AnsweredAs o o') : AnsweredAs (Hub.dropValue o) (Hub.dropValue o') :=
  ⟨congrArg (Except.map fun _ => ()) answered.answer, answered.hub⟩

namespace Matches

variable {h : Hub MemoryStore} {h' : Hub Database} (same : h.Matches h')

include same

section Parts

theorem withRouter {router router' : Router} (related : router.Matches router') :
    Matches { h with router } { h' with router := router' } :=
  { same with
    backed := ⟨same.backed.taking, same.backed.map_kept, same.backed.node_kept⟩
    router := related }

theorem amend (id : SessionId) (f : Session → Session) : (h.amend id f).Matches (h'.amend id f) :=
  same.withRouter (same.router.withSessions fun sessions => sessions.modify id f)

theorem post (letters : List Letter) : (h.post letters).Matches (h'.post letters) := by
  refine same.withRouter (same.router.deliver ?_)
  exact List.forall₂_same.mpr fun e _ => ⟨rfl, .inl rfl⟩

/-- The contents of a map are told alike. -/
theorem postSnapshot (session : SessionId) (map : MapId) {d d' : Diagram} (alike : d.Alike d') :
    (h.post [(session, .mapSnapshot map d)]).Matches (h'.post [(session, .mapSnapshot map d')]) :=
  same.withRouter <| same.router.deliver <|
    .cons ⟨rfl, .inr ⟨map, d, d', alike, rfl, rfl⟩⟩ .nil

theorem putMap {map : MapId} {m m' : OpenMap} (matched : m.Matches m')
    (kept : ∃ kept, h.store.maps.get? map = some kept) :
    (h.putMap map m).Matches (h'.putMap map m') where
  backed := same.backed.putMap m kept
  store := same.store
  keys := Table.keys_insert_congr same.keys map m m'
  maps q := by
    rw [maps_putMap, maps_putMap, Table.get?_insert, Table.get?_insert]
    split
    · exact .some matched
    · exact same.maps q
  nodes := same.nodes
  router := same.router

theorem putNode {node : NodeId} (n : OpenNode)
    (kept : ∃ kept, h.store.nodes.get? node = some kept ∧ kept.interfaces = n.record.interfaces) :
    (h.putNode node n).Matches (h'.putNode node n) :=
  { same with
    backed := same.backed.putNode n kept
    nodes := by rw [nodes_putNode, nodes_putNode, same.nodes] }

/-- A session subscribes to a map in both hubs or in neither. -/
theorem subscribedMap? (session : SessionId) (map : MapId) :
    h.subscribedMap? session map = none ∧ h'.subscribedMap? session map = none ∨
      ∃ m m', h.maps.get? map = some m ∧ h.subscribedMap? session map = some m ∧
        h'.subscribedMap? session map = some m' ∧ m.Matches m' := by
  rw [Hub.subscribedMap?, Hub.subscribedMap?]
  rcases none_or_some_of_rel (same.maps map) with ⟨found, found'⟩ | ⟨m, m', found, found', matched⟩
  · rw [found, found']
    exact .inl ⟨rfl, rfl⟩
  · rw [found, found', Option.filter_some, Option.filter_some, matched.subscribers]
    by_cases member : session ∈ m.subscribers
    · exact .inr ⟨m, m', rfl, by simp [member], by simp [member], matched⟩
    · exact .inl ⟨by simp [member], by simp [member]⟩

theorem subscribedNode? (session : SessionId) (node : NodeId) :
    h'.subscribedNode? session node = h.subscribedNode? session node := by
  rw [Hub.subscribedNode?, Hub.subscribedNode?, same.nodes]

theorem heldNode? (session : SessionId) (node : NodeId) :
    h'.heldNode? session node = h.heldNode? session node := by
  rw [Hub.heldNode?, Hub.heldNode?, same.nodes]

/-- What is written back of a map is saved by both stores. -/
theorem writeBackMap (map : MapId) : (h.writeBackMap map).Matches (h'.writeBackMap map) := by
  rcases none_or_some_of_rel (same.maps map) with ⟨found, found'⟩ | ⟨m, m', found, found', matched⟩
  · rw [Hub.writeBackMap, Hub.writeBackMap, found, found']
    exact same
  · obtain ⟨kept, stored⟩ := same.backed.map_kept map m found
    have backed := same.backed.writeBackMap map
    rw [writeBackMap_of_get? found, writeBackMap_of_get? found',
      MemoryStore.saveMap_of_taking same.backed.taking]
    rw [writeBackMap_of_get? found, MemoryStore.saveMap_of_taking same.backed.taking] at backed
    refine ⟨backed, same.store.saveMap stored matched.diagram, ?_, fun q => ?_, same.nodes,
      same.router⟩
    · show (h'.maps.erase map).keys = (h.maps.erase map).keys
      rw [Table.keys_erase, Table.keys_erase, same.keys]
    · show Option.Rel _ ((h.maps.erase map).get? q) ((h'.maps.erase map).get? q)
      rw [Table.get?_erase, Table.get?_erase]
      split
      · exact .none
      · exact same.maps q

theorem writeBackNode (node : NodeId) : (h.writeBackNode node).Matches (h'.writeBackNode node) := by
  cases found : h.nodes.get? node with
  | none =>
      have found' : h'.nodes.get? node = none := same.nodes ▸ found
      rw [Hub.writeBackNode, Hub.writeBackNode, found, found']
      exact same
  | some n =>
      have found' : h'.nodes.get? node = some n := same.nodes ▸ found
      obtain ⟨kept, stored, _⟩ := same.backed.node_kept node n found
      have backed := same.backed.writeBackNode node
      rw [writeBackNode_of_get? found, writeBackNode_of_get? found',
        MemoryStore.saveNode_of_taking same.backed.taking]
      rw [writeBackNode_of_get? found, MemoryStore.saveNode_of_taking same.backed.taking] at backed
      exact ⟨backed, same.store.saveNode stored n.record.fields, same.keys, same.maps,
        congrArg (Table.erase · node) same.nodes, same.router⟩

theorem closeMap (session : SessionId) (map : MapId) :
    AnsweredAs (h.closeMap session map) (h'.closeMap session map) := by
  rw [Hub.closeMap, Hub.closeMap]
  rcases same.subscribedMap? session map with ⟨closed, closed'⟩ | ⟨m, m', found, sub, sub', matched⟩
  · rw [closed, closed']
    exact ⟨rfl, same⟩
  · rw [sub, sub']
    dsimp only
    rw [matched.subscribers]
    have left := same.putMap (matched.withSubscribers (m.subscribers.erase session))
      (same.backed.map_kept map m found)
    split
    · exact ⟨rfl, left.writeBackMap map⟩
    · exact ⟨rfl, left⟩

theorem leaveNode (session : SessionId) (node : NodeId) :
    (h.leaveNode session node).Matches (h'.leaveNode session node) := by
  rw [Hub.leaveNode, Hub.leaveNode, same.nodes]
  cases found : h.nodes.get? node with
  | none => exact same
  | some n =>
      dsimp only
      have left := same.putNode { n with subscribers := n.subscribers.erase session }
        (same.backed.node_kept node n found)
      split
      · exact left.writeBackNode node
      · exact left

omit same in
/-- What is done for each item of a list keeps hubs matching if it does so for every single item. -/
theorem foldl (same : h.Matches h') {β : Type} {step : Hub MemoryStore → β → Hub MemoryStore}
    {step' : Hub Database → β → Hub Database}
    (one : ∀ {h h'}, Matches h h' → ∀ b, Matches (step h b) (step' h' b)) (items : List β) :
    (items.foldl step h).Matches (items.foldl step' h') := by
  induction items generalizing h h' with
  | nil => exact same
  | cons b rest ih => exact ih (one same b)

theorem flush : h.flushMaps.2.flushNodes.2.Matches h'.flushMaps.2.flushNodes.2 := by
  have maps : h.flushMaps.2.Matches h'.flushMaps.2 := by
    rw [flushMaps, flushMaps, same.keys]
    exact same.foldl (fun same map => same.writeBackMap map) _
  rw [flushNodes, flushNodes, maps.nodes]
  exact maps.foldl (fun same node => same.writeBackNode node) _

end Parts

section Requests

variable (session : SessionId)

section Elements

variable {α : Type} [MapElement α]

theorem acknowledge (old new : ElementId) :
    AnsweredAs (h.acknowledge α session old new) (h'.acknowledge α session old new) := by
  rw [Hub.acknowledge, Hub.acknowledge, same.router.session?]
  split
  · exact ⟨rfl, same⟩
  · split
    · exact ⟨rfl, same⟩
    · exact ⟨rfl, same.amend session _⟩

variable (comparable : MapElement.Comparable α)

include comparable

theorem addElement (map : MapId) (temp : ElementId) {build : ElementId → α}
    (numbers : ∀ id, Numbered.number (build id) = id) :
    AnsweredAs (h.addElement session map temp build) (h'.addElement session map temp build) := by
  rw [Hub.addElement, Hub.addElement, same.router.isRegistered]
  split
  · exact ⟨rfl, same⟩
  · split
    · exact ⟨rfl, same⟩
    · rcases same.subscribedMap? session map with
        ⟨closed, closed'⟩ | ⟨m, m', found, sub, sub', matched⟩
      · rw [closed, closed']
        exact ⟨rfl, same⟩
      · rw [sub, sub']
        dsimp only
        rw [← Elements.nextFree?_congr (comparable.numbers matched.diagram.toAlike)]
        split
        · exact ⟨rfl, same⟩
        · rename_i id free
          have fresh : Numbered.number (build id) ∉
              Elements.numbers (MapElement.elements m.diagram : List α) :=
            (numbers id).symm ▸ Elements.not_mem_of_nextFree? free
          have added := same.putMap (OpenMap.matches_of_diagram
            (comparable.added matched.diagram _ fresh) m.subscribers)
            (same.backed.map_kept map m found)
          simp only [notify_eq_post, notifyOthers_eq_post, matched.subscribers]
          exact ⟨rfl, ((added.post _).post _).amend session _⟩

theorem deleteElement (map : MapId) (id : ElementId) :
    AnsweredAs (h.deleteElement α session map id) (h'.deleteElement α session map id) := by
  rw [Hub.deleteElement, Hub.deleteElement, same.router.session?]
  rcases same.subscribedMap? session map with ⟨closed, closed'⟩ | ⟨m, m', found, sub, sub', matched⟩
  · rw [closed, closed']
    exact ⟨rfl, same⟩
  · rw [sub, sub']
    dsimp only
    split
    · exact ⟨rfl, same⟩
    · rw [← Elements.contains_congr (comparable.numbers matched.diagram.toAlike)]
      split
      · exact ⟨rfl, same⟩
      · split
        · exact ⟨rfl, same⟩
        · rename_i s _ _ _ _ _
          have removed := same.putMap (OpenMap.matches_of_diagram (comparable.removed
            matched.diagram ((MapElement.placeholders α s).resolve id)) m.subscribers)
            (same.backed.map_kept map m found)
          simp only [notifyOthers_eq_post, matched.subscribers]
          exact ⟨rfl, (removed.amend session _).post _⟩

end Elements

theorem logIn (login : String) : AnsweredAs (h.logIn session login) (h'.logIn session login) := by
  rw [Hub.logIn, Hub.logIn, same.router.isRegistered]
  split
  · exact ⟨rfl, same.amend session _⟩
  · exact ⟨rfl, same⟩

theorem addConnection (map : MapId) (temp sym0 sym1 : ElementId) :
    AnsweredAs (h.addConnection session map temp sym0 sym1)
      (h'.addConnection session map temp sym0 sym1) := by
  rw [Hub.addConnection, Hub.addConnection, same.router.session?]
  split
  · exact ⟨rfl, same⟩
  · exact same.addElement session comparable_connection map temp fun _ => rfl

theorem translateSymbol (map : MapId) (id : ElementId) (dx dy : Int32) :
    AnsweredAs (h.translateSymbol session map id dx dy)
      (h'.translateSymbol session map id dx dy) := by
  rw [Hub.translateSymbol, Hub.translateSymbol, same.router.session?]
  split
  · exact ⟨rfl, same⟩
  · rcases same.subscribedMap? session map with
      ⟨closed, closed'⟩ | ⟨m, m', found, sub, sub', matched⟩
    · rw [closed, closed']
      exact ⟨rfl, same⟩
    · rw [sub, sub']
      dsimp only
      rw [← Elements.contains_congr matched.diagram.toAlike.numbers.1]
      split
      · exact ⟨rfl, same⟩
      · rename_i s _ _
        have moved := same.putMap (OpenMap.matches_of_diagram (matched.diagram.moved
          (s.symbolIds.resolve id) dx dy) m.subscribers) (same.backed.map_kept map m found)
        simp only [notifyOthers_eq_post, matched.subscribers]
        exact ⟨rfl, moved.post _⟩

theorem setFields (node : NodeId) (fields : NodeFields) :
    AnsweredAs (h.setFields session node fields) (h'.setFields session node fields) := by
  rw [Hub.setFields, Hub.setFields, same.heldNode?]
  split
  · exact ⟨rfl, same⟩
  · rename_i n held
    have kept := same.backed.node_kept node n (heldNode?_eq_some_iff.mp held).1
    simp only [notifyOthers_eq_post]
    refine ⟨rfl, (same.putNode _ ?_).post _⟩
    exact kept

theorem unlockNode (node : NodeId) :
    AnsweredAs (h.unlockNode session node) (h'.unlockNode session node) := by
  rw [Hub.unlockNode, Hub.unlockNode, same.heldNode?]
  split
  · exact ⟨rfl, same⟩
  · rename_i n held
    have kept := same.backed.node_kept node n (heldNode?_eq_some_iff.mp held).1
    simp only [notifyAll_eq_post]
    refine ⟨rfl, (same.putNode _ ?_).post _⟩
    exact kept

theorem lockNode (node : NodeId) (now : UInt32) :
    AnsweredAs (h.lockNode session node now) (h'.lockNode session node now) := by
  rw [Hub.lockNode, Hub.lockNode, same.subscribedNode?, same.router.session?]
  split
  · exact ⟨rfl, same⟩
  · rename_i n subscribed
    have kept := same.backed.node_kept node n (subscribedNode?_eq_some_iff.mp subscribed).1
    split
    · exact ⟨rfl, same⟩
    · split
      · exact ⟨rfl, same⟩
      · simp only [lockFrames_eq_map]
        refine ⟨rfl, (same.putNode _ ?_).post _⟩
        exact kept

theorem sendMapList : (h.sendMapList session).Matches (h'.sendMapList session) := by
  have list : Store.listMaps h'.store = (.ok h.store.mapList, h'.store) :=
    congrArg (fun entries => (Except.ok entries, h'.store)) same.store.mapList
  have list' : Store.listMaps h.store = (.ok h.store.mapList, h.store) := rfl
  rw [Hub.sendMapList, Hub.sendMapList, list, list']
  simp only [notify_eq_post]
  exact same.post _

/-- A map that nobody has open is read from both stores alike. -/
theorem openMap (map : MapId) :
    AnsweredAs (h.openMap session map) (h'.openMap session map) := by
  have load : Store.loadMap h.store map = (.ok ((h.store.maps.get? map).map Prod.snd), h.store) := rfl
  have load' : Store.loadMap h'.store map = (.ok (h'.store.map? map), h'.store) := rfl
  rw [Hub.openMap, Hub.openMap, Hub.fetchMap, Hub.fetchMap, load, load']
  split
  · exact ⟨rfl, same⟩
  · rcases none_or_some_of_rel (same.maps map) with ⟨found, found'⟩ | ⟨m, m', found, found', matched⟩
    · rw [found, found']
      rcases none_or_some_of_rel (same.store.map? map) with
        ⟨absent, absent'⟩ | ⟨d, d', read, read', matched⟩
      · rw [absent, absent']
        exact ⟨rfl, same⟩
      · obtain ⟨entry, stored, rfl⟩ := Option.map_eq_some_iff.mp read
        have joined := same.putMap (OpenMap.matches_of_diagram matched (Roster.insert ∅ session))
          ⟨entry, stored⟩
        rw [read, read']
        simp only [notify_eq_post]
        exact ⟨rfl, joined.postSnapshot session map matched.toAlike⟩
    · have joined := same.putMap (matched.withSubscribers (m.subscribers.insert session))
        (same.backed.map_kept map m found)
      rw [found, found']
      simp only [notify_eq_post, matched.subscribers]
      exact ⟨rfl, joined.postSnapshot session map matched.diagram.toAlike⟩

theorem openNode (node : NodeId) :
    AnsweredAs (h.openNode session node) (h'.openNode session node) := by
  have load : Store.loadNode h.store node = (.ok (h.store.nodes.get? node), h.store) := rfl
  have load' : Store.loadNode h'.store node = (.ok (h.store.nodes.get? node), h'.store) :=
    congrArg (fun record => (Except.ok record, h'.store)) (same.store.node? node)
  have open_ : h'.nodes.get? node = h.nodes.get? node := by rw [same.nodes]
  rw [Hub.openNode, Hub.openNode, Hub.fetchNode, Hub.fetchNode, open_, load, load']
  cases found : h.nodes.get? node with
  | some n =>
      simp only [notify_eq_post]
      refine ⟨rfl, (same.putNode _ ?_).post _⟩
      exact same.backed.node_kept node n found
  | none =>
      cases stored : h.store.nodes.get? node with
      | none =>
          simp only [notify_eq_post]
          exact ⟨rfl, same.post _⟩
      | some record =>
          simp only [notify_eq_post]
          refine ⟨rfl, (same.putNode _ ?_).post _⟩
          exact ⟨record, stored, rfl⟩

theorem closeNode (node : NodeId) :
    AnsweredAs (h.closeNode session node) (h'.closeNode session node) := by
  rw [Hub.closeNode, Hub.closeNode, same.subscribedNode?]
  split
  · exact ⟨rfl, same⟩
  · exact ⟨rfl, (same.unlockNode session node).hub.leaveNode session node⟩

/-- A request gets the same answer in hubs that match, and keeps them matching. -/
theorem apply (now : UInt32) (request : Request) :
    AnsweredAs (h.apply session now request) (h'.apply session now request) := by
  cases request with
  | login login password => exact same.logIn session login
  | getMapList => exact ⟨rfl, same.sendMapList session⟩
  | openMap map => exact same.openMap session map
  | closeMap map => exact same.closeMap session map
  | addSymbol map id x y =>
      exact (same.addElement session comparable_symbol map id fun _ => rfl).dropValue
  | renameSymbol map old new => exact same.acknowledge session old new
  | deleteSymbol map id => exact (same.deleteElement session comparable_symbol map id).dropValue
  | translateSymbol map id dx dy => exact same.translateSymbol session map id dx dy
  | addConnection map id sym0 sym1 => exact (same.addConnection session map id sym0 sym1).dropValue
  | renameConnection map old new => exact same.acknowledge session old new
  | deleteConnection map id =>
      exact (same.deleteElement session comparable_connection map id).dropValue
  | openNode node => exact same.openNode session node
  | closeNode node => exact same.closeNode session node
  | setNode node fields => exact same.setFields session node fields
  | lockNode node => exact same.lockNode session node now
  | unlockNode node => exact same.unlockNode session node
  | unsupported command => exact ⟨rfl, same⟩

/-- So does a frame. -/
theorem answerFrame (now : UInt32) (frame : Bytes) :
    AnsweredAs (h.answerFrame session now frame) (h'.answerFrame session now frame) := by
  rw [Hub.answerFrame, Hub.answerFrame]
  split
  · exact ⟨rfl, same⟩
  · split
    · exact ⟨rfl, same⟩
    · split
      · exact ⟨rfl, same⟩
      · rename_i request _
        have answered := same.apply session now request
        rcases applied : h.apply session now request with ⟨verdict, after⟩
        rcases applied' : h'.apply session now request with ⟨verdict', after'⟩
        rw [applied, applied'] at answered
        obtain rfl : verdict' = verdict := answered.answer
        cases verdict' <;> exact ⟨rfl, answered.hub⟩

theorem releaseMaps : (h.releaseMaps session).2.Matches (h'.releaseMaps session).2 := by
  have viewed : h'.mapsOf session = h.mapsOf session := by
    rw [mapsOf, mapsOf, Table.map_fst_filter _ fun m : OpenMap => decide (session ∈ m.subscribers),
      Table.map_fst_filter _ fun m : OpenMap => decide (session ∈ m.subscribers), same.keys]
    refine List.filter_congr fun map _ => ?_
    rcases none_or_some_of_rel (same.maps map) with ⟨found, found'⟩ | ⟨m, m', found, found', matched⟩
    · rw [found, found']
    · rw [found, found', Option.any_some, Option.any_some, matched.subscribers]
  rw [Hub.releaseMaps, Hub.releaseMaps, viewed]
  exact same.foldl (fun same map => (same.closeMap session map).hub) _

theorem releaseNodes : (h.releaseNodes session).2.Matches (h'.releaseNodes session).2 := by
  have viewed : h'.nodesOf session = h.nodesOf session := by rw [nodesOf, nodesOf, same.nodes]
  rw [Hub.releaseNodes, Hub.releaseNodes, viewed]
  exact same.foldl (fun same node => (same.closeNode session node).hub) _

end Requests

section Endings

theorem takeFailed : h.takeFailed.2.Matches h'.takeFailed.2 :=
  same.withRouter { same.router with failed := rfl }

theorem endSession (session : SessionId) : (h.endSession session).Matches (h'.endSession session) := by
  have released := (same.releaseMaps session).releaseNodes session
  have router := released.router
  refine released.withRouter { router with sessions := ?_, failed := ?_ }
  · exact congrArg (Table.erase · session) router.sessions
  · exact congrArg (List.filter _) router.failed

/-- The same sessions end, in the same order. -/
theorem endings (pending : List SessionId) : h'.endings pending = h.endings pending := by
  induction h, pending using Hub.endings.induct generalizing h' with
  | case1 h => rw [Hub.endings, Hub.endings]
  | case2 h id rest registered ended =>
      rename_i ih
      have registered' := (same.router.isRegistered id).trans registered
      have ending := same.endSession id
      have failed : (h'.endSession id).takeFailed.1 = (h.endSession id).takeFailed.1 :=
        ending.router.failed
      rw [Hub.endings, Hub.endings, if_pos registered, if_pos registered']
      dsimp only
      rw [failed, ih ending.takeFailed]
  | case3 h id rest unknown ih =>
      have unknown' : ¬ h'.router.isRegistered id = true := by rwa [same.router.isRegistered]
      rw [Hub.endings, Hub.endings, if_neg unknown, if_neg unknown']
      exact ih same

theorem finishes (pending : List SessionId) : h'.finishes pending = h.finishes pending :=
  congrArg (List.map Act.finish) (same.endings pending)

theorem reaping : h'.reaping = h.reaping := by
  have failed : h'.takeFailed.1 = h.takeFailed.1 := same.router.failed
  rw [Hub.reaping, Hub.reaping, failed, same.takeFailed.finishes]

/-- Every act keeps hubs matching. -/
theorem perform (a : Act) : (h.perform a).Matches (h'.perform a) := by
  cases a with
  | connect id host reader => exact same.withRouter (same.router.withSessions fun t => t.insert id _)
  | retire id after => exact same.amend id _
  | buffer id rest => exact same.amend id _
  | answer id now frame => exact (same.answerFrame id now frame).hub
  | finish id => exact (same.endSession id).takeFailed
  | clearMarks => exact same.takeFailed
  | flush => exact same.flush

theorem performAll (acts : List Act) : (h.performAll acts).Matches (h'.performAll acts) :=
  same.foldl (fun same a => same.perform a) acts

end Endings

end Matches

end Hub

end TopoSync
