import TopoSync.Proofs.Acts

/-!
# What operations take no notice of

Of a session, no operation looks at the bytes that were received and not yet understood, nor at the
reader of its queue except to send; and what has been sent is never looked at again.  Two hubs whose
routers differ in nothing else therefore answer every request alike and end every session alike, and
go on differing in nothing else.  The theory is about relations between routers of which only a few
things are known, and is used for several of them.
-/

namespace TopoSync

/-- The session with other bytes received and another reader of its queue. -/
def Session.withEnds (s : Session) (inbound : Bytes) (reader : QueueReader) : Session :=
  { s with inbound, reader }

/-- Whether a change of sessions takes no notice of the bytes received and of the reader. -/
def Session.Inner (f : Session → Session) : Prop :=
  ∀ (s : Session) inbound reader, f (s.withEnds inbound reader) = (f s).withEnds inbound reader

theorem Session.Inner.ends {f : Session → Session} (inner : Session.Inner f) (s : Session) :
    (f s).inbound = s.inbound ∧ (f s).reader = s.reader := by
  have same : f s = (f s).withEnds s.inbound s.reader := inner s s.inbound s.reader
  rw [same]
  exact ⟨rfl, rfl⟩

namespace Router

/-- Whether routers in a relation differ only in what requests take no notice of, and stay in it
whatever requests do to them. -/
structure Unnoticed (R : Router → Router → Prop) : Prop where
  session? : ∀ {r r'}, R r r' → ∀ q, ∃ inbound reader,
    r'.session? q = (r.session? q).map fun s => s.withEnds inbound reader
  deliver : ∀ {r r'}, R r r' → ∀ frames, R (r.deliver frames).2 (r'.deliver frames).2
  updateSession : ∀ {r r'}, R r r' → ∀ q {f}, Session.Inner f →
    R (r.updateSession q f) (r'.updateSession q f)

/-- Whether they differ only in what the ends of sessions take no notice of, and stay in the relation
when sessions end. -/
structure Lasting (R : Router → Router → Prop) : Prop extends Unnoticed R where
  failed : ∀ {r r'}, R r r' → r'.failed = r.failed
  unregister : ∀ {r r'}, R r r' → ∀ q, R (r.unregister q) (r'.unregister q)
  takeFailed : ∀ {r r'}, R r r' → R r.takeFailed.2 r'.takeFailed.2

variable {R : Router → Router → Prop} {r r' : Router}

theorem Unnoticed.isRegistered (unnoticed : Unnoticed R) (related : R r r') (q : SessionId) :
    r'.isRegistered q = r.isRegistered q := by
  obtain ⟨inbound, reader, same⟩ := unnoticed.session? related q
  rw [isRegistered_eq_isSome, same, Option.isSome_map, isRegistered_eq_isSome]

end Router

namespace Hub

variable {σ : Type}

/-- Whether two hubs differ only in their routers, which are related. -/
structure Alike (R : Router → Router → Prop) (h h' : Hub σ) : Prop where
  maps : h'.maps = h.maps
  nodes : h'.nodes = h.nodes
  store : h'.store = h.store
  router : R h.router h'.router

/-- Whether two outcomes are the same answer with hubs that are alike. -/
structure AnsweredAlike {β γ : Type} (R : Router → Router → Prop) (o o' : Except β γ × Hub σ) :
    Prop where
  answer : o'.1 = o.1
  hub : Alike R o.2 o'.2

/-- Whether a kind of element keeps its placeholders apart from what else is kept of a session. -/
structure Inner (α : Type) [MapElement α] : Prop where
  reads : ∀ (s : Session) inbound reader,
    MapElement.placeholders α (s.withEnds inbound reader) = MapElement.placeholders α s
  writes : ∀ p : Placeholders, Session.Inner fun s => MapElement.withPlaceholders α s p

theorem inner_symbol : Inner Symbol :=
  ⟨fun _ _ _ => rfl, fun _ _ _ _ => rfl⟩

theorem inner_connection : Inner Connection :=
  ⟨fun _ _ _ => rfl, fun _ _ _ _ => rfl⟩

theorem Inner.recordPlaceholder {α : Type} [MapElement α] (inner : Inner α) (old new : ElementId) :
    Session.Inner fun s => s.recordPlaceholder α old new := by
  intro s inbound reader
  dsimp only
  rw [Session.recordPlaceholder, Session.recordPlaceholder, inner.reads]
  cases (MapElement.placeholders α s).insert old new with
  | ok p => exact inner.writes p s inbound reader
  | error reason => rfl

variable {R : Router → Router → Prop} {h h' : Hub σ}

theorem AnsweredAlike.dropValue {α : Type} {o o' : Outcome σ α} (answered : AnsweredAlike R o o') :
    AnsweredAlike R (Hub.dropValue o) (Hub.dropValue o') :=
  ⟨congrArg (Except.map fun _ => ()) answered.answer, answered.hub⟩

namespace Alike

section Parts

variable (alike : Alike R h h')

include alike

theorem withRouter {router router' : Router} (related : R router router') :
    Alike R { h with router } { h' with router := router' } :=
  { alike with router := related }

theorem putMap (map : MapId) (m : OpenMap) : Alike R (h.putMap map m) (h'.putMap map m) :=
  { alike with maps := by rw [maps_putMap, maps_putMap, alike.maps] }

theorem putNode (node : NodeId) (n : OpenNode) : Alike R (h.putNode node n) (h'.putNode node n) :=
  { alike with nodes := by rw [nodes_putNode, nodes_putNode, alike.nodes] }

theorem withStore (store : σ) : Alike R { h with store } { h' with store } :=
  { alike with store := rfl }

theorem subscribedMap? (q : SessionId) (map : MapId) :
    h'.subscribedMap? q map = h.subscribedMap? q map := by
  rw [Hub.subscribedMap?, Hub.subscribedMap?, alike.maps]

theorem subscribedNode? (q : SessionId) (node : NodeId) :
    h'.subscribedNode? q node = h.subscribedNode? q node := by
  rw [Hub.subscribedNode?, Hub.subscribedNode?, alike.nodes]

theorem heldNode? (q : SessionId) (node : NodeId) : h'.heldNode? q node = h.heldNode? q node := by
  rw [Hub.heldNode?, Hub.heldNode?, alike.nodes]

variable [Store σ]

theorem writeBackMap (map : MapId) : Alike R (h.writeBackMap map) (h'.writeBackMap map) := by
  rw [Hub.writeBackMap, Hub.writeBackMap, alike.maps, alike.store]
  split
  · exact alike
  · exact { alike with maps := rfl, store := rfl }

theorem writeBackNode (node : NodeId) : Alike R (h.writeBackNode node) (h'.writeBackNode node) := by
  rw [Hub.writeBackNode, Hub.writeBackNode, alike.nodes, alike.store]
  split
  · exact alike
  · exact { alike with nodes := rfl, store := rfl }

theorem closeMap (session : SessionId) (map : MapId) :
    AnsweredAlike R (h.closeMap session map) (h'.closeMap session map) := by
  rw [Hub.closeMap, Hub.closeMap, alike.subscribedMap?]
  split
  · exact ⟨rfl, alike⟩
  · dsimp only
    split
    · exact ⟨rfl, (alike.putMap map _).writeBackMap map⟩
    · exact ⟨rfl, alike.putMap map _⟩

theorem leaveNode (session : SessionId) (node : NodeId) :
    Alike R (h.leaveNode session node) (h'.leaveNode session node) := by
  rw [Hub.leaveNode, Hub.leaveNode, alike.nodes]
  split
  · exact alike
  · dsimp only
    split
    · exact (alike.putNode node _).writeBackNode node
    · exact alike.putNode node _

omit [Store σ] in
/-- What is done for each item of a list keeps hubs alike if it does so for every single item. -/
theorem foldl {β : Type} {step : Hub σ → β → Hub σ}
    (one : ∀ {h h'}, Alike R h h' → ∀ b, Alike R (step h b) (step h' b)) (items : List β) :
    Alike R (items.foldl step h) (items.foldl step h') := by
  induction items generalizing h h' with
  | nil => exact alike
  | cons b rest ih => exact ih (one alike b)

theorem flush : Alike R h.flushMaps.2.flushNodes.2 h'.flushMaps.2.flushNodes.2 := by
  have maps : Alike R h.flushMaps.2 h'.flushMaps.2 := by
    rw [flushMaps, flushMaps, alike.maps]
    exact alike.foldl (fun alike map => alike.writeBackMap map) _
  rw [flushNodes, flushNodes, maps.nodes]
  exact maps.foldl (fun alike node => alike.writeBackNode node) _

end Parts

section Requests

variable (alike : Alike R h h') (unnoticed : Router.Unnoticed R) (session : SessionId)

include alike unnoticed

theorem post (letters : List Letter) : Alike R (h.post letters) (h'.post letters) :=
  alike.withRouter (unnoticed.deliver alike.router _)

theorem amend {f : Session → Session} (inner : Session.Inner f) :
    Alike R (h.amend session f) (h'.amend session f) :=
  alike.withRouter (unnoticed.updateSession alike.router session inner)

section Elements

variable {α : Type} [MapElement α] (inner : Inner α)

include inner

theorem acknowledge (old new : ElementId) :
    AnsweredAlike R (h.acknowledge α session old new) (h'.acknowledge α session old new) := by
  obtain ⟨inbound, reader, same⟩ := unnoticed.session? alike.router session
  rw [Hub.acknowledge, Hub.acknowledge, same]
  cases h.router.session? session with
  | none => exact ⟨rfl, alike⟩
  | some s =>
      dsimp only [Option.map_some]
      rw [inner.reads]
      split
      · exact ⟨rfl, alike⟩
      · exact ⟨rfl, alike.amend unnoticed session (inner.writes _)⟩

theorem addElement (map : MapId) (temp : ElementId) (build : ElementId → α) :
    AnsweredAlike R (h.addElement session map temp build)
      (h'.addElement session map temp build) := by
  rw [Hub.addElement, Hub.addElement, unnoticed.isRegistered alike.router, alike.subscribedMap?]
  split
  · exact ⟨rfl, alike⟩
  · split
    · exact ⟨rfl, alike⟩
    · split
      · exact ⟨rfl, alike⟩
      · dsimp only
        split
        · exact ⟨rfl, alike⟩
        · simp only [notify_eq_post, notifyOthers_eq_post]
          exact ⟨rfl, (((alike.putMap map _).post unnoticed _).post unnoticed _).amend unnoticed
            session (inner.recordPlaceholder temp _)⟩

theorem deleteElement (map : MapId) (id : ElementId) :
    AnsweredAlike R (h.deleteElement α session map id) (h'.deleteElement α session map id) := by
  obtain ⟨inbound, reader, same⟩ := unnoticed.session? alike.router session
  rw [Hub.deleteElement, Hub.deleteElement, alike.subscribedMap?, same]
  split
  · exact ⟨rfl, alike⟩
  · cases h.router.session? session with
    | none => exact ⟨rfl, alike⟩
    | some s =>
        dsimp only [Option.map_some]
        rw [inner.reads]
        split
        · exact ⟨rfl, alike⟩
        · split
          · exact ⟨rfl, alike⟩
          · simp only [notifyOthers_eq_post]
            exact ⟨rfl, ((alike.putMap map _).amend unnoticed session (inner.writes _)).post
              unnoticed _⟩

end Elements

theorem logIn (login : String) :
    AnsweredAlike R (h.logIn session login) (h'.logIn session login) := by
  have inner : Session.Inner fun s => { s with login } := fun _ _ _ => rfl
  rw [Hub.logIn, Hub.logIn, unnoticed.isRegistered alike.router]
  split
  · exact ⟨rfl, alike.amend unnoticed session inner⟩
  · exact ⟨rfl, alike⟩

theorem addConnection (map : MapId) (temp sym0 sym1 : ElementId) :
    AnsweredAlike R (h.addConnection session map temp sym0 sym1)
      (h'.addConnection session map temp sym0 sym1) := by
  obtain ⟨inbound, reader, same⟩ := unnoticed.session? alike.router session
  rw [Hub.addConnection, Hub.addConnection, same]
  cases h.router.session? session with
  | none => exact ⟨rfl, alike⟩
  | some s => exact alike.addElement unnoticed session inner_connection map temp _

theorem translateSymbol (map : MapId) (id : ElementId) (dx dy : Int32) :
    AnsweredAlike R (h.translateSymbol session map id dx dy)
      (h'.translateSymbol session map id dx dy) := by
  obtain ⟨inbound, reader, same⟩ := unnoticed.session? alike.router session
  rw [Hub.translateSymbol, Hub.translateSymbol, same, alike.subscribedMap?]
  cases h.router.session? session with
  | none => exact ⟨rfl, alike⟩
  | some s =>
      dsimp only [Option.map_some, Session.withEnds]
      split
      · exact ⟨rfl, alike⟩
      · split
        · exact ⟨rfl, alike⟩
        · simp only [notifyOthers_eq_post]
          exact ⟨rfl, (alike.putMap map _).post unnoticed _⟩

theorem setFields (node : NodeId) (fields : NodeFields) :
    AnsweredAlike R (h.setFields session node fields) (h'.setFields session node fields) := by
  rw [Hub.setFields, Hub.setFields, alike.heldNode?]
  split
  · exact ⟨rfl, alike⟩
  · simp only [notifyOthers_eq_post]
    exact ⟨rfl, (alike.putNode node _).post unnoticed _⟩

theorem unlockNode (node : NodeId) :
    AnsweredAlike R (h.unlockNode session node) (h'.unlockNode session node) := by
  rw [Hub.unlockNode, Hub.unlockNode, alike.heldNode?]
  split
  · exact ⟨rfl, alike⟩
  · simp only [notifyAll_eq_post]
    exact ⟨rfl, (alike.putNode node _).post unnoticed _⟩

theorem lockNode (node : NodeId) (now : UInt32) :
    AnsweredAlike R (h.lockNode session node now) (h'.lockNode session node now) := by
  obtain ⟨inbound, reader, same⟩ := unnoticed.session? alike.router session
  rw [Hub.lockNode, Hub.lockNode, alike.subscribedNode?, same]
  split
  · exact ⟨rfl, alike⟩
  · split
    · exact ⟨rfl, alike⟩
    · cases h.router.session? session with
      | none => exact ⟨rfl, alike⟩
      | some s =>
          simp only [Option.map_some, Session.withEnds, lockFrames_eq_map]
          exact ⟨rfl, (alike.putNode node _).post unnoticed _⟩

variable [Store σ]

theorem sendMapList : Alike R (h.sendMapList session) (h'.sendMapList session) := by
  rw [Hub.sendMapList, Hub.sendMapList, alike.store]
  split
  · exact alike.withStore _
  · simp only [notify_eq_post]
    exact (alike.withStore _).post unnoticed _

theorem openMap (map : MapId) :
    AnsweredAlike R (h.openMap session map) (h'.openMap session map) := by
  have same : h'.maps.get? map = h.maps.get? map := by rw [alike.maps]
  rw [Hub.openMap, Hub.openMap, Hub.fetchMap, Hub.fetchMap, same, alike.store]
  split
  · exact ⟨rfl, alike⟩
  · cases h.maps.get? map with
    | some m =>
        simp only [notify_eq_post]
        exact ⟨rfl, (alike.putMap map _).post unnoticed _⟩
    | none =>
        dsimp only
        rcases Store.loadMap h.store map with ⟨_ | _ | diagram, store⟩
        · exact ⟨rfl, alike.withStore store⟩
        · exact ⟨rfl, alike.withStore store⟩
        · simp only [notify_eq_post]
          exact ⟨rfl, ((alike.withStore store).putMap map _).post unnoticed _⟩

theorem openNode (node : NodeId) :
    AnsweredAlike R (h.openNode session node) (h'.openNode session node) := by
  have same : h'.nodes.get? node = h.nodes.get? node := by rw [alike.nodes]
  rw [Hub.openNode, Hub.openNode, Hub.fetchNode, Hub.fetchNode, same, alike.store]
  cases h.nodes.get? node with
  | some n =>
      simp only [notify_eq_post]
      exact ⟨rfl, (alike.putNode node _).post unnoticed _⟩
  | none =>
      dsimp only
      rcases Store.loadNode h.store node with ⟨_ | _ | record, store⟩
      · exact ⟨rfl, alike.withStore store⟩
      · simp only [notify_eq_post]
        exact ⟨rfl, (alike.withStore store).post unnoticed _⟩
      · simp only [notify_eq_post]
        exact ⟨rfl, ((alike.withStore store).putNode node _).post unnoticed _⟩

theorem closeNode (node : NodeId) :
    AnsweredAlike R (h.closeNode session node) (h'.closeNode session node) := by
  rw [Hub.closeNode, Hub.closeNode, alike.subscribedNode?]
  split
  · exact ⟨rfl, alike⟩
  · exact ⟨rfl, (alike.unlockNode unnoticed session node).hub.leaveNode session node⟩

/-- A request gets the same answer in hubs that are alike, and keeps them alike. -/
theorem apply (now : UInt32) (request : Request) :
    AnsweredAlike R (h.apply session now request) (h'.apply session now request) := by
  cases request with
  | login login password => exact alike.logIn unnoticed session login
  | getMapList => exact ⟨rfl, alike.sendMapList unnoticed session⟩
  | openMap map => exact alike.openMap unnoticed session map
  | closeMap map => exact alike.closeMap session map
  | addSymbol map id x y =>
      exact (alike.addElement unnoticed session inner_symbol map id _).dropValue
  | renameSymbol map old new => exact alike.acknowledge unnoticed session inner_symbol old new
  | deleteSymbol map id =>
      exact (alike.deleteElement unnoticed session inner_symbol map id).dropValue
  | translateSymbol map id dx dy => exact alike.translateSymbol unnoticed session map id dx dy
  | addConnection map id sym0 sym1 =>
      exact (alike.addConnection unnoticed session map id sym0 sym1).dropValue
  | renameConnection map old new =>
      exact alike.acknowledge unnoticed session inner_connection old new
  | deleteConnection map id =>
      exact (alike.deleteElement unnoticed session inner_connection map id).dropValue
  | openNode node => exact alike.openNode unnoticed session node
  | closeNode node => exact alike.closeNode unnoticed session node
  | setNode node fields => exact alike.setFields unnoticed session node fields
  | lockNode node => exact alike.lockNode unnoticed session node now
  | unlockNode node => exact alike.unlockNode unnoticed session node
  | unsupported command => exact ⟨rfl, alike⟩

/-- So does a frame. -/
theorem answerFrame (now : UInt32) (frame : Bytes) :
    AnsweredAlike R (h.answerFrame session now frame) (h'.answerFrame session now frame) := by
  rw [Hub.answerFrame, Hub.answerFrame]
  split
  · exact ⟨rfl, alike⟩
  · split
    · exact ⟨rfl, alike⟩
    · split
      · exact ⟨rfl, alike⟩
      · rename_i request _
        have answered := alike.apply unnoticed session now request
        rcases applied : h.apply session now request with ⟨verdict, after⟩
        rcases applied' : h'.apply session now request with ⟨verdict', after'⟩
        rw [applied, applied'] at answered
        obtain rfl : verdict' = verdict := answered.answer
        cases verdict' <;> exact ⟨rfl, answered.hub⟩

/-- So does a row of frames. -/
theorem answerFrames (clock : Clock) (frames : List Bytes) :
    Alike R (h.answerFrames session clock frames) (h'.answerFrames session clock frames) :=
  alike.foldl (fun alike timed => (alike.answerFrame unnoticed session timed.1 timed.2).hub)
    (clock.stamp frames)

omit unnoticed in
theorem releaseMaps : Alike R (h.releaseMaps session).2 (h'.releaseMaps session).2 := by
  have same : h'.mapsOf session = h.mapsOf session := by rw [mapsOf, mapsOf, alike.maps]
  rw [Hub.releaseMaps, Hub.releaseMaps, same]
  exact alike.foldl (fun alike map => (alike.closeMap session map).hub) _

theorem releaseNodes : Alike R (h.releaseNodes session).2 (h'.releaseNodes session).2 := by
  have same : h'.nodesOf session = h.nodesOf session := by rw [nodesOf, nodesOf, alike.nodes]
  rw [Hub.releaseNodes, Hub.releaseNodes, same]
  exact alike.foldl (fun alike node => (alike.closeNode unnoticed session node).hub) _

end Requests

section Endings

variable [Store σ] (alike : Alike R h h') (lasting : Router.Lasting R)

include alike lasting

omit [Store σ] in
theorem takeFailed : Alike R h.takeFailed.2 h'.takeFailed.2 :=
  alike.withRouter (lasting.takeFailed alike.router)

theorem endSession (session : SessionId) :
    Alike R (h.endSession session) (h'.endSession session) := by
  have released := (alike.releaseMaps session).releaseNodes
    lasting.toUnnoticed session
  exact released.withRouter (lasting.unregister released.router session)

/-- Sessions that are to end do so alike, and the same ones fail meanwhile. -/
theorem endSessions (pending : List SessionId) :
    Alike R (h.endSessions pending) (h'.endSessions pending) := by
  induction h, pending using Hub.endSessions.induct generalizing h' with
  | case1 h => rwa [endSessions_nil, endSessions_nil]
  | case2 h id rest registered ended =>
      rename_i ih
      have registered' := (lasting.isRegistered alike.router id).trans registered
      have alikeThen := alike.endSession lasting id
      have failed : (h'.endSession id).takeFailed.1 = (h.endSession id).takeFailed.1 :=
        lasting.failed alikeThen.router
      rw [endSessions_of_registered registered, endSessions_of_registered registered', failed]
      exact ih (alikeThen.takeFailed lasting)
  | case3 h id rest unknown ih =>
      have unknown : h.router.isRegistered id = false := by simpa using unknown
      have unknown' := (lasting.isRegistered alike.router id).trans unknown
      rw [endSessions_of_not_registered unknown, endSessions_of_not_registered unknown']
      exact ih alike

theorem disconnect (session : SessionId) :
    Alike R (h.disconnect session) (h'.disconnect session) :=
  alike.endSessions lasting [session]

theorem reapFailed : Alike R h.reapFailed h'.reapFailed := by
  have failed : h'.takeFailed.1 = h.takeFailed.1 := lasting.failed alike.router
  rw [Hub.reapFailed, Hub.reapFailed, failed]
  exact (alike.takeFailed lasting).endSessions lasting _

end Endings

end Alike

end Hub

end TopoSync
