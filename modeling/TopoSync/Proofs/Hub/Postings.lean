import TopoSync.Proofs.Acts
import TopoSync.Proofs.Hub.Leaving

/-!
# What requests post

For every request the letters that it gives rise to are known before it is applied.  They are all
that the router gets to do: what has been sent, how often sending failed and who is marked afterwards
is what delivering these letters makes of the router as it was, and so are the readers.
-/

namespace TopoSync

namespace Router

/-- Whether two routers have sent the same with the same success and have the same readers. -/
structure Agrees (r r' : Router) : Prop where
  sent : r'.sent = r.sent
  stats : r'.stats = r.stats
  failed : r'.failed = r.failed
  readers : ∀ q, (r'.session? q).map Session.reader = (r.session? q).map Session.reader

namespace Agrees

variable {r r' r'' : Router}

theorem refl (r : Router) : r.Agrees r :=
  ⟨rfl, rfl, rfl, fun _ => rfl⟩

theorem trans (one : r.Agrees r') (two : r'.Agrees r'') : r.Agrees r'' :=
  ⟨two.sent.trans one.sent, two.stats.trans one.stats, two.failed.trans one.failed,
    fun q => (two.readers q).trans (one.readers q)⟩

theorem isRegistered (agrees : r.Agrees r') (q : SessionId) :
    r'.isRegistered q = r.isRegistered q := by
  have same := congrArg Option.isSome (agrees.readers q)
  rwa [Option.isSome_map, Option.isSome_map] at same

theorem listens (agrees : r.Agrees r') (q : SessionId) : r'.listens q = r.listens q := by
  have same := congrArg (Option.any QueueReader.isOpen) (agrees.readers q)
  rwa [Option.any_map, Option.any_map] at same

/-- A change of a session that leaves its reader alone is nothing to what is sent. -/
theorem updateSession (r : Router) (id : SessionId) {f : Session → Session}
    (keeps : ∀ s, (f s).reader = s.reader) : r.Agrees (r.updateSession id f) where
  sent := rfl
  stats := rfl
  failed := rfl
  readers q := by
    rw [session?_updateSession]
    split
    · cases r.session? q with
      | none => rfl
      | some s => exact congrArg some (keeps s)
    · rfl

theorem send (agrees : r.Agrees r') (id : SessionId) (f : Frame) :
    (r.send id f).2.Agrees (r'.send id f).2 := by
  have readers : ∀ q, ((r'.send id f).2.session? q).map Session.reader =
      ((r.send id f).2.session? q).map Session.reader := by
    intro q
    have spent : ∀ o : Option Session, (o.map fun s => s.spend 1).map Session.reader =
        (o.map Session.reader).map fun reader => reader.after 1 := by
      intro o
      cases o <;> rfl
    rw [session?_send, session?_send]
    split
    · rw [spent, spent, agrees.readers]
    · exact agrees.readers q
  cases opened : r.listens id with
  | true =>
      have opened' := (agrees.listens id).trans opened
      rw [send_of_listens opened, send_of_listens opened'] at readers ⊢
      refine ⟨?_, ?_, agrees.failed, readers⟩
      · exact congrArg (fun log => log ++ [(id, f)]) agrees.sent
      · dsimp only
        rw [agrees.stats]
  | false =>
      have closed' := (agrees.listens id).trans opened
      rw [send_of_not_listens opened, send_of_not_listens closed'] at readers ⊢
      refine ⟨agrees.sent, ?_, ?_, readers⟩
      · dsimp only [recordFailure]
        rw [agrees.stats]
      · dsimp only [recordFailure]
        rw [agrees.isRegistered, agrees.failed]

theorem deliver (agrees : r.Agrees r') (frames : List (SessionId × Frame)) :
    (r.deliver frames).2.Agrees (r'.deliver frames).2 := by
  induction frames generalizing r r' with
  | nil => exact agrees
  | cons e rest ih => exact ih (agrees.send e.1 e.2)

end Agrees

end Router

namespace Hub

variable {σ : Type}

/-- The letters of a deed, given the placeholder that its request used. -/
def deedLetters (h : Hub σ) (session : SessionId) (old : ElementId) : Option Deed → List Letter
  | none => []
  | some (.edited map edit) =>
      match h.maps.get? map with
      | none => []
      | some m => edit.letters map m.subscribers session old
  | some (.fieldsSet node fields) =>
      match h.nodes.get? node with
      | none => []
      | some n => lettersToOthers n.subscribers session (.nodeUpdated node fields)

/-- The letters of a session that takes the lock of a node. -/
def lockingLetters (h : Hub σ) (session : SessionId) (node : NodeId) (now : UInt32) : List Letter :=
  match h.subscribedNode? session node with
  | none => []
  | some n =>
      match n.holder, h.router.session? session with
      | none, some s => lockLetters node n.subscribers ⟨session, s.login, s.host, now⟩
      | _, _ => []

variable [Store σ]

/-- The letters that a request of a session gives rise to. -/
def lettersOf (h : Hub σ) (session : SessionId) (now : UInt32) : Request → List Letter
  | .getMapList =>
      match (Store.listMaps h.store).1 with
      | .error _ => []
      | .ok entries => [(session, .mapList (entries.filter fun e => e.id ≠ 0))]
  | .openMap map =>
      if map = 0 then []
      else
        match (h.fetchMap map).1 with
        | .error _ => []
        | .ok m => [(session, .mapSnapshot map m.diagram)]
  | .openNode node =>
      match (h.fetchNode node).1 with
      | .error (.nodeNotFound missing) => [(session, .nodeMissing missing)]
      | .error _ => []
      | .ok n =>
          [(session, .nodeSnapshot node (n.kindFor session) (n.holder.map Holder.view) n.record)]
  | .closeNode node =>
      if (h.subscribedNode? session node).isSome then h.unlockLetters session node else []
  | .lockNode node => h.lockingLetters session node now
  | .unlockNode node => h.unlockLetters session node
  | .addSymbol map id x y => h.deedLetters session id (h.deed? session (.addSymbol map id x y))
  | .deleteSymbol map id => h.deedLetters session id (h.deed? session (.deleteSymbol map id))
  | .translateSymbol map id dx dy =>
      h.deedLetters session id (h.deed? session (.translateSymbol map id dx dy))
  | .addConnection map id sym0 sym1 =>
      h.deedLetters session id (h.deed? session (.addConnection map id sym0 sym1))
  | .deleteConnection map id =>
      h.deedLetters session id (h.deed? session (.deleteConnection map id))
  | .setNode node fields => h.deedLetters session 0 (h.deed? session (.setNode node fields))
  | .login .. | .closeMap _ | .renameSymbol .. | .renameConnection .. | .unsupported _ => []

/-- Whether a hub afterwards has posted some letters, and its router has done nothing else. -/
def Posts (h : Hub σ) (letters : List Letter) (h' : Hub σ) : Prop :=
  (h.post letters).router.Agrees h'.router

omit [Store σ] in
theorem posts_nothing {h h' : Hub σ} (same : h'.router = h.router) : h.Posts [] h' := by
  rw [Posts, same]
  exact .refl _

omit [Store σ] in
theorem posts_of_router {h h' : Hub σ} {letters : List Letter}
    (same : h'.router = (h.post letters).router) : h.Posts letters h' := by
  rw [Posts, same]
  exact .refl _

omit [Store σ] in
/-- What is kept of a session may change on the way, the reader of its queue apart. -/
theorem Posts.amend {h h' : Hub σ} {letters : List Letter} (posts : h.Posts letters h')
    (id : SessionId) {f : Session → Session} (keeps : ∀ s, (f s).reader = s.reader) :
    h.Posts letters (h'.amend id f) :=
  posts.trans (.updateSession _ id keeps)

omit [Store σ] in
theorem posts_amend_post (h : Hub σ) (id : SessionId) {f : Session → Session}
    (keeps : ∀ s, (f s).reader = s.reader) (letters : List Letter) :
    h.Posts letters ((h.amend id f).post letters) :=
  (Router.Agrees.updateSession h.router id keeps).deliver _

section Requests

-- every proof below opens both definitions: this makes their equations once, for all of them
attribute [local simp] lettersOf deed?

variable (h : Hub σ) (session : SessionId) (now : UInt32)

omit [Store σ] in
theorem posts_logIn (login : String) : h.Posts [] (h.logIn session login).2 := by
  rw [logIn]
  split
  · exact (posts_nothing (h := h) rfl).amend session fun _ => rfl
  · exact posts_nothing rfl

omit [Store σ] in
theorem posts_acknowledge {α : Type} [MapElement α]
    (keeps : ∀ s p, (MapElement.withPlaceholders α s p).reader = s.reader) (old new : ElementId) :
    h.Posts [] (h.acknowledge α session old new).2 := by
  rcases h.acknowledge_cases α session old new with ⟨_, refused⟩ | ⟨s, ids, _, _, effect⟩
  · rw [refused]
    exact posts_nothing rfl
  · rw [effect]
    exact (posts_nothing (h := h) rfl).amend session fun s => keeps s ids

theorem posts_sendMapList : h.Posts (h.lettersOf session now .getMapList) (h.sendMapList session) := by
  rw [sendMapList, lettersOf]
  rcases Store.listMaps h.store with ⟨_ | entries, store⟩
  · exact posts_nothing rfl
  · exact posts_of_router rfl

theorem posts_openMap (map : MapId) :
    h.Posts (h.lettersOf session now (.openMap map)) (h.openMap session map).2 := by
  rw [openMap, lettersOf]
  split
  · exact posts_nothing rfl
  · rw [fetchMap]
    cases h.maps.get? map with
    | some m => exact posts_of_router rfl
    | none =>
        dsimp only
        rcases Store.loadMap h.store map with ⟨_ | _ | diagram, store⟩
        · exact posts_nothing rfl
        · exact posts_nothing rfl
        · exact posts_of_router rfl

theorem posts_openNode (node : NodeId) :
    h.Posts (h.lettersOf session now (.openNode node)) (h.openNode session node).2 := by
  rw [openNode, lettersOf, fetchNode]
  cases h.nodes.get? node with
  | some n => exact posts_of_router rfl
  | none =>
      dsimp only
      rcases Store.loadNode h.store node with ⟨_ | _ | record, store⟩
      · exact posts_nothing rfl
      · exact posts_of_router rfl
      · exact posts_of_router rfl

theorem posts_closeNode (node : NodeId) :
    h.Posts (h.lettersOf session now (.closeNode node)) (h.closeNode session node).2 := by
  rw [lettersOf]
  by_cases views : h.ViewsNode session node
  · obtain ⟨n, found, member⟩ := views
    rw [subscribedNode?_eq_some_iff.mpr ⟨found, member⟩]
    exact posts_of_router (router_closeNode ⟨n, found, member⟩)
  · have none : h.subscribedNode? session node = none := by
      refine Option.filter_eq_none_iff.mpr fun n found member => views ⟨n, found, ?_⟩
      exact of_decide_eq_true member
    rw [none, closeNode_of_not_views views]
    exact posts_nothing rfl

theorem posts_lockNode (node : NodeId) :
    h.Posts (h.lettersOf session now (.lockNode node)) (h.lockNode session node now).2 := by
  rw [lettersOf, lockingLetters, lockNode]
  cases h.subscribedNode? session node with
  | none => exact posts_nothing rfl
  | some n =>
      dsimp only
      cases holder : n.holder with
      | some k =>
          cases h.router.session? session with
          | none => exact posts_nothing rfl
          | some s => exact posts_nothing rfl
      | none =>
          cases h.router.session? session with
          | none => exact posts_nothing rfl
          | some s =>
              refine posts_of_router ?_
              dsimp only
              rw [lockFrames_eq_map]
              rfl

theorem posts_setFields (node : NodeId) (fields : NodeFields) :
    h.Posts (h.lettersOf session now (.setNode node fields)) (h.setFields session node fields).2 := by
  rw [lettersOf, deed?, setFields]
  cases held : h.heldNode? session node with
  | none => exact posts_nothing rfl
  | some n =>
      obtain ⟨found, _⟩ := heldNode?_eq_some_iff.mp held
      refine posts_of_router ?_
      dsimp only [Except.toOption, Option.map_some, deedLetters]
      rw [notifyOthers_eq_post, found]
      rfl

omit [Store σ] in
theorem EditMade.posts {h h' : Hub σ} {origin : SessionId} {map : MapId} {m : OpenMap}
    {old : ElementId} {edit : Edit} (made : h.EditMade origin map m old edit h') :
    h.Posts (edit.letters map m.subscribers origin old) h' := by
  cases made with
  | alone => exact posts_of_router rfl
  | forgetting f keeps => exact h.posts_amend_post origin keeps _
  | recording f keeps => exact (posts_of_router (h := h) rfl).amend origin keeps

omit [Store σ] in
/-- A request to edit a map posts the letters of the deed that it amounts to. -/
theorem Edits.posts {α : Type} {h : Hub σ} {origin : SessionId} {map : MapId} {old : ElementId}
    {edit : α → Edit} {outcome : Outcome σ α} (edits : h.Edits origin map old edit outcome) :
    h.Posts
      (h.deedLetters origin old (outcome.1.toOption.map fun value => .edited map (edit value)))
      outcome.2 := by
  cases edits with
  | refused reason => exact posts_nothing rfl
  | made value m found member fits made =>
      dsimp only [Except.toOption, Option.map_some, deedLetters]
      rw [found]
      exact made.posts

/-- A request posts its letters. -/
theorem posts_apply (request : Request) :
    h.Posts (h.lettersOf session now request) (h.apply session now request).2 := by
  cases request with
  | login login password => exact h.posts_logIn session login
  | getMapList => exact h.posts_sendMapList session now
  | openMap map => exact h.posts_openMap session now map
  | closeMap map => exact posts_nothing (h.router_closeMap session map)
  | addSymbol map id x y => exact (h.edits_addSymbol session map id x y).posts
  | renameSymbol map old new => exact h.posts_acknowledge session (fun _ _ => rfl) old new
  | deleteSymbol map id => exact (h.edits_deleteSymbol session map id id).posts
  | translateSymbol map id dx dy => exact (h.edits_translateSymbol session map id id dx dy).posts
  | addConnection map id sym0 sym1 => exact (h.edits_addConnection session map id sym0 sym1).posts
  | renameConnection map old new => exact h.posts_acknowledge session (fun _ _ => rfl) old new
  | deleteConnection map id => exact (h.edits_deleteConnection session map id id).posts
  | openNode node => exact h.posts_openNode session now node
  | closeNode node => exact h.posts_closeNode session now node
  | setNode node fields => exact h.posts_setFields session now node fields
  | lockNode node => exact h.posts_lockNode session now node
  | unlockNode node => exact posts_of_router (h.router_unlockNode session node)
  | unsupported command => exact posts_nothing rfl

end Requests

end Hub

end TopoSync
