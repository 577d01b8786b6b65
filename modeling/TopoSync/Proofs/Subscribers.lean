import Mathlib
import TopoSync.Proofs.Hub.Audience
import TopoSync.Proofs.Hub.Occasions
import TopoSync.Proofs.Sights
import TopoSync.Store.Memory

/-!
# Notifications reach subscribers only

Whatever a run queues is posted at some moment, and at that moment its recipient subscribes to the map
or node that it is about.  Only the answers to who asks for the list of maps, or for a node that does
not exist, are about neither.  A session begins to subscribe by its own request alone; so from the
moment it has closed a map or a node it hears nothing of it until it has opened it again.
-/

namespace TopoSync

namespace Act

/-- Whether an act answers a given request of a session. -/
def Asks (session : SessionId) (request : Request) : Act → Prop
  | answer id _ frame => id = session ∧ Request.ofFrame? frame = some request
  | connect .. | retire .. | buffer .. | finish _ | clearMarks | flush => False

/-- Whether a session gets in an act what it asks for. -/
def Obtains {σ : Type} [Store σ] (session : SessionId) (request : Request) (h : Hub σ) : Act → Prop
  | answer id now frame =>
      id = session ∧ Request.ofFrame? frame = some request ∧ (h.answerFrame id now frame).1 = .ok ()
  | connect .. | retire .. | buffer .. | finish _ | clearMarks | flush => False

end Act

namespace Hub

variable {σ : Type}

section Viewers

variable {h h' : Hub σ} {session : SessionId} {map : MapId}

/-- The subscribers of an open map. -/
def viewers? (h : Hub σ) (map : MapId) : Option Roster :=
  (h.maps.get? map).map OpenMap.subscribers

theorem viewsMap_iff : h.ViewsMap session map ↔ ∃ r, h.viewers? map = some r ∧ session ∈ r := by
  simp [ViewsMap, viewers?]

theorem viewsMap_congr (same : h'.viewers? map = h.viewers? map) :
    h'.ViewsMap session map ↔ h.ViewsMap session map := by
  rw [viewsMap_iff, viewsMap_iff, same]

/-- Other contents of an open map are nothing to the subscribers. -/
theorem viewers?_of_insert {m : OpenMap} {diagram : Diagram} (found : h.maps.get? map = some m)
    (maps : h'.maps = h.maps.insert map { m with diagram }) (q : MapId) :
    h'.viewers? q = h.viewers? q := by
  rw [viewers?, viewers?, maps, Table.get?_insert]
  split
  · rename_i here
    rw [here, found]
    rfl
  · rfl

end Viewers

section Requests

variable [Store σ] {h : Hub σ} {session : SessionId} {map : MapId} {request : Request}

/-- A request for an edit leaves the subscribers of every map alone. -/
theorem viewers?_apply (wants : request.editedMap? = some map) (h : Hub σ) (session : SessionId)
    (now : UInt32) (q : MapId) :
    (h.apply session now request).2.viewers? q = h.viewers? q := by
  rcases edit_cases wants h now with ⟨_, _, refused⟩ | ⟨e, m, _, _, found, _, _, maps⟩
  · rw [refused]
  · exact viewers?_of_insert found maps q

end Requests

section Subscribing

variable [Store σ] {h : Hub σ} {session id : SessionId} {now : UInt32} {request : Request}

omit [Store σ] in
theorem mem_of_mem_without? {m m' : OpenMap} (left : m.without? id = some m')
    (member : session ∈ m'.subscribers) : session ∈ m.subscribers := by
  rw [OpenMap.without?] at left
  split at left
  · cases left
  · cases left
    exact (Roster.mem_erase.mp member).1

omit [Store σ] in
theorem mem_of_mem_leaving {n n' : OpenNode} (left : n.without? id = some n')
    (member : session ∈ n'.subscribers) : session ∈ n.subscribers := by
  rw [OpenNode.without?] at left
  split at left
  · cases left
  · cases left
    exact (Roster.mem_erase.mp member).1

/-- Nobody begins to subscribe to a map because somebody closes it. -/
theorem viewsMap_of_left {map q : MapId} (views : (h.closeMap id q).2.ViewsMap session map) :
    h.ViewsMap session map := by
  by_cases open_ : h.ViewsMap id q
  · obtain ⟨m, found, member⟩ := views
    rw [h.get?_maps_closeMap id q map open_] at found
    split at found
    · obtain ⟨m', before, left⟩ := Option.bind_eq_some_iff.mp found
      exact ⟨m', before, mem_of_mem_without? left member⟩
    · exact ⟨m, found, member⟩
  · rwa [closeMap_of_not_views open_] at views

theorem viewsNode_of_left {node q : NodeId} (views : (h.closeNode id q).2.ViewsNode session node) :
    h.ViewsNode session node := by
  by_cases open_ : h.ViewsNode id q
  · obtain ⟨n, found, member⟩ := views
    rw [h.get?_nodes_closeNode id q node open_] at found
    split at found
    · obtain ⟨n', before, left⟩ := Option.bind_eq_some_iff.mp found
      exact ⟨n', before, mem_of_mem_leaving left member⟩
    · exact ⟨n, found, member⟩
  · rwa [closeNode_of_not_views open_] at views

omit [Store σ] in
/-- A session that is among the subscribers after an insertion was so before, or has come in. -/
theorem eq_or_viewsMap_of_joined {map : MapId} {diagram : Diagram} {r : Roster}
    {letters : List Letter}
    (views : ((h.putMap map ⟨diagram, r.insert id⟩).post letters).ViewsMap session map) :
    session = id ∨ session ∈ r := by
  obtain ⟨m, found, member⟩ := views
  rw [maps_post, maps_putMap, Table.get?_insert_self] at found
  cases found
  exact Roster.mem_insert.mp member

omit [Store σ] in
theorem eq_or_viewsNode_of_joined {node : NodeId} {record : NodeRecord} {holder : Option Holder}
    {r : Roster} {letters : List Letter}
    (views : ((h.putNode node ⟨record, holder, r.insert id⟩).post letters).ViewsNode session node) :
    session = id ∨ session ∈ r := by
  obtain ⟨n, found, member⟩ := views
  rw [nodes_post, nodes_putNode, Table.get?_insert_self] at found
  cases found
  exact Roster.mem_insert.mp member

omit [Store σ] in
/-- Another record or lock of an open node is nothing to the subscribers. -/
theorem viewsNode_of_put {h' : Hub σ} {node q : NodeId} {n : OpenNode} {record : NodeRecord}
    {holder : Option Holder} (found : h.nodes.get? node = some n)
    (nodes : h'.nodes = h.nodes.insert node { n with record, holder })
    (views : h'.ViewsNode session q) : h.ViewsNode session q := by
  obtain ⟨k, there, member⟩ := views
  rw [nodes, Table.get?_insert] at there
  split at there
  · rename_i here
    cases there
    exact ⟨n, here ▸ found, member⟩
  · exact ⟨k, there, member⟩

/-- A session that subscribes to a map after a request did so before, or the request is its own and
opens the map. -/
theorem viewsMap_apply {map : MapId} (views : (h.apply id now request).2.ViewsMap session map) :
    h.ViewsMap session map ∨
      id = session ∧ request = .openMap map ∧ (h.apply id now request).1 = .ok () := by
  by_cases wants : ∃ q, request.editedMap? = some q
  · obtain ⟨q, wants⟩ := wants
    exact .inl ((viewsMap_congr (viewers?_apply wants h id now map)).mp views)
  by_cases here : request.map? = some map
  · cases request with
    | openMap q =>
        obtain rfl := Option.some.inj here
        rcases h.openMap_cases id q with ⟨_, refused⟩ | ⟨_, _, _, refused⟩ |
          ⟨m, _, found, joined⟩ | ⟨diagram, store, _, _, _, loaded⟩
        · rw [apply, refused] at views
          exact .inl views
        · rw [apply, refused] at views
          exact .inl views
        · rw [apply, joined] at views ⊢
          rcases eq_or_viewsMap_of_joined views with rfl | before
          · exact .inr ⟨rfl, rfl, rfl⟩
          · exact .inl ⟨m, found, before⟩
        · rw [apply, loaded] at views ⊢
          rcases eq_or_viewsMap_of_joined views with rfl | before
          · exact .inr ⟨rfl, rfl, rfl⟩
          · exact absurd before (Roster.not_mem_empty session)
    | closeMap q => exact .inl (viewsMap_of_left views)
    | addSymbol | addConnection | deleteSymbol | deleteConnection | translateSymbol =>
        exact absurd ⟨_, rfl⟩ wants
    | _ => cases here
  · obtain ⟨m, found, member⟩ := views
    rw [(h.sameBut_apply id now request).maps map here] at found
    exact .inl ⟨m, found, member⟩

/-- A session that subscribes to a node after a request did so before, or the request is its own and
opens the node. -/
theorem viewsNode_apply {node : NodeId} (views : (h.apply id now request).2.ViewsNode session node) :
    h.ViewsNode session node ∨
      id = session ∧ request = .openNode node ∧ (h.apply id now request).1 = .ok () := by
  by_cases here : request.node? = some node
  · cases request with
    | openNode q =>
        obtain rfl := Option.some.inj here
        rcases h.openNode_cases id q with ⟨_, _, _, refused⟩ | ⟨store, _, _, missed⟩ |
          ⟨n, found, joined⟩ | ⟨record, store, _, _, loaded⟩
        · rw [apply, refused] at views
          exact .inl views
        · rw [apply, missed] at views
          exact .inl views
        · rw [apply, joined] at views ⊢
          rcases eq_or_viewsNode_of_joined views with rfl | before
          · exact .inr ⟨rfl, rfl, rfl⟩
          · exact .inl ⟨n, found, before⟩
        · rw [apply, loaded] at views ⊢
          rcases eq_or_viewsNode_of_joined views with rfl | before
          · exact .inr ⟨rfl, rfl, rfl⟩
          · exact absurd before (Roster.not_mem_empty session)
    | closeNode q => exact .inl (viewsNode_of_left views)
    | setNode q fields =>
        rw [apply, setFields] at views
        split at views
        · exact .inl views
        · rename_i n held
          exact .inl (viewsNode_of_put (heldNode?_eq_some_iff.mp held).1 rfl views)
    | lockNode q =>
        rw [apply, lockNode] at views
        split at views
        · exact .inl views
        · rename_i n subscribed
          split at views
          · exact .inl views
          · split at views
            · exact .inl views
            · simp only [lockFrames_eq_map] at views
              exact .inl (viewsNode_of_put (subscribedNode?_eq_some_iff.mp subscribed).1 rfl views)
    | unlockNode q =>
        rw [apply, unlockNode] at views
        split at views
        · exact .inl views
        · rename_i n held
          exact .inl (viewsNode_of_put (heldNode?_eq_some_iff.mp held).1 rfl views)
    | _ => cases here
  · obtain ⟨n, found, member⟩ := views
    rw [(h.sameBut_apply id now request).nodes node here] at found
    exact .inl ⟨n, found, member⟩

end Subscribing

variable [Store σ]

/-- Whether an act may tell a session about a subject, by what is open before and after it. -/
def MayHear (h : Hub σ) (a : Act) (session : SessionId) : Subject → Prop
  | .listing => a.Asks session .getMapList
  | .map map =>
      map ≠ 0 ∧ (h.perform a).ViewsMap session map ∧
        (h.ViewsMap session map ∨ a.Asks session (.openMap map))
  | .node node =>
      h.ViewsNode session node ∨
        a.Asks session (.openNode node) ∧ (h.perform a).ViewsNode session node
  | .missing node => a.Asks session (.openNode node)

section Acts

variable {h : Hub σ} {session : SessionId}

theorem perform_of_asks {id : SessionId} {now : UInt32} {frame : Bytes} {request : Request}
    (asked : Request.ofFrame? frame = some request) :
    h.perform (.answer id now frame) = (h.apply id now request).2 := by
  rw [perform, answerFrame_eq, asked]

/-- What is told of an edit is told to who subscribes to the map, before the edit and after it. -/
theorem mayHear_of_deed? (ok : h.Orderly) {id s : SessionId} {now : UInt32} {frame : Bytes}
    {request : Request} {map : MapId} {e : Edit} {m : OpenMap}
    (asked : Request.ofFrame? frame = some request)
    (done : h.deed? id request = some (.edited map e)) (found : h.maps.get? map = some m)
    (member : s ∈ m.subscribers) : h.MayHear (.answer id now frame) s (.map map) := by
  have views : h.ViewsMap s map := ⟨m, found, member⟩
  refine ⟨?_, ?_, .inl views⟩
  · rintro rfl
    cases ok.reserved_closed.symm.trans found
  · rw [perform_of_asks asked]
    exact (viewsMap_congr (viewers?_apply (editedMap?_of_deed? done) h id now map)).mpr views

/-- Whatever an act posts is for sessions that may hear of it. -/
theorem mayHear_of_occasion (ok : h.Orderly) {a : Act} {l : Letter} (occasion : h.Occasion a l) :
    l.2.Coherent ∧ h.MayHear a l.1 l.2.subject := by
  cases occasion with
  | mapsListed asked => exact ⟨trivial, rfl, asked⟩
  | @mapOpened id now frame map m asked real fetched =>
      refine ⟨trivial, real, ?_, .inr ⟨rfl, asked⟩⟩
      rcases fetch : h.fetchMap map with ⟨answer, h₁⟩
      rw [fetch] at fetched
      obtain rfl : answer = .ok m := fetched
      rw [perform_of_asks asked, apply, openMap, if_neg real, fetch]
      exact ⟨_, Table.get?_insert_self _ _ _, Roster.mem_insert.mpr (.inl rfl)⟩
  | @edited _ _ _ _ _ map e m asked done found member =>
      refine ⟨Edit.coherent_notice map e, ?_⟩
      rw [Edit.subject_notice]
      exact mayHear_of_deed? ok asked done found member
  | received asked done found member receipt =>
      refine ⟨Edit.coherent_receipt receipt, ?_⟩
      rw [Edit.subject_receipt receipt]
      exact mayHear_of_deed? ok asked done found member
  | nodeMissed asked => exact ⟨trivial, rfl, asked⟩
  | @nodeOpened id now frame node n asked fetched =>
      refine ⟨⟨kindFor_ne_notFound n id, ?_⟩, .inr ⟨⟨rfl, asked⟩, ?_⟩⟩
      · rw [isLocked_kindFor, Option.isSome_map]
      · rcases fetch : h.fetchNode node with ⟨answer, h₁⟩
        rw [fetch] at fetched
        obtain rfl : answer = .ok n := fetched
        rw [perform_of_asks asked, apply, openNode, fetch]
        exact ⟨_, Table.get?_insert_self _ _ _, Roster.mem_insert.mpr (.inl rfl)⟩
  | nodeLocked views | nodeUnlocked views | nodeUpdated views => exact ⟨trivial, .inl views⟩

/-- What an act adds to the frames sent are frames of the letters that it posts. -/
theorem sent_perform (h : Hub σ) (a : Act) :
    ∃ queued, (h.perform a).router.sent = h.router.sent ++ queued ∧
      queued.Sublist ((h.offered a).map Letter.toFrame) := by
  cases a with
  | answer id now frame =>
      rw [(h.posts_answer id now frame).sent]
      exact h.router.sent_deliver_sublist _
  | finish id =>
      have same : (h.perform (.finish id)).router.sent = (h.endSession id).router.sent := rfl
      rw [same, router_endSession]
      exact h.router.sent_deliver_sublist _
  | flush =>
      have same : (h.perform .flush).router = h.router := h.router_flush
      rw [same]
      exact ⟨[], (List.append_nil _).symm, .slnil⟩
  | _ => exact ⟨[], (List.append_nil _).symm, .slnil⟩

/-- A request that is accepted is what its session obtains in the act. -/
theorem obtains_of_apply {id : SessionId} {now : UInt32} {frame : Bytes} {request : Request}
    (asked : Request.ofFrame? frame = some request)
    (accepted : (h.apply id now request).1 = .ok ()) :
    Act.Obtains id request h (.answer id now frame) := by
  obtain ⟨command, answer⟩ := answerFrame_of_ofFrame? (σ := σ) asked
  refine ⟨rfl, asked, ?_⟩
  rw [answer, accepted]
  rfl

/-- A session that subscribes to a map after an act did so before, or has opened it. -/
theorem viewsMap_perform (ok : h.Orderly) {a : Act} {map : MapId}
    (views : (h.perform a).ViewsMap session map) :
    h.ViewsMap session map ∨ a.Obtains session (.openMap map) h := by
  cases a with
  | answer id now frame =>
      cases asked : Request.ofFrame? frame with
      | none =>
          rw [perform, answerFrame_eq, asked] at views
          exact .inl views
      | some request =>
          rw [perform_of_asks asked] at views
          rcases viewsMap_apply views with before | ⟨rfl, rfl, accepted⟩
          · exact .inl before
          · exact .inr (obtains_of_apply asked accepted)
  | finish id =>
      obtain ⟨m, found, member⟩ := views
      have ended : (h.perform (.finish id)).maps.get? map = (h.endSession id).maps.get? map := rfl
      rw [ended, get?_maps_endSession id ok] at found
      obtain ⟨m', before, left⟩ := Option.bind_eq_some_iff.mp found
      exact .inl ⟨m', before, mem_of_mem_without? left member⟩
  | flush =>
      obtain ⟨m, found, _⟩ := views
      rw [perform, maps_flush] at found
      cases found
  | _ => exact .inl views

/-- A session that subscribes to a node after an act did so before, or has opened it. -/
theorem viewsNode_perform (ok : h.Orderly) {a : Act} {node : NodeId}
    (views : (h.perform a).ViewsNode session node) :
    h.ViewsNode session node ∨ a.Obtains session (.openNode node) h := by
  cases a with
  | answer id now frame =>
      cases asked : Request.ofFrame? frame with
      | none =>
          rw [perform, answerFrame_eq, asked] at views
          exact .inl views
      | some request =>
          rw [perform_of_asks asked] at views
          rcases viewsNode_apply views with before | ⟨rfl, rfl, accepted⟩
          · exact .inl before
          · exact .inr (obtains_of_apply asked accepted)
  | finish id =>
      obtain ⟨n, found, member⟩ := views
      have ended : (h.perform (.finish id)).nodes.get? node = (h.endSession id).nodes.get? node :=
        rfl
      rw [ended, get?_nodes_endSession id ok] at found
      obtain ⟨n', before, left⟩ := Option.bind_eq_some_iff.mp found
      exact .inl ⟨n', before, mem_of_mem_leaving left member⟩
  | flush =>
      obtain ⟨n, found, _⟩ := views
      rw [perform, nodes_flush] at found
      cases found
  | _ => exact .inl views

/-- Every frame that an act adds to those sent is about something that its recipient may hear of. -/
theorem heard_perform (ok : h.Orderly) (a : Act) :
    ∃ queued, (h.perform a).router.sent = h.router.sent ++ queued ∧
      ∀ e ∈ queued, ∃ subject, e.2.subject? = some subject ∧ h.MayHear a e.1 subject := by
  obtain ⟨queued, sent, sublist⟩ := h.sent_perform a
  refine ⟨queued, sent, fun e member => ?_⟩
  obtain ⟨l, listed, rfl⟩ := List.mem_map.mp (sublist.subset member)
  obtain ⟨coherent, hears⟩ := mayHear_of_occasion ok (occasion_of_offered listed)
  exact ⟨l.2.subject, Notification.subject?_toFrame coherent, hears⟩

/-- Every act of the hub itself goes by way of postings to sessions that may be told. -/
theorem passage_perform {a : Act} (enabled : a.Enabled h) (inner : a.isOuter = false) :
    ∃ postings, Passage h postings (h.perform a) := by
  obtain ⟨_, _, trail⟩ := trail_act enabled inner
  obtain ⟨postings, passage, _⟩ := trail.passage
  exact ⟨postings, passage⟩

/-- The hub right after an act of a row, and the acts that come then. -/
theorem closing_of_enabled {start : Hub σ} (started : start.Orderly) {done since rest : List Act}
    {a : Act} (enabled : Along Act.Enabled start (done ++ a :: (since ++ rest))) :
    (start.performAll (done ++ [a])).Orderly ∧
      Along Act.Enabled (start.performAll (done ++ [a])) since ∧
      start.performAll (done ++ [a]) = (start.performAll done).perform a := by
  have same : start.performAll (done ++ [a]) = (start.performAll done).perform a :=
    start.performAll_append done [a]
  obtain ⟨before, here, later⟩ := along_append.mp enabled
  have ok : (start.performAll done).Orderly :=
    performAll_keeps (fun h a => orderly_perform) before started
  rw [same]
  exact ⟨orderly_perform here ok, (along_append.mp later).1, rfl⟩

/-- A session hears nothing of a subject as long as it does not subscribe to it, and it begins to
subscribe only by what it obtains. -/
theorem silent_performAll {V : Hub σ → Prop} {request : Request} {subject : Subject}
    (gains : ∀ {h : Hub σ} {a : Act}, h.Orderly → V (h.perform a) →
      V h ∨ a.Obtains session request h)
    (hears : ∀ {h : Hub σ} {a : Act}, h.MayHear a session subject → V h ∨ V (h.perform a))
    {h : Hub σ} (ok : h.Orderly) {acts : List Act} (enabled : Along Act.Enabled h acts)
    (away : ¬ V h) (closed : Along (fun h a => ¬ a.Obtains session request h) h acts) :
    ∃ heard, (h.performAll acts).router.queueOf session = h.router.queueOf session ++ heard ∧
      ∀ f ∈ heard, f.subject? ≠ some subject := by
  induction acts generalizing h with
  | nil => exact ⟨[], (List.append_nil _).symm, fun _ member => nomatch member⟩
  | cons a rest ih =>
      have still : ¬ V (h.perform a) := fun gained => (gains ok gained).elim away closed.1
      obtain ⟨queued, sent, reaches⟩ := heard_perform ok a
      obtain ⟨later, queue, silent⟩ := ih (orderly_perform enabled.1 ok) enabled.2 still closed.2
      refine ⟨addressed session queued ++ later, ?_, ?_⟩
      · rw [performAll_cons, queue, Router.queueOf_eq_addressed, Router.queueOf_eq_addressed, sent,
          addressed_append, List.append_assoc]
      · intro f member
        rcases List.mem_append.mp member with now | after
        · intro about
          obtain ⟨e, own, rfl⟩ := List.mem_map.mp now
          obtain ⟨listed, same⟩ := List.mem_filter.mp own
          obtain ⟨subject', told, hearing⟩ := reaches e listed
          obtain rfl : subject' = subject := Option.some.inj (told.symm.trans about)
          rw [of_decide_eq_true same] at hearing
          exact (hears hearing).elim away still
        · exact silent f after

end Acts

end Hub

/-- In every run, every act goes by way of postings, each beside the hub as it is at that moment, and
the frames that the act queues are frames of these, in the same order.  At its moment each goes to a
subscriber of the map or node that it is about; no map is the reserved one, and no list contains it.
As far as the frames can tell: the list of maps and the news that a node does not exist go to who asks
for them; who is told of a map subscribes to it after the act, and did before unless it asks to open
it; who is told of a node subscribed to it before the act, or does afterwards and asks to open it.  And
from the moment when a session's request to close a map or node has been answered, nothing about it is
queued to the session until it has opened it again. -/
theorem notices_reach_subscribers {σ : Type} [Store σ] (store : σ) (maxFrameSize : Nat)
    (moves : List Move) :
    let start := (Engine.start store maxFrameSize).hub
    (∀ done a rest, (Engine.start store maxFrameSize).acts moves = done ++ a :: rest →
      let h := start.performAll done
      ∃ postings queued,
        (if a.isOuter = true then postings = [] else Hub.Passage h postings (h.perform a)) ∧
        (h.perform a).router.sent = h.router.sent ++ queued ∧
        queued.Sublist (postings.map fun p => p.2.toFrame) ∧
        (∀ p ∈ postings, p.1.MayTell p.2.1 p.2.2) ∧
        ∀ e ∈ queued, ∃ subject, e.2.subject? = some subject ∧ h.MayHear a e.1 subject) ∧
    (∀ done session now frame since rest map,
      (Engine.start store maxFrameSize).acts moves =
        done ++ .answer session now frame :: (since ++ rest) →
      Request.ofFrame? frame = some (.closeMap map) →
      let closed := start.performAll (done ++ [.answer session now frame])
      Hub.Along (fun h a => ¬ a.Obtains session (.openMap map) h) closed since →
      ∃ heard, (closed.performAll since).router.queueOf session =
          closed.router.queueOf session ++ heard ∧
        ∀ f ∈ heard, f.subject? ≠ some (.map map)) ∧
    ∀ done session now frame since rest node,
      (Engine.start store maxFrameSize).acts moves =
        done ++ .answer session now frame :: (since ++ rest) →
      Request.ofFrame? frame = some (.closeNode node) →
      let closed := start.performAll (done ++ [.answer session now frame])
      Hub.Along (fun h a => ¬ a.Obtains session (.openNode node) h) closed since →
      ∃ heard, (closed.performAll since).router.queueOf session =
          closed.router.queueOf session ++ heard ∧
        ∀ f ∈ heard, f.subject? ≠ some (.node node) := by
  intro start
  have started : start.Orderly := Hub.Orderly.start store
  have enabled := (Engine.start store maxFrameSize).enabled_acts moves
  refine ⟨?_, ?_, ?_⟩
  · intro done a rest performed h
    rw [performed] at enabled
    obtain ⟨before, here, _⟩ := Hub.along_append.mp enabled
    have ok : h.Orderly := Hub.performAll_keeps (fun h a => Hub.orderly_perform) before started
    obtain ⟨queued, sent, hears⟩ := Hub.heard_perform ok a
    cases inner : a.isOuter with
    | true =>
        refine ⟨[], queued, by simp, sent, ?_, by simp, hears⟩
        have silent : h.router.sent = h.router.sent ++ queued := (h.unheard_of_outer inner).1 ▸ sent
        rw [List.self_eq_append_right.mp silent]
        exact .slnil
    | false =>
        obtain ⟨postings, passage⟩ := Hub.passage_perform here inner
        obtain ⟨queued', sent', sublist⟩ := passage.sent_sublist
        obtain rfl : queued' = queued := List.append_cancel_left (sent'.symm.trans sent)
        exact ⟨postings, queued', by simpa using passage, sent, sublist, passage.mayTell ok, hears⟩
  · intro done session now frame since rest map performed closing closed kept
    rw [performed] at enabled
    obtain ⟨ok, later, same⟩ := Hub.closing_of_enabled started enabled
    have away : ¬ closed.ViewsMap session map := by
      show ¬ (start.performAll (done ++ [.answer session now frame])).ViewsMap session map
      rw [same, Hub.perform_of_asks closing]
      exact fun views => (Hub.viewsMap_of_closeMap views).1 rfl
    refine Hub.silent_performAll (V := fun h => h.ViewsMap session map) ?_ ?_ ok later away kept
    · exact fun ok views => Hub.viewsMap_perform ok views
    · exact fun hears => .inr hears.2.1
  · intro done session now frame since rest node performed closing closed kept
    rw [performed] at enabled
    obtain ⟨ok, later, same⟩ := Hub.closing_of_enabled started enabled
    have away : ¬ closed.ViewsNode session node := by
      show ¬ (start.performAll (done ++ [.answer session now frame])).ViewsNode session node
      rw [same, Hub.perform_of_asks closing]
      exact fun views => (Hub.viewsNode_of_closeNode views).1 rfl
    refine Hub.silent_performAll (V := fun h => h.ViewsNode session node) ?_ ?_ ok later away kept
    · exact fun ok views => Hub.viewsNode_perform ok views
    · exact fun hears => Or.imp_right And.right hears

/-- Two sessions open a map; the first closes it, and the second adds a symbol. -/
def closedAndGoneOn : List Move :=
  [.event (.connected ⟨1⟩ "a" .staying),
    .event (.connected ⟨2⟩ "b" .staying),
    .event (.data ⟨1⟩ (Frame.build .openMap [.signed 7]).bytes 0),
    .event (.data ⟨2⟩ (Frame.build .openMap [.signed 7]).bytes 0),
    .event (.data ⟨1⟩ (Frame.build .closeMap [.signed 7]).bytes 0),
    .event (.data ⟨2⟩ (Frame.build .addSymbol [.signed 7, .signed (-1), .signed 0, .signed 0]).bytes
      0)]

theorem notices_reach_subscribers_closedAndGoneOn :
    let store := MemoryStore.insertMap {} 7 "plan" {}
    let h := ((Engine.start store 1000).after closedAndGoneOn).hub
    h.ViewsMap ⟨2⟩ 7 ∧ (h.router.queueOf ⟨2⟩).length = 2 ∧
      ∃ heard, h.router.queueOf ⟨1⟩ = (Notification.mapSnapshot 7 {}).toFrame :: heard ∧
        ∀ f ∈ heard, f.subject? ≠ some (.map 7) := by
  intro store h
  let opening := (Frame.build .openMap [.signed 7]).bytes
  let closing := (Frame.build .closeMap [.signed 7]).bytes
  let adding :=
    (Frame.build .addSymbol [.signed 7, .signed (-1), .signed 0, .signed 0]).bytes
  let done : List Act :=
    [.connect ⟨1⟩ "a" .staying, .connect ⟨2⟩ "b" .staying,
      .buffer ⟨1⟩ [], .answer ⟨1⟩ 0 opening, .clearMarks,
      .buffer ⟨2⟩ [], .answer ⟨2⟩ 0 opening, .clearMarks, .buffer ⟨1⟩ []]
  let since : List Act := [.clearMarks, .buffer ⟨2⟩ [], .answer ⟨2⟩ 0 adding, .clearMarks]
  obtain ⟨_, silence, _⟩ := notices_reach_subscribers store 1000 closedAndGoneOn
  have run : (Engine.start store 1000).acts closedAndGoneOn =
      done ++ .answer ⟨1⟩ 0 closing :: (since ++ []) := by
    decide_cbv
  obtain ⟨heard, queue, quiet⟩ := silence done ⟨1⟩ 0 closing since [] 7 run (by decide_cbv)
    ⟨not_false, not_false, fun obtains => absurd obtains.1 (by decide), not_false, trivial⟩
  have after : h = ((Engine.start store 1000).hub.performAll
      (done ++ [.answer ⟨1⟩ 0 closing])).performAll since := by
    rw [← Hub.performAll_append, List.append_assoc]
    show ((Engine.start store 1000).after closedAndGoneOn).hub = _
    rw [Engine.hub_after, run, List.append_nil]
    rfl
  have first : ((Engine.start store 1000).hub.performAll
      (done ++ [.answer ⟨1⟩ 0 closing])).router.queueOf ⟨1⟩ =
      [(Notification.mapSnapshot 7 {}).toFrame] := by decide_cbv
  rw [first, ← after] at queue
  have views : ((((Engine.start store 1000).after closedAndGoneOn).hub.viewers? 7).any
      fun r => decide (⟨2⟩ ∈ r)) = true := by decide_cbv
  obtain ⟨r, viewed, member⟩ := (Option.any_eq_true _ _).mp views
  have count : (((Engine.start store 1000).after closedAndGoneOn).hub.router.queueOf ⟨2⟩).length =
      2 := by decide_cbv
  exact ⟨Hub.viewsMap_iff.mpr ⟨r, viewed, of_decide_eq_true member⟩, count, heard, queue, quiet⟩

end TopoSync
