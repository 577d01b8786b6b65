import TopoSync.Proofs.Hub.Contents
import TopoSync.Proofs.Hub.Moving
import TopoSync.Proofs.Hub.Reach
import TopoSync.Proofs.Hub.Rounds
import TopoSync.Proofs.Placeholding

/-!
# Requests in either order

Two requests of different sessions that are not about the same map or node can be applied in either
order.  Neither looks at what the other one changes, so both get the same answer and post the same
letters, and together they leave the same behind.  Only the order of the letters differs.  Two requests
to move symbols of one map can be exchanged as well, because offsets add up.
-/

namespace TopoSync

namespace Router

variable {r : Router} (stay : ∀ q s, r.session? q = some s → s.reader = .staying)

include stay

theorem listens_deliver_of_staying (frames : List (SessionId × Frame)) (q : SessionId) :
    (r.deliver frames).2.listens q = r.listens q := by
  rw [listens, listens, session?_deliver]
  cases known : r.session? q with
  | none => rfl
  | some s =>
      rw [Option.map_some, Option.any_some, Option.any_some, Session.reader_spend, stay q s known]
      rfl

/-- What is sent to readers that stay are all frames for connected sessions, and the counts are those
of all frames, whatever their order. -/
theorem deliver_of_staying (frames : List (SessionId × Frame)) :
    let queued := frames.filter fun e => r.listens e.1
    (r.deliver frames).2.sent = r.sent ++ queued ∧
      (r.deliver frames).2.stats =
        { framesSent := r.stats.framesSent + queued.length
          bytesSent := r.stats.bytesSent + (queued.map fun e => e.2.length).sum
          failedDeliveries :=
            r.stats.failedDeliveries + (frames.filter fun e => !r.listens e.1).length } :=
  deliver_of_steady fun before e _ _ => listens_deliver_of_staying stay before e.1

/-- The order of frames for readers that stay matters only to the order in which they are queued. -/
theorem deliver_perm {frames frames' : List (SessionId × Frame)} (perm : frames.Perm frames') :
    (r.deliver frames).2.sent.Perm (r.deliver frames').2.sent ∧
      (r.deliver frames').2.stats = (r.deliver frames).2.stats := by
  obtain ⟨sent, stats⟩ := deliver_of_staying stay frames
  obtain ⟨sent', stats'⟩ := deliver_of_staying stay frames'
  have queued := perm.filter fun e => r.listens e.1
  have missed := perm.filter fun e => !r.listens e.1
  rw [sent, sent', stats, stats', queued.length_eq, (queued.map fun e => e.2.length).sum_eq,
    missed.length_eq]
  exact ⟨queued.append_left _, rfl⟩

end Router

namespace Hub

/-- Whether two hubs are the same: what is open, what is stored, the sessions and the counts, and in
the queue of every session the same frames, in whatever order. -/
structure Same (h h' : Hub MemoryStore) : Prop where
  agrees : h.AgreesOn .everything h'
  failed : h'.router.failed = h.router.failed
  stats : h'.router.stats = h.router.stats
  queues : ∀ id, (h.router.queueOf id).Perm (h'.router.queueOf id)

/-- Whether two requests of sessions get the same answers in either order and leave the same behind. -/
structure Commute (h : Hub MemoryStore) (now : UInt32) (a b : SessionId × Request) : Prop where
  first : ((h.apply b.1 now b.2).2.apply a.1 now a.2).1 = (h.apply a.1 now a.2).1
  second : ((h.apply a.1 now a.2).2.apply b.1 now b.2).1 = (h.apply b.1 now b.2).1
  same : Same ((h.apply a.1 now a.2).2.apply b.1 now b.2).2
    ((h.apply b.1 now b.2).2.apply a.1 now a.2).2

section Stored

variable {h : Hub MemoryStore} {Known : MapId → Prop}

/-- Whether the maps in a store are the known ones. -/
def Knows (Known : MapId → Prop) (s : MemoryStore) : Prop :=
  ∀ map, s.maps.contains map = true ↔ Known map

theorem upholds_knows (Known : MapId → Prop) :
    Store.Upholds (Knows Known) fun map _ => Known map where
  listMaps knows := knows
  loadMap knows _ := knows
  loaded := by
    intro s knows map contents read
    refine (knows map).mp ?_
    obtain ⟨entry, found, _⟩ := Option.map_eq_some_iff.mp (Except.ok.inj read)
    rw [Table.contains, found]
    rfl
  saveMap := by
    intro s knows map contents known q
    simp only [Store.saveMap]
    split
    · exact knows q
    · rw [← knows q, Table.contains, Table.contains, MemoryStore.get?_maps_putMap]
      split
      · rename_i here
        have stored := (knows map).mpr known
        rw [here]
        exact iff_of_true rfl stored
      · rfl
  loadNode knows _ := knows
  saveNode := by
    intro s knows node fields
    simp only [Store.saveNode]
    split
    · exact knows
    · exact knows

theorem editKeeps_known (deed : Deed) : EditKeeps (fun map _ => Known map) deed := by
  cases deed with
  | edited map edit => exact fun _ _ known => known
  | fieldsSet node fields => trivial

theorem Confined.mapsStored (ok : h.Confined (Knows Known) fun map _ => Known map) : h.MapsStored :=
  fun map m found => (ok.store map).mpr (ok.maps map m found)

theorem Confined.apply (ok : h.Confined (Knows Known) fun map _ => Known map) {session : SessionId}
    (known : h.router.isRegistered session = true) (now : UInt32) (request : Request) :
    (h.apply session now request).2.Confined (Knows Known) fun map _ => Known map := by
  obtain ⟨letters, trail⟩ := trail_apply known now request
  exact trail.confined (upholds_knows Known) ok fun _ deed _ => editKeeps_known deed

end Stored

section Either

variable {h : Hub MemoryStore} {now : UInt32} {a b : SessionId × Request} (stay : h.AllStay)

/-- Two requests post their letters one after the other, if the first one is nothing to the letters of
the second one. -/
theorem posts_both
    (letters : (h.apply a.1 now a.2).2.lettersOf b.1 now b.2 = h.lettersOf b.1 now b.2) :
    h.Posts (h.lettersOf a.1 now a.2 ++ h.lettersOf b.1 now b.2)
      ((h.apply a.1 now a.2).2.apply b.1 now b.2).2 := by
  have one := h.posts_apply a.1 now a.2
  have two := (h.apply a.1 now a.2).2.posts_apply b.1 now b.2
  rw [letters] at two
  rw [Posts, ← post_post]
  exact (one.deliver _).trans two

include stay

/-- If neither request is anything to the letters of the other one, their letters are posted in either
order, and who gets what is the same. -/
theorem same_of_letters
    (first : (h.apply b.1 now b.2).2.lettersOf a.1 now a.2 = h.lettersOf a.1 now a.2)
    (second : (h.apply a.1 now a.2).2.lettersOf b.1 now b.2 = h.lettersOf b.1 now b.2)
    (agrees : AgreesOn .everything ((h.apply a.1 now a.2).2.apply b.1 now b.2).2
      ((h.apply b.1 now b.2).2.apply a.1 now a.2).2) :
    Same ((h.apply a.1 now a.2).2.apply b.1 now b.2).2
      ((h.apply b.1 now b.2).2.apply a.1 now a.2).2 := by
  have one : h.Posts (h.lettersOf a.1 now a.2 ++ h.lettersOf b.1 now b.2) _ := posts_both second
  have two : h.Posts (h.lettersOf b.1 now b.2 ++ h.lettersOf a.1 now a.2) _ := posts_both first
  have swapped : (h.lettersOf a.1 now a.2 ++ h.lettersOf b.1 now b.2).Perm
      (h.lettersOf b.1 now b.2 ++ h.lettersOf a.1 now a.2) := List.perm_append_comm
  obtain ⟨sent, stats⟩ := Router.deliver_perm stay (swapped.map Letter.toFrame)
  refine ⟨agrees, ?_, ?_, fun id => ?_⟩
  · rw [one.failed, two.failed]
    exact (Router.failed_deliver_of_staying stay).trans (Router.failed_deliver_of_staying stay).symm
  · rw [one.stats, two.stats]
    exact stats
  · rw [Router.queueOf, Router.queueOf, one.sent, two.sent]
    exact (sent.filter _).map _

variable {Known : MapId → Prop} (ok : h.Confined (Knows Known) fun map _ => Known map)
  (asks : h.router.isRegistered a.1 = true) (asks' : h.router.isRegistered b.1 = true)

include ok asks asks'

/-- Requests that have nothing in common commute. -/
theorem commute_of_apart (apart : (a.2.scope a.1).Apart (b.2.scope b.1)) : h.Commute now a b := by
  have stored := (ok.apply asks now a.2).mapsStored
  have stored' := (ok.apply asks' now b.2).mapsStored
  -- what the second request looks at is not touched by the first one, and the other way round
  have left := preserves_apply stay ok.mapsStored apart.symm now
  have right := preserves_apply stay ok.mapsStored apart now
  have second := left.agrees.apply now
  have first := right.agrees.apply now
  refine ⟨first.answer, second.answer,
    same_of_letters stay (right.agrees.lettersOf now) (left.agrees.lettersOf now) ?_⟩
  obtain ⟨out, out'⟩ := Scope.outside_apart (a.2.scope a.1) (b.2.scope b.1)
  refine AgreesOn.everywhere (a := a.2.scope a.1) (b := b.2.scope b.1) ?_ ?_ ?_
  · exact (preserves_apply left.stay stored apart now).agrees.symm.trans first.hub
  · exact second.hub.symm.trans (preserves_apply right.stay stored' apart.symm now).agrees
  · have one := (preserves_apply stay ok.mapsStored out now).agrees.trans
      (preserves_apply left.stay stored out' now).agrees
    have two := (preserves_apply stay ok.mapsStored out' now).agrees.trans
      (preserves_apply right.stay stored' out now).agrees
    exact one.symm.trans two

end Either

/-- Requests to move symbols of one map commute. -/
theorem commute_of_moves {h : Hub MemoryStore} (stay : h.AllStay) {p q : SessionId}
    (asks : h.router.isRegistered p = true) (asks' : h.router.isRegistered q = true) (now : UInt32)
    (map : MapId) (id id' : ElementId) (dx dy dx' dy' : Int32) :
    h.Commute now (p, .translateSymbol map id dx dy) (q, .translateSymbol map id' dx' dy') := by
  let elsewhere : Scope := ⟨fun r => r ≠ map, fun _ => True, fun _ => True⟩
  have outside : ¬ elsewhere.map map := fun other => other rfl
  have left : Preserves elsewhere h (h.translateSymbol p map id dx dy).2 :=
    preserves_translateSymbol stay outside id dx dy
  have right : Preserves elsewhere h (h.translateSymbol q map id' dx' dy').2 :=
    preserves_translateSymbol stay outside id' dx' dy'
  have sessions := left.agrees.sessions q trivial
  have sessions' := right.agrees.sessions p trivial
  obtain ⟨s, known⟩ := Router.isRegistered_iff_exists.mp asks
  obtain ⟨t, known'⟩ := Router.isRegistered_iff_exists.mp asks'
  -- the first move leaves the map to the second one with the same subscribers and numbers
  have similar : ∀ (r : SessionId) (k : ElementId) (x y : Int32),
      Option.Rel OpenMap.Similar (h.maps.get? map)
        ((h.maps.get? map).map fun m => m.moved r k x y) := by
    intro r k x y
    cases h.maps.get? map with
    | none => exact .none
    | some m => exact .some (m.similar_moved r k x y)
  obtain ⟨moved, store⟩ := translateSymbol_moved known map id dx dy
  obtain ⟨moved', store'⟩ := translateSymbol_moved known' map id' dx' dy'
  obtain ⟨second, letters⟩ := translateSymbol_similar sessions
    (moved ▸ similar p _ dx dy) now id' dx' dy'
  obtain ⟨first, letters'⟩ := translateSymbol_similar sessions'
    (moved' ▸ similar q _ dx' dy') now id dx dy
  refine ⟨first, second, same_of_letters stay letters' letters ?_⟩
  obtain ⟨both, bothStore⟩ := translateSymbol_moved (sessions.trans known') map id' dx' dy'
  obtain ⟨both', bothStore'⟩ := translateSymbol_moved (sessions'.trans known) map id dx dy
  have one : Preserves elsewhere _
      ((h.translateSymbol p map id dx dy).2.translateSymbol q map id' dx' dy').2 :=
    preserves_translateSymbol left.stay outside id' dx' dy'
  have two : Preserves elsewhere _
      ((h.translateSymbol q map id' dx' dy').2.translateSymbol p map id dx dy).2 :=
    preserves_translateSymbol right.stay outside id dx dy
  have same := (left.agrees.trans one.agrees).symm.trans (right.agrees.trans two.agrees)
  refine ⟨fun r _ => ?_, fun r _ => same.nodes r trivial, fun r _ => same.sessions r trivial, ?_⟩
  · by_cases here : r = map
    · rw [here]
      refine both'.trans (.trans ?_ both.symm)
      rw [moved, moved', Option.map_map, Option.map_map]
      exact congrArg (fun f => (h.maps.get? map).map f)
        (funext fun m => m.moved_moved q p _ _ dx' dy' dx dy)
    · exact same.maps r here
  · have stores := (bothStore'.trans store').trans (bothStore.trans store).symm
    exact stores ▸ .refl _

end Hub

/-- Whether two requests are not about one map or one node, or both move symbols of one map. -/
def Request.Exchangeable (r r' : Request) : Prop :=
  ((∀ map, r.map? = some map → r'.map? ≠ some map) ∧
    ∀ node, r.node? = some node → r'.node? ≠ some node) ∨
  ∃ map id dx dy id' dx' dy', r = .translateSymbol map id dx dy ∧ r' = .translateSymbol map id' dx' dy'

/-- At every moment of every run at which all readers stay, two requests of different sessions that are
not about one map or one node, or that both move symbols of one map, get the same answers in either
order.  What is open, with its subscribers and locks, the sessions with their logins and placeholders,
the store and the counts are then the same, and so are the frames in the queue of every session, their
order apart. -/
theorem requests_commute (store : MemoryStore) (maxFrameSize : Nat) (moves : List Move) :
    let e := Engine.start store maxFrameSize
    (e.after moves).hub = e.hub.performAll (e.acts moves) ∧
    ∀ done rest, e.acts moves = done ++ rest →
      let h := e.hub.performAll done
      (∀ q s, h.router.session? q = some s → s.reader = .staying) →
      ∀ now (a b : SessionId × Request), a.1 ≠ b.1 →
        h.router.isRegistered a.1 = true → h.router.isRegistered b.1 = true →
        a.2.Exchangeable b.2 → h.Commute now a b := by
  intro e
  refine ⟨e.hub_after moves, ?_⟩
  intro done rest performed h stay now a b others asks asks' exchangeable
  have enabled := e.enabled_acts moves
  rw [performed] at enabled
  let Known (map : MapId) : Prop := store.maps.contains map = true
  have ok : h.Confined (Hub.Knows Known) fun map _ => Known map := by
    have start : e.hub.Confined (Hub.Knows Known) fun map _ => Known map :=
      ⟨fun _ => .rfl, nofun⟩
    refine Hub.performAll_keeps (fun h act enabled ok => ?_) (Hub.along_append.mp enabled).1 start
    exact Hub.confined_perform (Hub.upholds_knows Known) enabled ok fun deed _ =>
      Hub.editKeeps_known deed
  rcases exchangeable with ⟨maps, nodes⟩ | ⟨map, id, dx, dy, id', dx', dy', moves, moves'⟩
  · refine Hub.commute_of_apart stay ok asks asks' ⟨maps, nodes, ?_⟩
    rintro q rfl same
    exact others same
  · obtain ⟨p, r⟩ := a
    obtain ⟨q, r'⟩ := b
    obtain rfl : r = .translateSymbol map id dx dy := moves
    obtain rfl : r' = .translateSymbol map id' dx' dy' := moves'
    exact Hub.commute_of_moves stay asks asks' now map id id' dx dy dx' dy'

/-- Three sessions open a map, and one of them another map, too. -/
def threeInOffice : List Move :=
  [.event (.connected ⟨1⟩ "a" .staying),
    .event (.connected ⟨2⟩ "b" .staying),
    .event (.connected ⟨3⟩ "c" .staying),
    sending ⟨1⟩ .openMap [7],
    sending ⟨1⟩ .openMap [8],
    sending ⟨2⟩ .openMap [8],
    sending ⟨3⟩ .openMap [8]]

theorem requests_commute_threeInOffice :
    let h := ((Engine.start planAndOffice 1000).after threeInOffice).hub
    h.Commute 0 (⟨1⟩, .translateSymbol 8 1 2147483600 0) (⟨2⟩, .translateSymbol 8 1 10 5) ∧
      h.Commute 0 (⟨1⟩, .closeMap 7) (⟨2⟩, .getMapList) ∧
      ((h.apply ⟨1⟩ 0 (.translateSymbol 8 1 2147483600 0)).2.apply ⟨2⟩ 0
        (.translateSymbol 8 1 10 5)).2.shown? 8 =
          some { symbols := [Symbol.placed 1 (-2147483636) 55] } := by
  intro h
  obtain ⟨run, moments⟩ := requests_commute planAndOffice 1000 threeInOffice
  have each : ((Engine.start planAndOffice 1000).after threeInOffice).hub.router.sessions.entries.map
      (fun e => (e.1, e.2.reader)) =
        [(⟨1⟩, .staying), (⟨2⟩, .staying), (⟨3⟩, .staying)] := by decide_cbv
  have stay : ∀ q s, h.router.session? q = some s → s.reader = .staying := by
    intro q s known
    have listed := List.mem_map_of_mem (f := fun e => (e.1, e.2.reader))
      (Table.mem_entries_iff.mpr known)
    rw [each] at listed
    simp only [List.mem_cons, List.not_mem_nil, Prod.mk.injEq, or_false] at listed
    rcases listed with ⟨_, same⟩ | ⟨_, same⟩ | ⟨_, same⟩ <;> exact same
  have keys : h.router.sessions.keys = [⟨1⟩, ⟨2⟩, ⟨3⟩] := by
    have first := congrArg (List.map Prod.fst) each
    rwa [List.map_map] at first
  have one : h.router.isRegistered ⟨1⟩ = true := Router.isRegistered_iff.mpr (by simp [keys])
  have two : h.router.isRegistered ⟨2⟩ = true := Router.isRegistered_iff.mpr (by simp [keys])
  have commute := moments ((Engine.start planAndOffice 1000).acts threeInOffice) []
    (List.append_nil _).symm
  rw [← run] at commute
  refine ⟨commute stay 0 _ _ (by decide) one two ?_,
    commute stay 0 _ _ (by decide) one two ?_, ?_⟩
  · exact .inr ⟨8, 1, 2147483600, 0, 1, 10, 5, rfl, rfl⟩
  · exact .inl ⟨fun map _ => (Option.some_ne_none map).symm,
      fun node _ => (Option.some_ne_none node).symm⟩
  · show ((((Engine.start planAndOffice 1000).after threeInOffice).hub.apply ⟨1⟩ 0
      (.translateSymbol 8 1 2147483600 0)).2.apply ⟨2⟩ 0 (.translateSymbol 8 1 10 5)).2.shown? 8 = _
    decide_cbv

end TopoSync
