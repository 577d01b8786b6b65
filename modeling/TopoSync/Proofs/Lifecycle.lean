import TopoSync.Proofs.Acts

/-!
# The life cycle of maps, nodes and locks

What is open has subscribers, subscribers are connected, and a lock belongs to a subscriber.  Every
change of the hub keeps this, also in the middle of a teardown; hence it holds at every moment of
every run, whenever readers go away and whatever the store answers.  Marks of failed sessions are gone
whenever an event has been dealt with.
-/

namespace TopoSync

namespace Hub

variable {σ : Type}

/-- What holds of the hub at every moment. -/
structure Orderly (h : Hub σ) : Prop where
  /-- An open map has a subscriber. -/
  map_viewed : ∀ map m, h.maps.get? map = some m → ∃ s, s ∈ m.subscribers
  /-- A subscriber of a map is connected. -/
  map_known : ∀ map m s, h.maps.get? map = some m → s ∈ m.subscribers →
    h.router.isRegistered s = true
  /-- An open node has a subscriber. -/
  node_viewed : ∀ node n, h.nodes.get? node = some n → ∃ s, s ∈ n.subscribers
  /-- A subscriber of a node is connected. -/
  node_known : ∀ node n s, h.nodes.get? node = some n → s ∈ n.subscribers →
    h.router.isRegistered s = true
  /-- Whoever holds the lock of a node subscribes to the node. -/
  holder_views : ∀ node n holder, h.nodes.get? node = some n → n.holder = some holder →
    holder.session ∈ n.subscribers
  /-- The reserved map is never open. -/
  reserved_closed : h.maps.get? 0 = none
  /-- A session that is marked as failed is connected. -/
  failed_known : ∀ s, s ∈ h.router.failed → h.router.isRegistered s = true

namespace Orderly

variable {h : Hub σ}

theorem start (store : σ) : Orderly { store : Hub σ } where
  map_viewed _ _ found := nomatch found
  map_known _ _ _ found := nomatch found
  node_viewed _ _ found := nomatch found
  node_known _ _ _ found := nomatch found
  holder_views _ _ _ found := nomatch found
  reserved_closed := rfl
  failed_known _ marked := nomatch marked

/-- Who is not connected has nothing open and holds no lock. -/
theorem empty_handed (ok : h.Orderly) {session : SessionId}
    (unknown : h.router.isRegistered session = false) :
    (∀ map, ¬ h.ViewsMap session map) ∧ (∀ node, ¬ h.ViewsNode session node) ∧
      ∀ node n, h.nodes.get? node = some n → n.isHeldBy session = false := by
  have noNode : ∀ node n, h.nodes.get? node = some n → ¬ session ∈ n.subscribers := by
    intro node n found member
    cases unknown.symm.trans (ok.node_known node n session found member)
  refine ⟨?_, ?_, ?_⟩
  · rintro map ⟨m, found, member⟩
    cases unknown.symm.trans (ok.map_known map m session found member)
  · rintro node ⟨n, found, member⟩
    exact noNode node n found member
  · intro node n found
    rw [← Bool.not_eq_true]
    intro held
    obtain ⟨k, locked, same⟩ : ∃ k, n.holder = some k ∧ k.session = session := by
      simpa [OpenNode.isHeldBy, Option.any_eq_true] using held
    exact noNode node n found (same ▸ ok.holder_views node n k found locked)

theorem withStore (ok : h.Orderly) (store : σ) : Orderly { h with store } :=
  { ok with }

/-- A router that knows the same sessions and marks none that it does not know. -/
theorem withRouter (ok : h.Orderly) {router : Router}
    (same : ∀ s, router.isRegistered s = h.router.isRegistered s)
    (marked : ∀ s, s ∈ router.failed → s ∈ h.router.failed ∨ h.router.isRegistered s = true) :
    Orderly { h with router } where
  map_viewed := ok.map_viewed
  map_known map m s found member := (same s).trans (ok.map_known map m s found member)
  node_viewed := ok.node_viewed
  node_known node n s found member := (same s).trans (ok.node_known node n s found member)
  holder_views := ok.holder_views
  reserved_closed := ok.reserved_closed
  failed_known s member := by
    refine (same s).trans ?_
    rcases marked s member with before | known
    · exact ok.failed_known s before
    · exact known

theorem post (ok : h.Orderly) (letters : List Letter) : (h.post letters).Orderly :=
  ok.withRouter (fun s => isRegistered_post h letters s) fun _ => Router.failed_deliver

theorem amend (ok : h.Orderly) (id : SessionId) (f : Session → Session) : (h.amend id f).Orderly :=
  ok.withRouter (fun s => isRegistered_amend h id f s) fun _ before => .inl before

theorem clearMarks (ok : h.Orderly) : h.takeFailed.2.Orderly :=
  ok.withRouter (fun _ => rfl) fun _ marked => nomatch marked

theorem putMap (ok : h.Orderly) {map : MapId} {m : OpenMap} (real : map ≠ 0)
    (viewed : ∃ s, s ∈ m.subscribers)
    (known : ∀ s, s ∈ m.subscribers → h.router.isRegistered s = true) :
    (h.putMap map m).Orderly where
  map_viewed := Table.holds_insert viewed ok.map_viewed
  map_known q m s found :=
    Table.holds_insert (P := fun _ m => s ∈ m.subscribers → h.router.isRegistered s = true)
      (known s) (fun q m => ok.map_known q m s) q m found
  node_viewed := ok.node_viewed
  node_known := ok.node_known
  holder_views := ok.holder_views
  reserved_closed := by
    rw [maps_putMap, Table.get?_insert_of_ne (Ne.symm real)]
    exact ok.reserved_closed
  failed_known := ok.failed_known

theorem putNode (ok : h.Orderly) {node : NodeId} {n : OpenNode}
    (viewed : ∃ s, s ∈ n.subscribers)
    (known : ∀ s, s ∈ n.subscribers → h.router.isRegistered s = true)
    (holder : ∀ holder, n.holder = some holder → holder.session ∈ n.subscribers) :
    (h.putNode node n).Orderly where
  map_viewed := ok.map_viewed
  map_known := ok.map_known
  node_viewed := Table.holds_insert viewed ok.node_viewed
  node_known q n s found :=
    Table.holds_insert (P := fun _ n => s ∈ n.subscribers → h.router.isRegistered s = true)
      (known s) (fun q n => ok.node_known q n s) q n found
  holder_views q n k found :=
    Table.holds_insert (P := fun _ n => n.holder = some k → k.session ∈ n.subscribers)
      (holder k) (fun q n => ok.holder_views q n k) q n found
  reserved_closed := ok.reserved_closed
  failed_known := ok.failed_known

theorem eraseMap (ok : h.Orderly) (map : MapId) : Orderly { h with maps := h.maps.erase map } where
  map_viewed := Table.holds_erase ok.map_viewed
  map_known q m s found :=
    Table.holds_erase (P := fun _ m => s ∈ m.subscribers → h.router.isRegistered s = true)
      (fun q m => ok.map_known q m s) q m found
  node_viewed := ok.node_viewed
  node_known := ok.node_known
  holder_views := ok.holder_views
  reserved_closed := by
    rw [Table.get?_erase, ok.reserved_closed]
    split <;> rfl
  failed_known := ok.failed_known

theorem eraseNode (ok : h.Orderly) (node : NodeId) :
    Orderly { h with nodes := h.nodes.erase node } where
  map_viewed := ok.map_viewed
  map_known := ok.map_known
  node_viewed := Table.holds_erase ok.node_viewed
  node_known q n s found :=
    Table.holds_erase (P := fun _ n => s ∈ n.subscribers → h.router.isRegistered s = true)
      (fun q n => ok.node_known q n s) q n found
  holder_views q n k found :=
    Table.holds_erase (P := fun _ n => n.holder = some k → k.session ∈ n.subscribers)
      (fun q n => ok.holder_views q n k) q n found
  reserved_closed := ok.reserved_closed
  failed_known := ok.failed_known

theorem writeBackMap [Store σ] (ok : h.Orderly) (map : MapId) : (h.writeBackMap map).Orderly := by
  cases found : h.maps.get? map with
  | none =>
      rw [Hub.writeBackMap, found]
      exact ok
  | some m =>
      rw [writeBackMap_of_get? found]
      exact (ok.eraseMap map).withStore _

theorem writeBackNode [Store σ] (ok : h.Orderly) (node : NodeId) :
    (h.writeBackNode node).Orderly := by
  cases found : h.nodes.get? node with
  | none =>
      rw [Hub.writeBackNode, found]
      exact ok
  | some n =>
      rw [writeBackNode_of_get? found]
      exact (ok.eraseNode node).withStore _

/-- A session can be taken out once it subscribes to nothing. -/
theorem unregister (ok : h.Orderly) {session : SessionId}
    (noMap : ∀ map m, h.maps.get? map = some m → ¬ session ∈ m.subscribers)
    (noNode : ∀ node n, h.nodes.get? node = some n → ¬ session ∈ n.subscribers) :
    Orderly { h with router := h.router.unregister session } := by
  have others : ∀ s, s ≠ session →
      (h.router.unregister session).isRegistered s = h.router.isRegistered s := by
    intro s other
    rw [Router.isRegistered_eq_isSome, Router.session?_unregister, if_neg other]
    rfl
  constructor
  · exact ok.map_viewed
  · intro map m s found member
    have other : s ≠ session := fun same => noMap map m found (same ▸ member)
    exact (others s other).trans (ok.map_known map m s found member)
  · exact ok.node_viewed
  · intro node n s found member
    have other : s ≠ session := fun same => noNode node n found (same ▸ member)
    exact (others s other).trans (ok.node_known node n s found member)
  · exact ok.holder_views
  · exact ok.reserved_closed
  · intro s marked
    obtain ⟨before, other⟩ := List.mem_filter.mp marked
    exact (others s (by simpa using other)).trans (ok.failed_known s before)

theorem register (ok : h.Orderly) (session : Session) :
    Orderly { h with router := h.router.register session } := by
  have kept : ∀ s, h.router.isRegistered s = true →
      (h.router.register session).isRegistered s = true := by
    intro s known
    rw [Router.isRegistered_eq_isSome, Router.session?_register]
    split
    · rfl
    · exact known
  constructor
  · exact ok.map_viewed
  · exact fun map m s found member => kept s (ok.map_known map m s found member)
  · exact ok.node_viewed
  · exact fun node n s found member => kept s (ok.node_known node n s found member)
  · exact ok.holder_views
  · exact ok.reserved_closed
  · exact fun s marked => kept s (ok.failed_known s marked)

end Orderly

/-- Every change keeps the hub orderly. -/
theorem Change.orderly [Store σ] {h h' : Hub σ} {marks : List Mark} (change : Change h marks h')
    (ok : h.Orderly) : h'.Orderly := by
  cases change with
  | consulted asked => exact ok.withStore _
  | mapsListed session listed => exact (ok.withStore _).post _
  | nodeMissed session node closed missing => exact (ok.withStore _).post _
  | amended id f keeps => exact ok.amend id f
  | mapJoined session map m real known found =>
      refine (ok.putMap real ⟨session, Roster.mem_insert.mpr (.inl rfl)⟩ ?_).post _
      intro s member
      rcases Roster.mem_insert.mp member with rfl | member
      · exact known
      · exact ok.map_known map m s found member
  | mapLoaded session map real known closed loaded =>
      refine ((ok.withStore _).putMap real ⟨session, Roster.mem_insert.mpr (.inl rfl)⟩ ?_).post _
      intro s member
      rcases Roster.mem_insert.mp member with rfl | member
      · exact known
      · exact absurd member (Roster.not_mem_empty s)
  | mapEdited session map m edit old found member fits =>
      have real : map ≠ 0 := by
        rintro rfl
        cases ok.reserved_closed.symm.trans found
      refine Orderly.post (Orderly.putMap ok real ?_ ?_) _
      · exact ⟨session, member⟩
      · exact fun s => ok.map_known map m s found
  | mapLeft session map m found member others =>
      have real : map ≠ 0 := by
        rintro rfl
        cases ok.reserved_closed.symm.trans found
      refine ok.putMap real (Roster.isEmpty_eq_false_iff.mp others) ?_
      intro s left
      exact ok.map_known map m s found (Roster.mem_erase.mp left).1
  | mapGivenUp session map m found member last => exact ok.writeBackMap map
  | mapFlushed map => exact ok.writeBackMap map
  | nodeJoined session node n known found =>
      refine (ok.putNode ⟨session, Roster.mem_insert.mpr (.inl rfl)⟩ ?_ ?_).post _
      · intro s member
        rcases Roster.mem_insert.mp member with rfl | member
        · exact known
        · exact ok.node_known node n s found member
      · intro holder held
        exact Roster.mem_insert.mpr (.inr (ok.holder_views node n holder found held))
  | nodeLoaded session node known closed loaded =>
      refine ((ok.withStore _).putNode ⟨session, Roster.mem_insert.mpr (.inl rfl)⟩ ?_ ?_).post _
      · intro s member
        rcases Roster.mem_insert.mp member with rfl | member
        · exact known
        · exact absurd member (Roster.not_mem_empty s)
      · intro holder held
        cases held
  | nodeLocked node n s holder found free member known login host =>
      refine Orderly.post (Orderly.putNode ok ?_ ?_ ?_) _
      · exact ⟨holder.session, member⟩
      · exact fun s => ok.node_known node n s found
      · intro k held
        cases held
        exact member
  | nodeUpdated session node n fields found held =>
      refine Orderly.post (Orderly.putNode ok ?_ ?_ ?_) _
      · exact ok.node_viewed node n found
      · exact fun s => ok.node_known node n s found
      · exact fun k => ok.holder_views node n k found
  | nodeUnlocked session node n found held =>
      refine Orderly.post (Orderly.putNode ok ?_ ?_ ?_) _
      · exact ok.node_viewed node n found
      · exact fun s => ok.node_known node n s found
      · intro k held
        cases held
  | nodeLeft session node n found member free others =>
      refine ok.putNode (Roster.isEmpty_eq_false_iff.mp others) ?_ ?_
      · intro s left
        exact ok.node_known node n s found (Roster.mem_erase.mp left).1
      · intro k held
        refine Roster.mem_erase.mpr ⟨ok.holder_views node n k found held, ?_⟩
        -- The lock is not the leaving session's, so its holder stays.
        intro same
        have held : n.holder = some k := held
        simp [OpenNode.isHeldBy, held, same] at free
  | nodeGivenUp session node n found member free last => exact ok.writeBackNode node
  | nodeFlushed node => exact ok.writeBackNode node
  | sessionEnded session noMap noNode => exact ok.unregister noMap noNode
  | marksCleared => exact ok.clearMarks

variable [Store σ]

/-- The deed marks of a frame: those of its request. -/
def answerMarks (h : Hub σ) (session : SessionId) (frame : Bytes) : List Mark :=
  match Request.ofFrame? frame with
  | none => []
  | some request => h.deedMarks session request

theorem trail_answerFrame {h : Hub σ} {session : SessionId}
    (known : h.router.isRegistered session = true) (now : UInt32) (frame : Bytes) :
    ∃ letters : List Letter,
      Trail h (h.answerMarks session frame ++ letters.map .letter)
        (h.answerFrame session now frame).2 := by
  rw [answerFrame_eq, answerMarks]
  cases Request.ofFrame? frame with
  | none => exact ⟨[], .still h⟩
  | some request => exact trail_apply known now request

/-- Answering connects and ends nobody. -/
theorem isRegistered_answerFrame {h : Hub σ} {session : SessionId}
    (known : h.router.isRegistered session = true) (now : UInt32) (frame : Bytes) (q : SessionId) :
    (h.answerFrame session now frame).2.router.isRegistered q = h.router.isRegistered q := by
  obtain ⟨letters, trail⟩ := trail_answerFrame known now frame
  have none : Mark.ended q ∉ h.answerMarks session frame ++ letters.map .letter := by
    simp only [answerMarks, deedMarks]
    split <;> simp
  rw [Bool.eq_iff_iff, trail.isRegistered_iff]
  exact and_iff_left none

theorem isRegistered_answerFrames {h : Hub σ} {session : SessionId}
    (known : h.router.isRegistered session = true) (clock : Clock) (frames : List Bytes)
    (q : SessionId) :
    (h.answerFrames session clock frames).router.isRegistered q = h.router.isRegistered q := by
  induction frames generalizing h clock with
  | nil => rfl
  | cons frame rest ih =>
      have kept := isRegistered_answerFrame known clock.now frame
      exact (ih ((kept session).trans known) (clock.after 1)).trans (kept q)

/-- What every change keeps is kept while frames of a connected session are answered. -/
theorem answerFrames_keeps {P : Hub σ → Prop}
    (change : ∀ {h h' : Hub σ} {marks : List Mark}, Change h marks h' → P h → P h') {h : Hub σ}
    {session : SessionId} (known : h.router.isRegistered session = true) (start : P h)
    (clock : Clock) (frames : List Bytes) : P (h.answerFrames session clock frames) := by
  induction frames generalizing h clock with
  | nil => exact start
  | cons frame rest ih =>
      obtain ⟨letters, trail⟩ := trail_answerFrame known clock.now frame
      have still := (isRegistered_answerFrame known clock.now frame session).trans known
      exact ih still (trail.keeps change start) (clock.after 1)

/-- Every enabled act keeps the hub orderly. -/
theorem orderly_perform {h : Hub σ} {a : Act} (enabled : a.Enabled h) (ok : h.Orderly) :
    (h.perform a).Orderly := by
  cases a with
  | connect id host reader => exact ok.register _
  | retire id after => exact ok.amend id _
  | buffer id rest => exact ok.amend id _
  | answer id now frame =>
      obtain ⟨letters, trail⟩ := trail_answerFrame enabled now frame
      exact trail.keeps (fun change => change.orderly) ok
  | finish id =>
      obtain ⟨letters, trail⟩ := h.trail_endSession id
      exact (trail.keeps (fun change => change.orderly) ok).clearMarks
  | clearMarks => exact ok.clearMarks
  | flush => exact h.trail_flush.keeps (fun change => change.orderly) ok

/-- The sessions that are ended are connected when it is their turn. -/
theorem enabled_finishes (h : Hub σ) (pending : List SessionId) :
    Along Act.Enabled h (h.finishes pending) := by
  induction h, pending using endSessions.induct with
  | case1 h =>
      rw [finishes_nil]
      trivial
  | case2 h id rest registered ended ih =>
      rw [finishes_of_registered registered]
      exact ⟨registered, ih⟩
  | case3 h id rest unknown ih =>
      rw [finishes_of_not_registered (by simpa using unknown)]
      exact ih

theorem enabled_reaping (h : Hub σ) : Along Act.Enabled h h.reaping :=
  ⟨trivial, enabled_finishes _ _⟩

/-- Whoever is answered once can be answered again. -/
theorem enabled_answers {h : Hub σ} {id : SessionId} (known : h.router.isRegistered id = true)
    (clock : Clock) (frames : List Bytes) :
    Along Act.Enabled h (Act.answers id clock frames) := by
  induction frames generalizing h clock with
  | nil => trivial
  | cons frame rest ih =>
      have still := (isRegistered_answerFrame known clock.now frame id).trans known
      exact ⟨known, ih still (clock.after 1)⟩

/-- Ending sessions leaves no marks of failed ones. -/
theorem failed_performAll_finishes (h : Hub σ) (pending : List SessionId)
    (clear : h.router.failed = []) : (h.performAll (h.finishes pending)).router.failed = [] := by
  induction h, pending using endSessions.induct with
  | case1 h =>
      rw [finishes_nil]
      exact clear
  | case2 h id rest registered ended ih =>
      rw [finishes_of_registered registered]
      exact ih rfl
  | case3 h id rest unknown ih =>
      rw [finishes_of_not_registered (by simpa using unknown)]
      exact ih clear

theorem failed_performAll_reaping (h : Hub σ) : (h.performAll h.reaping).router.failed = [] :=
  failed_performAll_finishes h.takeFailed.2 h.takeFailed.1 rfl

section KnownSession

variable {h : Hub σ} {session : SessionId}

omit [Store σ] in
theorem addElement_ne_unknownSession {α : Type} [MapElement α]
    (known : h.router.isRegistered session = true) (map : MapId) (temp : ElementId)
    (build : ElementId → α) (missing : SessionId) :
    (h.addElement session map temp build).1 ≠ .error (.unknownSession missing) := by
  rw [addElement]
  rw [known]
  split
  · simp
  · rw [if_neg (by simp)]
    split
    · simp
    · dsimp only
      split <;> simp

omit [Store σ] in
theorem deleteElement_ne_unknownSession {α : Type} [MapElement α]
    (known : h.router.isRegistered session = true) (map : MapId) (id : ElementId)
    (missing : SessionId) :
    (h.deleteElement α session map id).1 ≠ .error (.unknownSession missing) := by
  obtain ⟨s, found⟩ := Router.isRegistered_iff_exists.mp known
  rw [deleteElement]
  split
  · simp
  · rw [found]
    dsimp only
    split
    · simp
    · split <;> simp

omit [Store σ] in
theorem acknowledge_ne_unknownSession {α : Type} [MapElement α]
    (known : h.router.isRegistered session = true) (old new : ElementId) (missing : SessionId) :
    (h.acknowledge α session old new).1 ≠ .error (.unknownSession missing) := by
  obtain ⟨s, found⟩ := Router.isRegistered_iff_exists.mp known
  rw [acknowledge]
  rw [found]
  dsimp only
  split <;> simp

theorem openMap_ne_unknownSession (map : MapId) (missing : SessionId) :
    (h.openMap session map).1 ≠ .error (.unknownSession missing) := by
  rw [openMap, fetchMap]
  split
  · simp
  · cases h.maps.get? map with
    | some m => simp
    | none =>
        dsimp only
        rcases Store.loadMap h.store map with ⟨_ | _ | diagram, store⟩ <;> simp

theorem openNode_ne_unknownSession (node : NodeId) (missing : SessionId) :
    (h.openNode session node).1 ≠ .error (.unknownSession missing) := by
  rw [openNode, fetchNode]
  cases h.nodes.get? node with
  | some n => simp
  | none =>
      dsimp only
      rcases Store.loadNode h.store node with ⟨_ | _ | record, store⟩ <;> simp

/-- No request of a connected session is refused for want of a session. -/
theorem apply_ne_unknownSession (known : h.router.isRegistered session = true) (now : UInt32)
    (request : Request) (missing : SessionId) :
    (h.apply session now request).1 ≠ .error (.unknownSession missing) := by
  obtain ⟨s, found⟩ := Router.isRegistered_iff_exists.mp known
  have dropped : ∀ {α : Type} {o : Outcome σ α}, o.1 ≠ .error (.unknownSession missing) →
      (dropValue o).1 ≠ .error (.unknownSession missing) := by
    rintro α ⟨e | a, h'⟩ other
    · simpa [dropValue, Except.map] using other
    · simp [dropValue, Except.map]
  cases request with
  | login login password => simp [apply, logIn, known]
  | getMapList => simp [apply]
  | openMap map => exact openMap_ne_unknownSession map missing
  | closeMap map =>
      simp only [apply, closeMap]
      split <;> simp
  | addSymbol map id x y => exact dropped (addElement_ne_unknownSession known _ _ _ missing)
  | renameSymbol map old new => exact acknowledge_ne_unknownSession known old new missing
  | deleteSymbol map id => exact dropped (deleteElement_ne_unknownSession known map id missing)
  | translateSymbol map id dx dy =>
      simp only [apply, translateSymbol, found]
      split
      · simp
      · split <;> simp
  | addConnection map id sym0 sym1 =>
      simp only [apply, addConnection, found]
      exact dropped (addElement_ne_unknownSession known _ _ _ missing)
  | renameConnection map old new => exact acknowledge_ne_unknownSession known old new missing
  | deleteConnection map id => exact dropped (deleteElement_ne_unknownSession known map id missing)
  | openNode node => exact openNode_ne_unknownSession node missing
  | closeNode node =>
      simp only [apply, closeNode]
      split <;> simp
  | setNode node fields =>
      simp only [apply, setFields]
      split <;> simp
  | lockNode node =>
      simp only [apply, lockNode, found]
      split
      · simp
      · split <;> simp
  | unlockNode node =>
      simp only [apply, unlockNode]
      split <;> simp
  | unsupported command => simp [apply]

end KnownSession

/-- A frame of a connected session is not rejected for want of a session. -/
theorem answerFrame_ne_unknownSession {h : Hub σ} {session : SessionId}
    (known : h.router.isRegistered session = true) (now : UInt32) (frame : Bytes)
    (command : Command) (missing : SessionId) :
    (h.answerFrame session now frame).1 ≠ .error (.refused command (.unknownSession missing)) := by
  rw [answerFrame]
  cases Command.ofCode? (Frame.codeWord frame) with
  | none => simp
  | some c =>
      dsimp only
      split
      · simp
      · cases Request.decode c frame with
        | error reason => simp
        | ok request =>
            have other := apply_ne_unknownSession known now request missing
            dsimp only
            rcases applied : h.apply session now request with ⟨reason | _, after⟩
            · rw [applied] at other
              intro same
              cases same
              exact other rfl
            · simp

end Hub

namespace Engine

variable {σ : Type} [Store σ]

theorem enabled_receiveActs (e : Engine σ) (id : SessionId) (bytes : Bytes) (clock : Clock) :
    Hub.Along Act.Enabled e.hub (e.receiveActs id bytes clock) := by
  rw [receiveActs]
  cases known : e.hub.router.session? id with
  | none => trivial
  | some s =>
      have registered : e.hub.router.isRegistered id = true :=
        Router.isRegistered_iff_exists.mpr ⟨s, known⟩
      let cut := Framing.split e.maxFrameSize (s.pushBytes bytes).inbound
      have buffered : (e.hub.rebuffer id cut.rest).router.isRegistered id = true :=
        (Hub.isRegistered_amend _ _ _ _).trans registered
      refine Hub.along_append.mpr ⟨Hub.along_append.mpr ⟨?_, ?_⟩, ?_⟩
      · exact ⟨registered, Hub.enabled_answers buffered clock cut.frames⟩
      · split
        · trivial
        · exact Hub.enabled_finishes _ _
      · rw [Hub.performAll_append]
        exact Hub.enabled_reaping _

/-- The acts of a move concern sessions that are connected at that moment. -/
theorem enabled_actsOf (e : Engine σ) (m : Move) :
    Hub.Along Act.Enabled e.hub (e.actsOf m) := by
  cases m with
  | retire id after => exact ⟨trivial, trivial⟩
  | event event =>
      cases event with
      | connected id host reader => exact ⟨trivial, trivial⟩
      | data id bytes clock => exact e.enabled_receiveActs id bytes clock
      | disconnected id => exact Hub.enabled_finishes _ _
      | shutdown => exact ⟨trivial, trivial⟩

theorem enabled_acts (e : Engine σ) (moves : List Move) :
    Hub.Along Act.Enabled e.hub (e.acts moves) := by
  induction moves generalizing e with
  | nil => trivial
  | cons m rest ih =>
      refine Hub.along_append.mpr ⟨e.enabled_actsOf m, ?_⟩
      rw [← hub_move]
      exact ih (e.move m)

theorem orderly_after {e : Engine σ} (ok : e.hub.Orderly) (moves : List Move) :
    (e.after moves).hub.Orderly := by
  rw [hub_after]
  exact Hub.performAll_keeps (fun h a => Hub.orderly_perform) (e.enabled_acts moves) ok

/-- An event that begins without marks of failed sessions ends without them. -/
theorem failed_move {e : Engine σ} (clear : e.hub.router.failed = []) (m : Move) :
    (e.move m).hub.router.failed = [] := by
  cases m with
  | retire id after => exact clear
  | event event =>
      cases event with
      | connected id host reader => exact clear
      | data id bytes clock =>
          rw [hub_move, actsOf, receiveActs]
          cases e.hub.router.session? id with
          | none => exact clear
          | some s =>
              dsimp only
              rw [Hub.performAll_append, Hub.performAll_append]
              exact Hub.failed_performAll_reaping _
      | disconnected id =>
          rw [hub_move]
          exact Hub.failed_performAll_finishes e.hub [id] clear
      | shutdown =>
          have same : (e.move (.event .shutdown)).hub.router = e.hub.router := e.hub.router_flush
          exact (congrArg Router.failed same).trans clear

theorem failed_after {e : Engine σ} (clear : e.hub.router.failed = []) (moves : List Move) :
    (e.after moves).hub.router.failed = [] := by
  induction moves generalizing e with
  | nil => exact clear
  | cons m rest ih => exact ih (failed_move clear m)

end Engine

/-- In every run, between any two events: what is open has subscribers, subscribers are connected, a
lock belongs to a subscriber, the reserved map is closed and nobody is marked as failed.  The run is
its acts, one after the other, and no frame that is answered in it is ever rejected because its session
is unknown. -/
theorem orderly_in_every_run {σ : Type} [Store σ] (store : σ) (maxFrameSize : Nat)
    (moves : List Move) :
    ((Engine.start store maxFrameSize).after moves).hub.Orderly ∧
    ((Engine.start store maxFrameSize).after moves).hub.router.failed = [] ∧
    ((Engine.start store maxFrameSize).after moves).hub =
      (Engine.start store maxFrameSize).hub.performAll
        ((Engine.start store maxFrameSize).acts moves) ∧
    ∀ done id now frame rest,
      (Engine.start store maxFrameSize).acts moves = done ++ .answer id now frame :: rest →
      ∀ command missing,
        (((Engine.start store maxFrameSize).hub.performAll done).answerFrame id now frame).1 ≠
          .error (.refused command (.unknownSession missing)) := by
  refine ⟨Engine.orderly_after (Hub.Orderly.start store) moves, Engine.failed_after rfl moves,
    Engine.hub_after _ moves, ?_⟩
  intro done id now frame rest performed command missing
  have enabled := (Engine.start store maxFrameSize).enabled_acts moves
  rw [performed] at enabled
  obtain ⟨_, known, _⟩ := Hub.along_append.mp enabled
  exact Hub.answerFrame_ne_unknownSession known now frame command missing

end TopoSync
