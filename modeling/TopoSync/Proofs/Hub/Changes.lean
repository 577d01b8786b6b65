import TopoSync.Hub.Teardown
import TopoSync.Proofs.Hub.Edits

/-!
# Changes of the hub

Whatever the hub does is a succession of small changes, and a change says everything about one such
step: what it requires, what it leaves behind, which deed it is and which letters it posts.  A
property of the hub that every change keeps is kept by every request and every teardown.
-/

namespace TopoSync

/-- A question to a store that brings nothing to be kept, and the store afterwards. -/
inductive Store.Asked {σ : Type} [Store σ] (store : σ) : σ → Prop
  | maps {e : StoreError} (failed : (Store.listMaps store).1 = .error e) :
      Asked store (Store.listMaps store).2
  | map (map : MapId) (nothing : ∀ d, (Store.loadMap store map).1 ≠ .ok (some d)) :
      Asked store (Store.loadMap store map).2
  | node (node : NodeId) {e : StoreError} (failed : (Store.loadNode store node).1 = .error e) :
      Asked store (Store.loadNode store node).2

/-- What a change lets be known: a deed with its session, a letter, or the end of a session. -/
inductive Mark
  | deed (session : SessionId) (d : Deed)
  | letter (l : Letter)
  | ended (session : SessionId)
deriving DecidableEq, Repr

namespace Hub

variable {σ : Type} [Store σ]

/-- One small change of the hub and what it lets be known. -/
inductive Change : Hub σ → List Mark → Hub σ → Prop
  /-- The store is asked to no avail. -/
  | consulted (h : Hub σ) {store : σ} (asked : Store.Asked h.store store) :
      Change h [] { h with store }
  /-- A session gets the list of maps. -/
  | mapsListed (h : Hub σ) (session : SessionId) {entries : List MapEntry} {store : σ}
      (listed : Store.listMaps h.store = (.ok entries, store)) :
      Change h [.letter (session, .mapList (entries.filter fun e => e.id ≠ 0))]
        (post { h with store } [(session, .mapList (entries.filter fun e => e.id ≠ 0))])
  /-- A session learns that a node does not exist. -/
  | nodeMissed (h : Hub σ) (session : SessionId) (node : NodeId) {store : σ}
      (closed : h.nodes.get? node = none)
      (missing : Store.loadNode h.store node = (.ok none, store)) :
      Change h [.letter (session, .nodeMissing node)]
        (post { h with store } [(session, .nodeMissing node)])
  /-- What is kept of a session changes, the reader of its queue apart. -/
  | amended (h : Hub σ) (id : SessionId) (f : Session → Session)
      (keeps : ∀ s, (f s).reader = s.reader) : Change h [] (h.amend id f)
  /-- A session subscribes to an open map. -/
  | mapJoined (h : Hub σ) (session : SessionId) (map : MapId) (m : OpenMap) (real : map ≠ 0)
      (known : h.router.isRegistered session = true) (found : h.maps.get? map = some m) :
      Change h [.letter (session, .mapSnapshot map m.diagram)]
        ((h.putMap map { m with subscribers := m.subscribers.insert session }).post
          [(session, .mapSnapshot map m.diagram)])
  /-- A session subscribes to a map that is read from the store. -/
  | mapLoaded (h : Hub σ) (session : SessionId) (map : MapId) {diagram : Diagram} {store : σ}
      (real : map ≠ 0) (known : h.router.isRegistered session = true)
      (closed : h.maps.get? map = none)
      (loaded : Store.loadMap h.store map = (.ok (some diagram), store)) :
      Change h [.letter (session, .mapSnapshot map diagram)]
        ((putMap { h with store } map ⟨diagram, Roster.insert ∅ session⟩).post
          [(session, .mapSnapshot map diagram)])
  /-- A subscriber edits a map. -/
  | mapEdited (h : Hub σ) (session : SessionId) (map : MapId) (m : OpenMap) (edit : Edit)
      (old : ElementId) (found : h.maps.get? map = some m) (member : session ∈ m.subscribers)
      (fits : edit.Fits m.diagram) :
      Change h
        (.deed session (.edited map edit) ::
          (edit.letters map m.subscribers session old).map .letter)
        ((h.putMap map { m with diagram := m.diagram.edited edit }).post
          (edit.letters map m.subscribers session old))
  /-- A session leaves a map that others have open. -/
  | mapLeft (h : Hub σ) (session : SessionId) (map : MapId) (m : OpenMap)
      (found : h.maps.get? map = some m) (member : session ∈ m.subscribers)
      (others : (m.subscribers.erase session).isEmpty = false) :
      Change h [] (h.putMap map { m with subscribers := m.subscribers.erase session })
  /-- The last subscriber leaves a map. -/
  | mapGivenUp (h : Hub σ) (session : SessionId) (map : MapId) (m : OpenMap)
      (found : h.maps.get? map = some m) (member : session ∈ m.subscribers)
      (last : (m.subscribers.erase session).isEmpty = true) : Change h [] (h.writeBackMap map)
  /-- A map is written back although it has subscribers. -/
  | mapFlushed (h : Hub σ) (map : MapId) : Change h [] (h.writeBackMap map)
  /-- A session subscribes to an open node. -/
  | nodeJoined (h : Hub σ) (session : SessionId) (node : NodeId) (n : OpenNode)
      (known : h.router.isRegistered session = true) (found : h.nodes.get? node = some n) :
      Change h
        [.letter (session,
          .nodeSnapshot node (n.kindFor session) (n.holder.map Holder.view) n.record)]
        ((h.putNode node { n with subscribers := n.subscribers.insert session }).post
          [(session, .nodeSnapshot node (n.kindFor session) (n.holder.map Holder.view) n.record)])
  /-- A session subscribes to a node that is read from the store. -/
  | nodeLoaded (h : Hub σ) (session : SessionId) (node : NodeId) {record : NodeRecord} {store : σ}
      (known : h.router.isRegistered session = true) (closed : h.nodes.get? node = none)
      (loaded : Store.loadNode h.store node = (.ok (some record), store)) :
      Change h [.letter (session, .nodeSnapshot node .unlocked none record)]
        ((putNode { h with store } node ⟨record, none, Roster.insert ∅ session⟩).post
          [(session, .nodeSnapshot node .unlocked none record)])
  /-- A subscriber takes the lock of a node. -/
  | nodeLocked (h : Hub σ) (node : NodeId) (n : OpenNode) (s : Session) (holder : Holder)
      (found : h.nodes.get? node = some n) (free : n.holder = none)
      (member : holder.session ∈ n.subscribers)
      (known : h.router.session? holder.session = some s) (login : holder.login = s.login)
      (host : holder.host = s.host) :
      Change h ((lockLetters node n.subscribers holder).map .letter)
        ((h.putNode node { n with holder := some holder }).post
          (lockLetters node n.subscribers holder))
  /-- The holder of the lock replaces the fields of a node. -/
  | nodeUpdated (h : Hub σ) (session : SessionId) (node : NodeId) (n : OpenNode)
      (fields : NodeFields) (found : h.nodes.get? node = some n)
      (held : n.isHeldBy session = true) :
      Change h
        (.deed session (.fieldsSet node fields) ::
          (lettersToOthers n.subscribers session (.nodeUpdated node fields)).map .letter)
        ((h.putNode node { n with record := { n.record with fields } }).post
          (lettersToOthers n.subscribers session (.nodeUpdated node fields)))
  /-- The holder of the lock gives it back. -/
  | nodeUnlocked (h : Hub σ) (session : SessionId) (node : NodeId) (n : OpenNode)
      (found : h.nodes.get? node = some n) (held : n.isHeldBy session = true) :
      Change h ((lettersToAll n.subscribers (.nodeUnlocked node)).map .letter)
        ((h.putNode node { n with holder := none }).post
          (lettersToAll n.subscribers (.nodeUnlocked node)))
  /-- A session without the lock leaves a node that others have open. -/
  | nodeLeft (h : Hub σ) (session : SessionId) (node : NodeId) (n : OpenNode)
      (found : h.nodes.get? node = some n) (member : session ∈ n.subscribers)
      (free : n.isHeldBy session = false)
      (others : (n.subscribers.erase session).isEmpty = false) :
      Change h [] (h.putNode node { n with subscribers := n.subscribers.erase session })
  /-- The last subscriber, without the lock, leaves a node. -/
  | nodeGivenUp (h : Hub σ) (session : SessionId) (node : NodeId) (n : OpenNode)
      (found : h.nodes.get? node = some n) (member : session ∈ n.subscribers)
      (free : n.isHeldBy session = false)
      (last : (n.subscribers.erase session).isEmpty = true) : Change h [] (h.writeBackNode node)
  /-- A node is written back although it has subscribers. -/
  | nodeFlushed (h : Hub σ) (node : NodeId) : Change h [] (h.writeBackNode node)
  /-- A session without subscriptions ends. -/
  | sessionEnded (h : Hub σ) (session : SessionId)
      (noMap : ∀ map m, h.maps.get? map = some m → ¬ session ∈ m.subscribers)
      (noNode : ∀ node n, h.nodes.get? node = some n → ¬ session ∈ n.subscribers) :
      Change h [.ended session] { h with router := h.router.unregister session }
  /-- The marks of failed sessions are taken away. -/
  | marksCleared (h : Hub σ) : Change h [] h.takeFailed.2

/-- A succession of changes and what they let be known, in order. -/
inductive Trail : Hub σ → List Mark → Hub σ → Prop
  | still (h : Hub σ) : Trail h [] h
  | step {h h₁ h₂ : Hub σ} {first rest : List Mark} (change : Change h first h₁)
      (trail : Trail h₁ rest h₂) : Trail h (first ++ rest) h₂

namespace Trail

/-- Whatever comes after a change and posts nothing adds no marks to it. -/
theorem step_silent {h h₁ h₂ : Hub σ} {marks : List Mark} (change : Change h marks h₁)
    (trail : Trail h₁ [] h₂) : Trail h marks h₂ := by
  have both := Trail.step change trail
  rwa [List.append_nil] at both

theorem single {h h₁ : Hub σ} {marks : List Mark} (change : Change h marks h₁) :
    Trail h marks h₁ :=
  .step_silent change (.still h₁)

theorem trans {h h₁ h₂ : Hub σ} {first rest : List Mark} (one : Trail h first h₁)
    (two : Trail h₁ rest h₂) : Trail h (first ++ rest) h₂ := by
  induction one with
  | still => exact two
  | step change _ ih =>
      rw [List.append_assoc]
      exact .step change (ih two)

/-- Changes that post nothing leave no marks. -/
theorem trans_silent {h h₁ h₂ : Hub σ} {marks : List Mark} (one : Trail h [] h₁)
    (two : Trail h₁ marks h₂) : Trail h marks h₂ :=
  one.trans two

/-- What every change keeps is kept by a succession of them. -/
theorem keeps {P : Hub σ → Prop}
    (change : ∀ {h h' : Hub σ} {marks : List Mark}, Change h marks h' → P h → P h')
    {h h' : Hub σ} {marks : List Mark} (trail : Trail h marks h') (start : P h) : P h' := by
  induction trail with
  | still => exact start
  | step first _ ih => exact ih (change first start)

end Trail

/-- The sessions afterwards are those from before that have not ended. -/
theorem Change.isRegistered_iff {h h' : Hub σ} {marks : List Mark} (change : Change h marks h')
    (q : SessionId) :
    h'.router.isRegistered q = true ↔
      h.router.isRegistered q = true ∧ Mark.ended q ∉ marks := by
  cases change with
  | sessionEnded session _ _ =>
      simp only [Router.isRegistered_eq_isSome, Router.session?_unregister]
      by_cases same : q = session <;> simp [same]
  | mapFlushed map => simp
  | mapGivenUp session map m _ _ _ => simp
  | nodeFlushed node => simp
  | nodeGivenUp session node n _ _ _ _ => simp
  | consulted asked => simp
  | marksCleared =>
      have same : h.takeFailed.2.router.isRegistered q = h.router.isRegistered q := rfl
      simp [same]
  | _ => simp [isRegistered_post, isRegistered_amend]

theorem Trail.isRegistered_iff {h h' : Hub σ} {marks : List Mark} (trail : Trail h marks h')
    (q : SessionId) :
    h'.router.isRegistered q = true ↔
      h.router.isRegistered q = true ∧ Mark.ended q ∉ marks := by
  induction trail with
  | still => simp
  | step change _ ih => rw [ih, change.isRegistered_iff, List.mem_append, not_or, and_assoc]

end Hub

end TopoSync
