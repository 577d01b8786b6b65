import Mathlib
import TopoSync.Proofs.Farewells
import TopoSync.Proofs.Hub.Rounds
import TopoSync.Proofs.Locks

/-!
# News of locks

Everybody who has a node open is told when its lock is taken and when it is given back, and everybody
but the holder when the fields change.  A lock looks different to its holder and to the others; the two
frames are one frame and a copy of it with one byte replaced, and nothing else in them differs.
-/

namespace TopoSync

namespace Notification

variable (node : NodeId) (kind other : LockKind) (holder : HolderView)

/-- Two frames about a lock differ in the byte of the lock kind only. -/
theorem getElem?_nodeLocked_of_ne {i : Nat} (elsewhere : i ≠ lockKindOffset) :
    (nodeLocked node kind holder).toFrame.bytes[i]? =
      (nodeLocked node other holder).toFrame.bytes[i]? := by
  rw [← withByte_lockKindOffset node kind other holder, Frame.withByte]
  exact (List.getElem?_set_ne elsewhere.symm).symm

end Notification

namespace OpenNode

/-- The letters that announce a lock to the subscribers of a node, each as the subscriber sees it. -/
def lockNews (node : NodeId) (n : OpenNode) (view : HolderView) : List Letter :=
  n.subscribers.members.map fun v => (v, .nodeLocked node (n.kindFor v) view)

variable {n : OpenNode} {k : Holder} (held : n.holder = some k)

include held

/-- The holder sees a lock of its own, and nobody else does. -/
theorem kindFor_eq_lockedLocal_iff {v : SessionId} :
    n.kindFor v = .lockedLocal ↔ v = k.session := by
  rw [kindFor, held]
  by_cases own : k.session = v
  · simp [own]
  · simp [own, Ne.symm own]

/-- The letters of the loop that hands out one of two frames are those. -/
theorem lockLetters_eq_lockNews (node : NodeId) :
    lockLetters node n.subscribers k = lockNews node n k.view := by
  refine List.map_congr_left fun v _ => ?_
  rw [kindFor, held]
  by_cases own : v = k.session
  · simp [own]
  · simp [own, Ne.symm own]

end OpenNode

theorem recipients_lockNews (node : NodeId) (n : OpenNode) (view : HolderView) :
    (n.lockNews node view).map Prod.fst = n.subscribers.members := by
  rw [OpenNode.lockNews, List.map_map]
  exact List.map_id _

namespace Hub

variable {σ : Type}

theorem unlockLetters_of_held {h : Hub σ} {session : SessionId} {node : NodeId} {n : OpenNode}
    (held : h.heldNode? session node = some n) :
    h.unlockLetters session node = lettersToAll n.subscribers (.nodeUnlocked node) := by
  rw [unlockLetters, held]

/-- A lock is refused, or a subscriber gets the lock of a node that nobody had locked, and the frames
that announce it are sent. -/
theorem lockNode_cases (h : Hub σ) (session : SessionId) (node : NodeId) (now : UInt32) :
    (∃ reason, h.lockNode session node now = (.error reason, h)) ∨
    ∃ s n, h.router.session? session = some s ∧ h.nodes.get? node = some n ∧
      session ∈ n.subscribers ∧ n.holder = none ∧
      let k : Holder := ⟨session, s.login, s.host, now⟩
      let n' := { n with holder := some k }
      lockFrames node n.subscribers k = (n'.lockNews node k.view).map Letter.toFrame ∧
        h.lockNode session node now = (.ok (), (h.putNode node n').post (n'.lockNews node k.view)) := by
  rw [lockNode]
  split
  · exact .inl ⟨_, rfl⟩
  · rename_i n subscribed
    obtain ⟨found, member⟩ := subscribedNode?_eq_some_iff.mp subscribed
    split
    · exact .inl ⟨_, rfl⟩
    · rename_i free
      split
      · exact .inl ⟨_, rfl⟩
      · rename_i s known
        have letters := OpenNode.lockLetters_eq_lockNews
          (n := { n with holder := some ⟨session, s.login, s.host, now⟩ }) rfl node
        have frames := lockFrames_eq_map node n.subscribers ⟨session, s.login, s.host, now⟩
        rw [letters] at frames
        refine .inr ⟨s, n, known, found, member, free, frames, ?_⟩
        dsimp only
        rw [frames]
        rfl

/-- Unlocking a node is refused, or the holder gives the lock back and every subscriber is told. -/
theorem unlockNode_cases [Store σ] (h : Hub σ) (session : SessionId) (node : NodeId) (now : UInt32) :
    (∃ reason, h.apply session now (.unlockNode node) = (.error reason, h)) ∨
    ∃ n, h.nodes.get? node = some n ∧ n.isHeldBy session = true ∧
      let h' := (h.apply session now (.unlockNode node)).2
      h'.nodes = h.nodes.insert node { n with holder := none } ∧
        h.GoesRound (n.subscribers.members.map fun v => (v, .nodeUnlocked node)) h' := by
  cases held : h.heldNode? session node with
  | none => exact .inl ⟨_, unlockNode_of_not_held held⟩
  | some n =>
      obtain ⟨found, holds⟩ := heldNode?_eq_some_iff.mp held
      have posts := h.posts_apply session now (.unlockNode node)
      rw [lettersOf, unlockLetters_of_held held] at posts
      have nodes : (h.unlockNode session node).2.nodes =
          h.nodes.insert node { n with holder := none } := by
        rw [unlockNode, held]
        rfl
      exact .inr ⟨n, found, holds, nodes, posts.goesRound (nodup_lettersToAll _ _)⟩

/-- Closing a node is refused, or a subscriber closes it, and if it holds the lock every subscriber is
told that it gives it back. -/
theorem closeNode_cases [Store σ] (h : Hub σ) (session : SessionId) (node : NodeId) (now : UInt32) :
    (∃ reason, h.apply session now (.closeNode node) = (.error reason, h)) ∨
    ∃ n, h.nodes.get? node = some n ∧ session ∈ n.subscribers ∧
      h.GoesRound
        (if n.isHeldBy session then n.subscribers.members.map fun v => (v, .nodeUnlocked node)
          else [])
        (h.apply session now (.closeNode node)).2 := by
  have posts := h.posts_apply session now (.closeNode node)
  rw [lettersOf] at posts
  cases subscribed : h.subscribedNode? session node with
  | none =>
      refine .inl ⟨.nodeNotOpen session node, ?_⟩
      rw [apply, closeNode, subscribed]
  | some n =>
      obtain ⟨found, member⟩ := subscribedNode?_eq_some_iff.mp subscribed
      rw [subscribed, Option.isSome_some, if_pos rfl] at posts
      refine .inr ⟨n, found, member, ?_⟩
      cases holds : n.isHeldBy session with
      | true =>
          rw [unlockLetters_of_held (heldNode?_eq_some_iff.mpr ⟨found, holds⟩)] at posts
          exact posts.goesRound (nodup_lettersToAll _ _)
      | false =>
          have none : h.heldNode? session node = none := by
            rw [heldNode?, found, Option.filter_some, holds]
            rfl
          rw [unlockLetters, none] at posts
          exact posts.goesRound List.nodup_nil

/-- New fields are refused, or they come from the holder of the lock, and every other subscriber is sent
them. -/
theorem setNode_cases [Store σ] (h : Hub σ) (session : SessionId) (node : NodeId) (fields : NodeFields)
    (now : UInt32) :
    (∃ reason, h.apply session now (.setNode node fields) = (.error reason, h)) ∨
    ∃ n, h.nodes.get? node = some n ∧ n.isHeldBy session = true ∧
      let h' := (h.apply session now (.setNode node fields)).2
      h'.nodes = h.nodes.insert node { n with record := { n.record with fields } } ∧
        h.GoesRound
          ((n.subscribers.members.filter fun v => v ≠ session).map fun v =>
            (v, .nodeUpdated node fields)) h' := by
  cases held : h.heldNode? session node with
  | none => exact .inl ⟨_, setFields_of_not_held held fields⟩
  | some n =>
      obtain ⟨found, holds⟩ := heldNode?_eq_some_iff.mp held
      have effect : h.setFields session node fields = (.ok (), (h.putNode node { n with
          record := { n.record with fields } }).notifyOthers n.subscribers session
            (.nodeUpdated node fields)) := by
        rw [setFields, held]
      have posts := h.posts_apply session now (.setNode node fields)
      rw [lettersOf, deed?, effect] at posts
      dsimp only [Except.toOption, Option.map_some, deedLetters] at posts
      rw [found] at posts
      exact .inr ⟨n, found, holds, congrArg (fun o => o.2.nodes) effect,
        posts.goesRound (nodup_lettersToOthers _ _ _)⟩

end Hub

/-- Whatever state a hub is in, and whoever has a node open: the frame that tells the holder of a lock
about it is the frame for the others with the byte of the lock kind replaced, and no other byte differs,
however long the login and the host of the holder are.  When a session gets the lock, every subscriber
is sent one frame, the one that the encoder makes of the node, the lock as this subscriber sees it then
and the holder; only the session itself sees a lock of its own.  When the holder gives the lock back, by
a request or because it closes the node or ends, every subscriber is sent one frame that says so, the
holder included.  When the holder sets the fields, every other subscriber is sent one frame with them.
Nobody else is sent anything. -/
theorem lock_news {σ : Type} [Store σ] (h : Hub σ) (session : SessionId) (node : NodeId)
    (now : UInt32) :
    (∀ view : HolderView,
      let remote := (Notification.nodeLocked node .lockedRemote view).toFrame
      let own := (Notification.nodeLocked node .lockedLocal view).toFrame
      remote.withByte Notification.lockKindOffset LockKind.lockedLocal.code = own ∧
        own.length = remote.length ∧
        ∀ i, own.bytes[i]? ≠ remote.bytes[i]? ↔ i = Notification.lockKindOffset) ∧
    ((h.apply session now (.lockNode node)).1 = .ok () →
      let h' := (h.apply session now (.lockNode node)).2
      ∃ s n, h.router.session? session = some s ∧ h.nodes.get? node = some n ∧
        session ∈ n.subscribers ∧ n.holder = none ∧
        let k : Holder := ⟨session, s.login, s.host, now⟩
        let n' := { n with holder := some k }
        h'.nodes = h.nodes.insert node n' ∧
          (∀ v, n'.kindFor v = .lockedLocal ↔ v = session) ∧
          Hub.lockFrames node n.subscribers k =
            (n.subscribers.members.map fun v =>
              (v, (Notification.nodeLocked node (n'.kindFor v) k.view).toFrame)) ∧
          h.GoesRound
            (n.subscribers.members.map fun v => (v, .nodeLocked node (n'.kindFor v) k.view)) h') ∧
    ((h.apply session now (.unlockNode node)).1 = .ok () →
      let h' := (h.apply session now (.unlockNode node)).2
      ∃ n, h.nodes.get? node = some n ∧ n.isHeldBy session = true ∧
        h'.nodes = h.nodes.insert node { n with holder := none } ∧
        h.GoesRound (n.subscribers.members.map fun v => (v, .nodeUnlocked node)) h') ∧
    ((h.apply session now (.closeNode node)).1 = .ok () →
      let h' := (h.apply session now (.closeNode node)).2
      ∃ n, h.nodes.get? node = some n ∧ session ∈ n.subscribers ∧
        h.GoesRound
          (if n.isHeldBy session then n.subscribers.members.map fun v => (v, .nodeUnlocked node)
            else []) h') ∧
    ((h.nodesOf session).Nodup ∧
      (∀ node, node ∈ h.nodesOf session ↔ h.ViewsNode session node) ∧
      (h.endSession session).router =
        (h.post ((h.nodesOf session).flatMap fun node =>
          match h.heldNode? session node with
          | none => []
          | some n => n.subscribers.members.map fun v =>
              (v, .nodeUnlocked node))).router.unregister session) ∧
    ∀ fields, (h.apply session now (.setNode node fields)).1 = .ok () →
      let h' := (h.apply session now (.setNode node fields)).2
      ∃ n, h.nodes.get? node = some n ∧ n.isHeldBy session = true ∧
        h'.nodes = h.nodes.insert node { n with record := { n.record with fields } } ∧
        h.GoesRound
          ((n.subscribers.members.filter fun v => v ≠ session).map fun v =>
            (v, .nodeUpdated node fields)) h' := by
  refine ⟨fun view => ⟨rfl, rfl, fun i => ?_⟩, ?_, ?_, ?_, ?_, ?_⟩
  · constructor
    · intro differs
      by_contra elsewhere
      exact differs (Notification.getElem?_nodeLocked_of_ne node _ _ view elsewhere)
    · rintro rfl same
      cases same
  · intro granted h'
    rcases h.lockNode_cases session node now with
      ⟨_, refused⟩ | ⟨s, n, known, found, member, free, frames, effect⟩
    · rw [Hub.apply, refused] at granted
      cases granted
    · have posts : h.Posts _ h' := Hub.posts_of_router (congrArg (fun o => o.2.router) effect)
      refine ⟨s, n, known, found, member, free, congrArg (fun o => o.2.nodes) effect, ?_, ?_, ?_⟩
      · exact fun v => OpenNode.kindFor_eq_lockedLocal_iff (k := ⟨session, s.login, s.host, now⟩) rfl
      · rw [frames, OpenNode.lockNews, List.map_map]
        rfl
      · refine posts.goesRound ?_
        rw [recipients_lockNews]
        exact n.subscribers.nodup_members
  · intro granted h'
    rcases h.unlockNode_cases session node now with ⟨_, refused⟩ | returned
    · rw [refused] at granted
      cases granted
    · exact returned
  · intro granted h'
    rcases h.closeNode_cases session node now with ⟨_, refused⟩ | closed
    · rw [refused] at granted
      cases granted
    · exact closed
  · exact ⟨h.nodup_nodesOf session, fun node => Hub.mem_nodesOf_iff, h.router_endSession session⟩
  · intro fields granted h'
    rcases h.setNode_cases session node fields now with ⟨_, refused⟩ | ⟨n, found, holds, nodes, round⟩
    · rw [refused] at granted
      cases granted
    · exact ⟨n, found, holds, nodes, round⟩

/-- Two sessions have a node open that nobody has locked. -/
def openedTogether : Hub MemoryStore :=
  ((Engine.start mapAndNode 1000).after
    [.event (.connected ⟨1⟩ "a" .staying),
      .event (.connected ⟨2⟩ "b" .staying),
      .event (.data ⟨1⟩ (Frame.build .openNode [.word 5]).bytes 0),
      .event (.data ⟨2⟩ (Frame.build .openNode [.word 5]).bytes 0)]).hub

/-- The first session is told of its own lock and the second one of somebody else's, both are told when
the lock is given back, and the second one of new fields. -/
theorem lock_news_openedTogether :
    let h := openedTogether
    let locked := (h.apply ⟨1⟩ 99 (.lockNode 5)).2
    locked.router.queueOf ⟨1⟩ = h.router.queueOf ⟨1⟩ ++
        [(Notification.nodeLocked 5 .lockedLocal ⟨"", "a", 99⟩).toFrame] ∧
      locked.router.queueOf ⟨2⟩ = h.router.queueOf ⟨2⟩ ++
        [(Notification.nodeLocked 5 .lockedRemote ⟨"", "a", 99⟩).toFrame] ∧
      (locked.apply ⟨1⟩ 0 (.unlockNode 5)).2.router.queueOf ⟨2⟩ =
        locked.router.queueOf ⟨2⟩ ++ [(Notification.nodeUnlocked 5).toFrame] ∧
      (locked.apply ⟨1⟩ 0 (.closeNode 5)).2.router.queueOf ⟨1⟩ =
        locked.router.queueOf ⟨1⟩ ++ [(Notification.nodeUnlocked 5).toFrame] ∧
      (locked.apply ⟨1⟩ 0 (.setNode 5 {})).2.router.queueOf ⟨2⟩ =
        locked.router.queueOf ⟨2⟩ ++ [(Notification.nodeUpdated 5 {}).toFrame] := by
  intro h locked
  have reading : [⟨1⟩, ⟨2⟩].map (fun q : SessionId =>
      (openedTogether.router.listens q,
        (openedTogether.apply ⟨1⟩ 99 (.lockNode 5)).2.router.listens q)) =
          [(true, true), (true, true)] := by decide_cbv
  simp only [List.map_cons, List.map_nil, List.cons.injEq, Prod.mk.injEq, and_true] at reading
  obtain ⟨⟨one, oneThen⟩, two, twoThen⟩ := reading
  obtain ⟨-, lock, -⟩ := lock_news openedTogether ⟨1⟩ 5 99
  obtain ⟨-, -, unlock, close, -, set⟩ := lock_news locked ⟨1⟩ 5 0
  obtain ⟨s, n, known, found, -, -, -, -, -, announced⟩ :=
    lock (show (openedTogether.apply ⟨1⟩ 99 (.lockNode 5)).1 = .ok () by decide_cbv)
  obtain ⟨n₁, found₁, -, -, freed⟩ := unlock (show ((openedTogether.apply ⟨1⟩ 99
    (.lockNode 5)).2.apply ⟨1⟩ 0 (.unlockNode 5)).1 = .ok () by decide_cbv)
  obtain ⟨n₂, found₂, -, left⟩ := close (show ((openedTogether.apply ⟨1⟩ 99
    (.lockNode 5)).2.apply ⟨1⟩ 0 (.closeNode 5)).1 = .ok () by decide_cbv)
  obtain ⟨n₃, found₃, -, -, updated⟩ := set {} (show ((openedTogether.apply ⟨1⟩ 99
    (.lockNode 5)).2.apply ⟨1⟩ 0 (.setNode 5 {})).1 = .ok () by decide_cbv)
  have viewers : (openedTogether.nodes.get? 5).map (fun n => n.subscribers.members) =
      some [⟨1⟩, ⟨2⟩] := by decide_cbv
  have viewersThen : ((openedTogether.apply ⟨1⟩ 99 (.lockNode 5)).2.nodes.get? 5).map
      (fun n => (n.subscribers.members, n.isHeldBy ⟨1⟩)) = some ([⟨1⟩, ⟨2⟩], true) := by decide_cbv
  have named : (openedTogether.router.session? ⟨1⟩).map (fun s => (s.login, s.host)) =
      some ("", "a") := by decide_cbv
  rw [found] at viewers
  rw [known] at named
  have members : n.subscribers.members = [⟨1⟩, ⟨2⟩] := Option.some.inj viewers
  obtain ⟨login, host⟩ := Prod.mk.inj (Option.some.inj named)
  obtain ⟨n', found', same⟩ := Option.map_eq_some_iff.mp viewersThen
  obtain ⟨members', holds⟩ := Prod.mk.inj same
  cases found₁.symm.trans found'
  cases found₂.symm.trans found'
  cases found₃.symm.trans found'
  rw [members, login, host] at announced
  rw [members'] at freed updated
  rw [holds, if_pos rfl, members'] at left
  refine ⟨?_, ?_, ?_, ?_, ?_⟩
  · refine (announced.queues ⟨1⟩).trans ?_
    rw [one]
    rfl
  · refine (announced.queues ⟨2⟩).trans ?_
    rw [two]
    rfl
  · refine (freed.queues ⟨2⟩).trans ?_
    rw [show locked.router.listens ⟨2⟩ = true from twoThen]
    rfl
  · refine (left.queues ⟨1⟩).trans ?_
    rw [show locked.router.listens ⟨1⟩ = true from oneThen]
    rfl
  · refine (updated.queues ⟨2⟩).trans ?_
    rw [show locked.router.listens ⟨2⟩ = true from twoThen]
    rfl

end TopoSync
