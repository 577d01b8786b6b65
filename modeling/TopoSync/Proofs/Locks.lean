import Mathlib
import TopoSync.Proofs.Hub.Untouched
import TopoSync.Proofs.Lifecycle
import TopoSync.Store.Memory

/-!
# Locks exclude others

From the moment a session gets the lock of a node, only four things end it: its holder hands it back
or closes the node, the holder's session ends, or everything is written back.  Up to then the node
stays open under the same lock, whoever else opens it, closes it or disappears, since the holder is
one of its subscribers and keeps it from being written back.
-/

namespace TopoSync

/-- Whether an act takes the lock of a node from its holder. -/
def Act.Releases {σ : Type} [Store σ] (node : NodeId) (holder : SessionId) (h : Hub σ) : Act → Prop
  | answer id now frame =>
      id = holder ∧
        (Request.ofFrame? frame = some (.unlockNode node) ∨
          Request.ofFrame? frame = some (.closeNode node)) ∧
        (h.answerFrame id now frame).1 = .ok ()
  | finish id => id = holder
  | flush => True
  | connect .. | retire .. | buffer .. | clearMarks => False

/-- Whether a request is for the holder of the lock of a node alone. -/
def Request.NeedsLock (node : NodeId) (request : Request) : Prop :=
  request = .unlockNode node ∨ ∃ fields, request = .setNode node fields

namespace OpenNode

theorem isHeldBy_iff {n : OpenNode} {k : Holder} (held : n.holder = some k) {session : SessionId} :
    n.isHeldBy session = true ↔ k.session = session := by
  simp [isHeldBy, held]

end OpenNode

namespace Hub

variable {σ : Type}

/-- Whether a node is open and locked by a subscriber, and has the given fields. -/
def LockedBy (h : Hub σ) (node : NodeId) (k : Holder) (fields : NodeFields) : Prop :=
  ∃ n, h.nodes.get? node = some n ∧ n.holder = some k ∧ k.session ∈ n.subscribers ∧
    n.record.fields = fields

theorem heldNode?_of_free {h : Hub σ} {node : NodeId}
    (free : ∀ n, h.nodes.get? node = some n → n.holder = none) (session : SessionId) :
    h.heldNode? session node = none := by
  refine Option.eq_none_iff_forall_ne_some.mpr fun n holds => ?_
  obtain ⟨found, held⟩ := heldNode?_eq_some_iff.mp holds
  rw [OpenNode.isHeldBy, free n found] at held
  cases held

theorem setFields_of_not_held {h : Hub σ} {session : SessionId} {node : NodeId}
    (missing : h.heldNode? session node = none) (fields : NodeFields) :
    h.setFields session node fields = (.error (.notLockHolder session node), h) := by
  rw [setFields, missing]

theorem unlockNode_of_not_held {h : Hub σ} {session : SessionId} {node : NodeId}
    (missing : h.heldNode? session node = none) :
    h.unlockNode session node = (.error (.notLockHolder session node), h) := by
  rw [unlockNode, missing]

/-- Who gets a lock is a subscriber of a node that was not locked. -/
theorem lockedBy_of_lockNode {h : Hub σ} {session : SessionId} {node : NodeId} {now : UInt32}
    (granted : (h.lockNode session node now).1 = .ok ()) :
    ∃ s n, h.router.session? session = some s ∧ h.nodes.get? node = some n ∧ n.holder = none ∧
      (h.lockNode session node now).2.LockedBy node ⟨session, s.login, s.host, now⟩
        n.record.fields := by
  rw [lockNode] at granted ⊢
  split at granted
  · cases granted
  · rename_i n subscribed
    split at granted
    · cases granted
    · rename_i free
      split at granted
      · cases granted
      · rename_i s known
        obtain ⟨found, member⟩ := subscribedNode?_eq_some_iff.mp subscribed
        refine ⟨s, n, known, found, free, ?_⟩
        exact ⟨_, Table.get?_insert_self _ _ _, rfl, member, rfl⟩

namespace LockedBy

variable {h h' : Hub σ} {node : NodeId} {k : Holder} {fields : NodeFields}

theorem of_get? (locked : h.LockedBy node k fields)
    (same : h'.nodes.get? node = h.nodes.get? node) : h'.LockedBy node k fields := by
  rw [LockedBy, same]
  exact locked

theorem heldNode?_eq_none (locked : h.LockedBy node k fields) {session : SessionId}
    (other : session ≠ k.session) : h.heldNode? session node = none := by
  obtain ⟨n, found, held, _, _⟩ := locked
  refine Option.eq_none_iff_forall_ne_some.mpr fun n' holds => ?_
  obtain ⟨found', held'⟩ := heldNode?_eq_some_iff.mp holds
  obtain rfl : n = n' := Option.some.inj (found.symm.trans found')
  exact other ((OpenNode.isHeldBy_iff held).mp held').symm

/-- Nobody can lock a locked node, not even its holder. -/
theorem lockNode_refused (locked : h.LockedBy node k fields) (session : SessionId) (now : UInt32) :
    ∃ reason, h.lockNode session node now = (.error reason, h) := by
  obtain ⟨n, found, held, _, _⟩ := locked
  rw [lockNode]
  split
  · exact ⟨_, rfl⟩
  · rename_i n' subscribed
    obtain rfl : n = n' :=
      Option.some.inj (found.symm.trans (subscribedNode?_eq_some_iff.mp subscribed).1)
    rw [held]
    exact ⟨_, rfl⟩

theorem setFields (locked : h.LockedBy node k fields) (session : SessionId) (new : NodeFields) :
    h.setFields session node new = (.error (.notLockHolder session node), h) ∨
      session = k.session ∧ (h.setFields session node new).2.LockedBy node k new := by
  by_cases own : session = k.session
  · subst own
    obtain ⟨n, found, held, member, _⟩ := locked
    have holds : h.heldNode? k.session node = some n :=
      heldNode?_eq_some_iff.mpr ⟨found, (OpenNode.isHeldBy_iff held).mpr rfl⟩
    refine .inr ⟨rfl, ?_⟩
    rw [Hub.setFields, holds]
    exact ⟨_, Table.get?_insert_self _ _ _, held, member, rfl⟩
  · exact .inl (setFields_of_not_held (locked.heldNode?_eq_none own) new)

variable [Store σ]

theorem openNode (locked : h.LockedBy node k fields) (session : SessionId) :
    (h.openNode session node).2.LockedBy node k fields := by
  obtain ⟨n, found, held, member, same⟩ := locked
  rcases h.openNode_cases session node with ⟨_, closed, _, _⟩ | ⟨_, closed, _, _⟩ |
    ⟨n', found', joined⟩ | ⟨_, _, closed, _, _⟩
  · exact nomatch found.symm.trans closed
  · exact nomatch found.symm.trans closed
  · obtain rfl : n = n' := Option.some.inj (found.symm.trans found')
    rw [joined]
    exact ⟨_, Table.get?_insert_self _ _ _, held, Roster.mem_insert.mpr (.inr member), same⟩
  · exact nomatch found.symm.trans closed

/-- Another session that closes the node leaves its holder behind. -/
theorem closeNode_self (locked : h.LockedBy node k fields) {session : SessionId}
    (other : session ≠ k.session) : (h.closeNode session node).2.LockedBy node k fields := by
  rw [Hub.closeNode, unlockNode_of_not_held (locked.heldNode?_eq_none other)]
  obtain ⟨n, found, held, member, same⟩ := locked
  split
  · exact ⟨n, found, held, member, same⟩
  · have stays : k.session ∈ n.subscribers.erase session :=
      Roster.mem_erase.mpr ⟨member, other.symm⟩
    have others : (n.subscribers.erase session).isEmpty = false :=
      Roster.isEmpty_eq_false_iff.mpr ⟨_, stays⟩
    simp only [leaveNode, found, others]
    exact ⟨_, Table.get?_insert_self _ _ _, held, stays, same⟩

theorem closeNode (locked : h.LockedBy node k fields) {session : SessionId}
    (other : session ≠ k.session) (q : NodeId) :
    (h.closeNode session q).2.LockedBy node k fields := by
  by_cases here : q = node
  · exact here ▸ locked.closeNode_self other
  · exact locked.of_get? ((sameBut_closeNode h session q).nodes node (by simpa using here))

theorem closeNodes (locked : h.LockedBy node k fields) {session : SessionId}
    (other : session ≠ k.session) (nodes : List NodeId) :
    (h.closeNodes session nodes).LockedBy node k fields := by
  induction nodes generalizing h with
  | nil => exact locked
  | cons q rest ih => exact ih (locked.closeNode other q)

/-- The lock survives the end of any session but its holder's. -/
theorem endSession (locked : h.LockedBy node k fields) {session : SessionId}
    (other : session ≠ k.session) : (h.endSession session).LockedBy node k fields := by
  have kept : (h.releaseMaps session).2.LockedBy node k fields :=
    locked.of_get? (get?_nodes_closeMaps h session _ node)
  exact kept.closeNodes other _

/-- A request leaves the lock as it is, unless the holder gives it up, and the fields as well, unless
the holder replaces them. -/
theorem apply (locked : h.LockedBy node k fields) {session : SessionId} {now : UInt32}
    {request : Request}
    (keeps : ¬ (session = k.session ∧ (request = .unlockNode node ∨ request = .closeNode node) ∧
      (h.apply session now request).1 = .ok ())) :
    (h.apply session now request).2.LockedBy node k fields ∨
      ∃ new, session = k.session ∧ request = .setNode node new ∧
        (h.apply session now request).2.LockedBy node k new := by
  by_cases here : request.node? = some node
  · cases request with
    | openNode q =>
        cases here
        exact .inl (locked.openNode session)
    | closeNode q =>
        cases here
        by_cases own : session = k.session
        · rw [Hub.apply, Hub.closeNode] at keeps ⊢
          split
          · exact .inl locked
          · rename_i n subscribed
            exact absurd ⟨own, .inr rfl, by rw [subscribed]⟩ keeps
        · exact .inl (locked.closeNode_self own)
    | setNode q new =>
        cases here
        rcases locked.setFields session new with refused | ⟨own, replaced⟩
        · rw [Hub.apply, refused]
          exact .inl locked
        · exact .inr ⟨new, own, rfl, replaced⟩
    | lockNode q =>
        cases here
        obtain ⟨reason, refused⟩ := locked.lockNode_refused session now
        rw [Hub.apply, refused]
        exact .inl locked
    | unlockNode q =>
        cases here
        cases holds : h.heldNode? session node with
        | none =>
            rw [Hub.apply, unlockNode_of_not_held holds]
            exact .inl locked
        | some n =>
            have own : session = k.session := by
              refine Classical.byContradiction fun other => ?_
              rw [locked.heldNode?_eq_none other] at holds
              cases holds
            exact absurd ⟨own, .inl rfl, by rw [Hub.apply, unlockNode, holds]⟩ keeps
    | _ => cases here
  · exact .inl (locked.of_get? ((sameBut_apply h session now request).nodes node here))

/-- So does an act that does not release the lock. -/
theorem perform (locked : h.LockedBy node k fields) {a : Act}
    (keeps : ¬ a.Releases node k.session h) :
    (h.perform a).LockedBy node k fields ∨
      ∃ now frame new, a = .answer k.session now frame ∧
        Request.ofFrame? frame = some (.setNode node new) ∧
        (h.perform a).LockedBy node k new := by
  cases a with
  | connect id host reader => exact .inl locked
  | retire id after => exact .inl locked
  | buffer id rest => exact .inl locked
  | clearMarks => exact .inl locked
  | flush => exact absurd trivial keeps
  | finish id => exact .inl (locked.endSession keeps)
  | answer id now frame =>
      have effect := h.answerFrame_eq id now frame
      rw [Hub.perform, effect]
      cases asked : Request.ofFrame? frame with
      | none => exact .inl locked
      | some request =>
          obtain ⟨command, answer⟩ := answerFrame_of_ofFrame? (σ := σ) asked
          have same : (h.answerFrame id now frame).1 =
              (h.apply id now request).1.mapError (.refused command) := by
            rw [answer]
          have keeping : ¬ (id = k.session ∧
              (request = .unlockNode node ∨ request = .closeNode node) ∧
              (h.apply id now request).1 = .ok ()) := by
            rintro ⟨own, giving, accepted⟩
            refine keeps ⟨own, ?_, by rw [same, accepted]; rfl⟩
            rw [asked]
            exact giving.imp (congrArg some) (congrArg some)
          rcases locked.apply keeping with kept | ⟨new, own, setting, replaced⟩
          · exact .inl kept
          · exact .inr ⟨now, frame, new, by rw [own], by rw [asked, setting], replaced⟩

/-- The lock survives any row of acts that do not release it. -/
theorem performAll {acts : List Act} (locked : h.LockedBy node k fields)
    (keeps : Along (fun h a => ¬ a.Releases node k.session h) h acts) :
    ∃ fields', (h.performAll acts).LockedBy node k fields' :=
  performAll_keeps (Q := fun h => ∃ fields, h.LockedBy node k fields)
    (fun h a keep ⟨fields, locked⟩ => by
      rcases locked.perform keep with kept | ⟨_, _, new, _, _, replaced⟩
      · exact ⟨fields, kept⟩
      · exact ⟨new, replaced⟩)
    keeps ⟨fields, locked⟩

end LockedBy

variable [Store σ]

/-- Without the lock of a node, what is for its holder alone is rejected. -/
theorem rejects_of_not_held {h : Hub σ} {session : SessionId} {node : NodeId} {now : UInt32}
    {frame : Bytes} {request : Request} (missing : h.heldNode? session node = none)
    (asked : Request.ofFrame? frame = some request) (needs : request.NeedsLock node) :
    h.Rejects session now frame := by
  rcases needs with rfl | ⟨fields, rfl⟩
  · exact rejects_of_apply asked (unlockNode_of_not_held missing)
  · exact rejects_of_apply asked (setFields_of_not_held missing fields)

end Hub

/-- Once a session of a run has got the lock of a node, up to its release: the node stays open and
locked by the same session, under the name and host that the session had and since the time at which it
asked; everybody's request for the lock is rejected without effect, and so is everything that
others ask for that needs the lock; and whatever is done next leaves the fields as they are unless it
is the holder's request to replace them.  As long as a node is not locked, whatever needs its lock is
rejected without effect. -/
theorem lock_excludes_others {σ : Type} [Store σ] (store : σ) (maxFrameSize : Nat)
    (moves : List Move) (node : NodeId) :
    let start := (Engine.start store maxFrameSize).hub
    (∀ done session now frame since rest,
      (Engine.start store maxFrameSize).acts moves =
        done ++ .answer session now frame :: (since ++ rest) →
      Request.ofFrame? frame = some (.lockNode node) →
      ((start.performAll done).answerFrame session now frame).1 = .ok () →
      Hub.Along (fun h a => ¬ a.Releases node session h)
        (start.performAll (done ++ [.answer session now frame])) since →
      ∃ s fields, (start.performAll done).router.session? session = some s ∧
        let h := start.performAll (done ++ .answer session now frame :: since)
        let holder : Holder := ⟨session, s.login, s.host, now⟩
        h.LockedBy node holder fields ∧
        (∀ q later other, Request.ofFrame? other = some (.lockNode node) → h.Rejects q later other) ∧
        (∀ q later other request, q ≠ session → Request.ofFrame? other = some request →
          request.NeedsLock node → h.Rejects q later other) ∧
        ∀ a, ¬ a.Releases node session h →
          (h.perform a).LockedBy node holder fields ∨
          ∃ later setting new, a = .answer session later setting ∧
            Request.ofFrame? setting = some (.setNode node new) ∧
            (h.perform a).LockedBy node holder new) ∧
    ∀ done rest, (Engine.start store maxFrameSize).acts moves = done ++ rest →
      (∀ n, (start.performAll done).nodes.get? node = some n → n.holder = none) →
      ∀ q now frame request, Request.ofFrame? frame = some request → request.NeedsLock node →
        (start.performAll done).Rejects q now frame := by
  intro start
  constructor
  · intro done session now frame since rest _ asked granted kept
    obtain ⟨command, answer⟩ := Hub.answerFrame_of_ofFrame? (σ := σ) asked
    have allowed : ((start.performAll done).lockNode session node now).1 = .ok () := by
      rw [answer] at granted
      rcases verdict : ((start.performAll done).lockNode session node now).1 with reason | _
      · rw [Hub.apply, verdict] at granted
        cases granted
      · rfl
    obtain ⟨s, n, known, _, _, locked⟩ := Hub.lockedBy_of_lockNode allowed
    have after : start.performAll (done ++ [.answer session now frame]) =
        ((start.performAll done).lockNode session node now).2 := by
      rw [Hub.performAll_append, Hub.performAll_cons, Hub.performAll_nil, Hub.perform, answer]
      rfl
    rw [after] at kept
    obtain ⟨fields, locked⟩ := locked.performAll kept
    rw [← after, ← Hub.performAll_append, List.append_assoc] at locked
    refine ⟨s, fields, known, locked, ?_, ?_, ?_⟩
    · intro q later other asking
      obtain ⟨reason, refused⟩ := locked.lockNode_refused q later
      exact Hub.rejects_of_apply asking refused
    · intro q later other request different asking needs
      exact Hub.rejects_of_not_held (locked.heldNode?_eq_none different) asking needs
    · exact fun a keeps => locked.perform keeps
  · intro done rest _ free q now frame request asked needs
    exact Hub.rejects_of_not_held (Hub.heldNode?_of_free free q) asked needs

/-- Two sessions have a node open; the second locks it, and the first closes it and disconnects. -/
def lockedAndLeft : List Move :=
  [.event (.connected ⟨1⟩ "a" .staying),
    .event (.connected ⟨2⟩ "b" .staying),
    .event (.data ⟨1⟩ (Frame.build .openNode [.word 5]).bytes 0),
    .event (.data ⟨2⟩ (Frame.build .openNode [.word 5]).bytes 0),
    .event (.data ⟨2⟩ (Frame.build .lockNode [.word 5]).bytes 99),
    .event (.data ⟨1⟩ (Frame.build .closeNode [.word 5]).bytes 100),
    .event (.disconnected ⟨1⟩)]

theorem lock_excludes_others_lockedAndLeft :
    let store := MemoryStore.insertNode {} 5 { fields := { name := "switch" } }
    ∃ fields, ((Engine.start store 1000).after lockedAndLeft).hub.LockedBy 5
        ⟨⟨2⟩, "", "b", 99⟩ fields ∧
      ((Engine.start store 1000).after lockedAndLeft).hub.Rejects ⟨1⟩ 101
        (Frame.build .unlockNode [.word 5]).bytes := by
  intro store
  let opening := (Frame.build .openNode [.word 5]).bytes
  let closing := (Frame.build .closeNode [.word 5]).bytes
  let done : List Act :=
    [.connect ⟨1⟩ "a" .staying, .connect ⟨2⟩ "b" .staying,
      .buffer ⟨1⟩ [], .answer ⟨1⟩ 0 opening, .clearMarks,
      .buffer ⟨2⟩ [], .answer ⟨2⟩ 0 opening, .clearMarks, .buffer ⟨2⟩ []]
  let since : List Act :=
    [.clearMarks, .buffer ⟨1⟩ [], .answer ⟨1⟩ 100 closing, .clearMarks, .finish ⟨1⟩]
  obtain ⟨locks, _⟩ := lock_excludes_others store 1000 lockedAndLeft 5
  have run : (Engine.start store 1000).acts lockedAndLeft =
      done ++ .answer ⟨2⟩ 99 (Frame.build .lockNode [.word 5]).bytes :: (since ++ []) := by
    decide_cbv
  obtain ⟨s, fields, known, locked, _, others, _⟩ := locks done ⟨2⟩ 99 _ since [] run
    (by decide_cbv) (by cbv)
    ⟨not_false, not_false, fun release => absurd release.1 (by decide), not_false,
      (by decide : (⟨1⟩ : SessionId) ≠ ⟨2⟩), trivial⟩
  have login : ((Engine.start store 1000).hub.performAll done).router.session? ⟨2⟩ =
      some { id := ⟨2⟩, host := "b" } := by decide_cbv
  cases known.symm.trans login
  rw [Engine.hub_after, run, List.append_nil]
  exact ⟨fields, locked, others ⟨1⟩ 101 _ (.unlockNode 5) (by decide) (by decide_cbv) (.inl rfl)⟩

end TopoSync
