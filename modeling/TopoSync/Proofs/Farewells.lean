import Mathlib
import TopoSync.Proofs.Hub.Cascades
import TopoSync.Proofs.Hub.Ending
import TopoSync.Store.Memory

/-!
# Complete teardown

A session that ends while everybody else reads on leaves nothing of itself behind and changes nothing
else: what only it had open is saved once and is open no more, everything else that was open stays
open for the others, and they are told of the locks that it held.
-/

namespace TopoSync

namespace Hub

variable {σ : Type}

/-- The frames by which a session learns that the locks of another one are free: one for each node
whose lock the other one holds, among those that the session itself has open. -/
def unlockFrames (h : Hub σ) (holder viewer : SessionId) : List Frame :=
  (h.nodes.entries.filter fun e => e.2.isHeldBy holder && decide (viewer ∈ e.2.subscribers)).map
    fun e => (Notification.nodeUnlocked e.1).toFrame

theorem addressed_unlockLetters (h : Hub σ) (holder viewer : SessionId) (node : NodeId) :
    addressed viewer (h.unlockLetters holder node) =
      (((h.nodes.get? node).filter fun n =>
        n.isHeldBy holder && decide (viewer ∈ n.subscribers)).map
          fun _ => Notification.nodeUnlocked node).toList := by
  rw [unlockLetters, heldNode?]
  cases h.nodes.get? node with
  | none => rfl
  | some n =>
      rw [Option.filter_some, Option.filter_some]
      cases held : n.isHeldBy holder with
      | false => rfl
      | true =>
          show addressed viewer (lettersToAll n.subscribers (.nodeUnlocked node)) = _
          rw [addressed_lettersToAll]
          by_cases member : viewer ∈ n.subscribers <;> simp [member]

/-- Of the letters at the end of a session, another one gets those about the locks that it sees. -/
theorem addressed_farewell {h : Hub σ} (ok : h.Orderly) (id q : SessionId) :
    addressed q ((h.farewell id).map Letter.toFrame) = h.unlockFrames id q := by
  have among : ∀ node n, h.nodes.get? node = some n →
      (n.isHeldBy id && decide (q ∈ n.subscribers)) = true → decide (id ∈ n.subscribers) = true := by
    intro node n found both
    obtain ⟨holder, locked, same⟩ : ∃ k, n.holder = some k ∧ k.session = id := by
      have held := (Bool.and_eq_true_iff.mp both).1
      simpa [OpenNode.isHeldBy, Option.any_eq_true] using held
    have member := ok.holder_views node n holder found locked
    rw [same] at member
    exact decide_eq_true member
  have each : ∀ nodes : List NodeId,
      addressed q (nodes.flatMap (h.unlockLetters id)) =
        nodes.filterMap fun node => ((h.nodes.get? node).filter fun n =>
          n.isHeldBy id && decide (q ∈ n.subscribers)).map
            fun _ => Notification.nodeUnlocked node := by
    intro nodes
    induction nodes with
    | nil => rfl
    | cons node rest ih =>
        rw [List.flatMap_cons, addressed_append, ih, addressed_unlockLetters]
        cases found : (h.nodes.get? node).filter fun n =>
          n.isHeldBy id && decide (q ∈ n.subscribers) <;> simp [found]
  have frames := addressed_map q Notification.toFrame (h.farewell id)
  rw [farewell, each, nodesOf,
    h.nodes.filterMap_get? (q := fun n => decide (id ∈ n.subscribers)) among fun node _ =>
      Notification.nodeUnlocked node,
    List.map_map] at frames
  exact frames

variable [Store σ]

/-- Nobody else is marked when a session ends whose farewell everybody takes. -/
theorem failed_endSession {h : Hub σ} (ok : h.Orderly) (clear : h.router.failed = [])
    {id : SessionId}
    (reading : ∀ q s, q ≠ id → h.router.session? q = some s →
      s.reader.taken (h.unlockFrames id q) = h.unlockFrames id q) :
    (h.endSession id).router.failed = [] := by
  rw [router_endSession]
  refine List.filter_eq_nil_iff.mpr fun q marked apart => ?_
  have apart : q ≠ id := by simpa using apart
  rcases Router.mem_failed_deliver.mp marked with before | ⟨missed, known⟩
  · rw [clear] at before
    cases before
  · obtain ⟨s, known⟩ := Router.isRegistered_iff_exists.mp known
    have missing := (Router.mem_missed_iff known).mp missed
    rw [addressed_farewell ok] at missing
    exact missing (reading q s apart known)

/-- What becomes of a session, of another one and of its queue when the first one ends. -/
theorem session?_endSession {h : Hub σ} (ok : h.Orderly) (id q : SessionId) :
    (h.endSession id).router.session? q =
      if q = id then none
      else (h.router.session? q).map fun s => s.spend (h.unlockFrames id q).length := by
  rw [router_endSession, Router.session?_unregister]
  congr 1
  rw [post, Router.session?_deliver, addressed_farewell ok]

theorem queueOf_endSession {h : Hub σ} (ok : h.Orderly) (id q : SessionId) :
    (h.endSession id).router.queueOf q =
      h.router.queueOf q ++
        ((h.router.session? q).map fun s => s.reader.taken (h.unlockFrames id q)).getD [] := by
  have sent : (h.endSession id).router.sent = (h.post (h.farewell id)).router.sent := by
    rw [router_endSession]
    rfl
  rw [Router.queueOf_eq_addressed, sent, post, Router.addressed_sent_deliver,
    addressed_farewell ok, ← Router.queueOf_eq_addressed]

omit [Store σ] in
/-- Who is not connected has no locks to be told of. -/
theorem unlockFrames_of_not_registered {h : Hub σ} (ok : h.Orderly) {q : SessionId}
    (unknown : h.router.session? q = none) (id : SessionId) : h.unlockFrames id q = [] := by
  rw [unlockFrames, List.map_eq_nil_iff]
  refine List.filter_eq_nil_iff.mpr fun e member sees => ?_
  have sees : q ∈ e.2.subscribers := of_decide_eq_true (Bool.and_eq_true_iff.mp sees).2
  have known := ok.node_known e.1 e.2 q (Table.mem_entries_iff.mp member) sees
  rw [Router.isRegistered_eq_isSome, unknown] at known
  cases known

/-- A session is ended alone if nobody is marked meanwhile. -/
theorem disconnect_of_unmarked {h : Hub σ} {id : SessionId}
    (known : h.router.isRegistered id = true) (clear : (h.endSession id).router.failed = []) :
    h.disconnect id = h.endSession id := by
  have none : (h.endSession id).takeFailed.1 = [] := clear
  rw [disconnect, endSessions_of_registered known, none, List.nil_append, endSessions_nil,
    takeFailed_of_unmarked clear]

end Hub

/-- A connected session that ends at any moment of a run, while every other one takes what it is told,
is gone: it is not connected, has nothing open and holds no lock.  What only it had open is not open
any more and was saved once, as it was; everything else is open for the others, with its contents and
their locks.  The other sessions are as they were and get one frame for each lock of the session that
they see, and nothing else. -/
theorem disconnect_of_run {σ : Type} [Store σ] (store : σ) (maxFrameSize : Nat)
    (moves : List Move) (id : SessionId)
    (known : ((Engine.start store maxFrameSize).after moves).hub.router.isRegistered id = true)
    (reading : ∀ q s, q ≠ id →
      ((Engine.start store maxFrameSize).after moves).hub.router.session? q = some s →
      s.reader.taken (((Engine.start store maxFrameSize).after moves).hub.unlockFrames id q) =
        ((Engine.start store maxFrameSize).after moves).hub.unlockFrames id q) :
    let h := ((Engine.start store maxFrameSize).after moves).hub
    let h' := (((Engine.start store maxFrameSize).after moves).disconnect id).hub
    (h'.router.isRegistered id = false ∧ (∀ map, ¬ h'.ViewsMap id map) ∧
      (∀ node, ¬ h'.ViewsNode id node) ∧
      ∀ node n, h'.nodes.get? node = some n → n.isHeldBy id = false) ∧
    (∀ map, h'.maps.get? map =
      (h.maps.get? map).bind fun m =>
        if m.subscribers.members = [id] then none
        else some { m with subscribers := m.subscribers.erase id }) ∧
    (∀ node, h'.nodes.get? node =
      (h.nodes.get? node).bind fun n =>
        if n.subscribers.members = [id] then none
        else some { n with
          holder := n.holder.filter fun k => k.session ≠ id
          subscribers := n.subscribers.erase id }) ∧
    h'.store =
      Store.saveNodes
        (Store.saveMaps h.store (h.diagramsWhere fun m => m.subscribers.members = [id]))
        (h.fieldsWhere fun n => n.subscribers.members = [id]) ∧
    (((h.diagramsWhere fun m => m.subscribers.members = [id]).map Prod.fst).Nodup ∧
      ((h.fieldsWhere fun n => n.subscribers.members = [id]).map Prod.fst).Nodup) ∧
    ∀ q, q ≠ id →
      h'.router.session? q =
        (h.router.session? q).map (fun s => s.spend (h.unlockFrames id q).length) ∧
      h'.router.queueOf q = h.router.queueOf q ++ h.unlockFrames id q := by
  intro h h'
  have ok : h.Orderly := Engine.orderly_after (Hub.Orderly.start store) moves
  have clear : h.router.failed = [] := Engine.failed_after rfl moves
  have ended : h' = h.endSession id :=
    Hub.disconnect_of_unmarked known (Hub.failed_endSession ok clear reading)
  have okAfter : h'.Orderly := Engine.orderly_after ok [.event (.disconnected id)]
  have unknown : h'.router.isRegistered id = false := by
    rw [ended, Router.isRegistered_eq_isSome, Hub.session?_endSession ok, if_pos rfl]
    rfl
  refine ⟨⟨unknown, okAfter.empty_handed unknown⟩, ?_, ?_, ?_,
    ⟨h.nodup_diagramsWhere _, h.nodup_fieldsWhere _⟩, ?_⟩
  · intro map
    rw [ended, Hub.get?_maps_endSession id ok]
    cases found : h.maps.get? map with
    | none => rfl
    | some m => exact OpenMap.without?_of_viewed (ok.map_viewed map m found) id
  · intro node
    rw [ended, Hub.get?_nodes_endSession id ok]
    cases found : h.nodes.get? node with
    | none => rfl
    | some n => exact OpenNode.without?_of_viewed (ok.node_viewed node n found) id
  · rw [ended]
    exact h.store_endSession id
  · intro q apart
    constructor
    · rw [ended, Hub.session?_endSession ok, if_neg apart]
    · rw [ended, Hub.queueOf_endSession ok]
      cases here : h.router.session? q with
      | none => rw [Hub.unlockFrames_of_not_registered ok here]; rfl
      | some s => rw [Option.map_some, Option.getD_some, reading q s apart here]

/-- A store with an empty map and a node. -/
def mapAndNode : MemoryStore :=
  (MemoryStore.insertMap {} 1 "plan" {}).insertNode 5 { fields := { name := "switch" } }

/-- Two sessions have a node open that the first has locked; a map is open for the first alone. -/
def lockedTogether : Hub MemoryStore :=
  ((Engine.start mapAndNode 1000).after
    [.event (.connected ⟨1⟩ "a" .staying),
      .event (.connected ⟨2⟩ "b" (.leaving 3)),
      .event (.data ⟨1⟩ (Frame.build .openMap [.signed 1]).bytes 0),
      .event (.data ⟨1⟩ (Frame.build .openNode [.word 5]).bytes 0),
      .event (.data ⟨2⟩ (Frame.build .openNode [.word 5]).bytes 0),
      .event (.data ⟨1⟩ (Frame.build .lockNode [.word 5]).bytes 99)]).hub

theorem disconnect_of_run_lockedTogether :
    (lockedTogether.router.isRegistered ⟨1⟩ = true ∧
      ∀ q s, q ≠ ⟨1⟩ → lockedTogether.router.session? q = some s →
        s.reader.taken (lockedTogether.unlockFrames ⟨1⟩ q) = lockedTogether.unlockFrames ⟨1⟩ q) ∧
    (lockedTogether.disconnect ⟨1⟩).router.isRegistered ⟨1⟩ = false ∧
    (lockedTogether.disconnect ⟨1⟩).maps.get? 1 = none ∧
    (lockedTogether.disconnect ⟨1⟩).store.mapSaveCount 1 = 1 ∧
    (lockedTogether.disconnect ⟨1⟩).router.queueOf ⟨2⟩ =
      lockedTogether.router.queueOf ⟨2⟩ ++ [(Notification.nodeUnlocked 5).toFrame] := by
  have known : lockedTogether.router.isRegistered ⟨1⟩ = true := by decide_cbv
  have readers : (lockedTogether.router.sessions.entries.map fun entry =>
      (entry.1, entry.2.reader)) = [(⟨1⟩, .staying), (⟨2⟩, .leaving 1)] := by decide_cbv
  have frames : lockedTogether.unlockFrames ⟨1⟩ ⟨2⟩ = [(Notification.nodeUnlocked 5).toFrame] := by
    decide_cbv
  have reading : ∀ q s, q ≠ ⟨1⟩ → lockedTogether.router.session? q = some s →
      s.reader.taken (lockedTogether.unlockFrames ⟨1⟩ q) = lockedTogether.unlockFrames ⟨1⟩ q := by
    intro q s apart found
    have member := List.mem_map_of_mem
      (f := fun entry : SessionId × Session => (entry.1, entry.2.reader))
      (Table.mem_entries_iff.mpr found)
    rw [readers] at member
    obtain ⟨rfl, reader⟩ : q = ⟨2⟩ ∧ s.reader = .leaving 1 := by simpa [apart] using member
    rw [reader, frames]
    rfl
  obtain ⟨⟨gone, _⟩, maps, _, saved, _, others⟩ :=
    disconnect_of_run mapAndNode 1000 _ ⟨1⟩ known reading
  have opened : lockedTogether.maps.get? 1 = some ⟨{}, Roster.insert ∅ ⟨1⟩⟩ := by decide_cbv
  have counted : (Store.saveNodes
      (Store.saveMaps lockedTogether.store
        (lockedTogether.diagramsWhere fun m => m.subscribers.members = [⟨1⟩]))
      (lockedTogether.fieldsWhere fun n => n.subscribers.members = [⟨1⟩])).mapSaveCount 1 = 1 := by
    decide_cbv
  refine ⟨⟨known, reading⟩, gone, ?_, ?_, ?_⟩
  · exact (maps 1).trans (congrArg (fun m => Option.bind m _) opened)
  · exact (congrArg (fun store => MemoryStore.mapSaveCount store 1) saved).trans counted
  · exact (others ⟨2⟩ (by decide)).2.trans (congrArg _ frames)

end TopoSync
