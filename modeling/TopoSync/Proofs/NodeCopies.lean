import Mathlib
import TopoSync.Proofs.Copies
import TopoSync.Store.Memory

/-!
# Copies of nodes

A session that has a node open sees its lock in its own way: held by itself, held by somebody else,
or free.  It starts from the snapshot that answers its request to open the node and follows the
announcements of locks and of new fields; its own new fields count when they are accepted.  What it
has then is what the hub would show it.
-/

namespace TopoSync

/-- A node as one session sees it. -/
structure NodeView where
  kind : LockKind
  holder : Option HolderView
  record : NodeRecord
deriving DecidableEq, Repr

/-- An open node as a session is supposed to see it. -/
def OpenNode.viewFor (viewer : SessionId) (n : OpenNode) : NodeView :=
  ⟨n.kindFor viewer, n.holder.map Holder.view, n.record⟩

/-- A view of a node whose fields are replaced. -/
def NodeView.withFields (v : NodeView) (fields : NodeFields) : NodeView :=
  { v with record := { v.record with fields } }

/-- A copy of a node after one more sight. -/
def seeNode (node : NodeId) (copy : Option NodeView) : Sight Notification → Option NodeView
  | .deed (.edited ..) => copy
  | .deed (.fieldsSet written fields) =>
      if written = node then copy.map fun v => v.withFields fields else copy
  | .told (.nodeSnapshot opened kind holder record) =>
      if opened = node then some ⟨kind, holder, record⟩ else copy
  | .told (.nodeUpdated written fields) =>
      if written = node then copy.map fun v => v.withFields fields else copy
  | .told (.nodeLocked locked kind holder) =>
      if locked = node then copy.map fun v => { v with kind, holder := some holder } else copy
  | .told (.nodeUnlocked freed) =>
      if freed = node then copy.map fun v => { v with kind := .unlocked, holder := none } else copy
  | .told (.mapList _) | .told (.mapSnapshot ..) | .told (.symbolRenamed ..)
  | .told (.symbolAdded ..) | .told (.symbolDeleted ..) | .told (.symbolTranslated ..)
  | .told (.connectionRenamed ..) | .told (.connectionAdded ..) | .told (.connectionDeleted ..)
  | .told (.nodeMissing _) => copy

/-- The copy of a node that a session has, given everything that it saw. -/
def nodeCopy : NodeId → List (Sight Notification) → Option NodeView :=
  copyOf seeNode

/-- What was seen before a snapshot of the node does not matter. -/
theorem nodeCopy_snapshot (node : NodeId) (before later : List (Sight Notification))
    (kind : LockKind) (holder : Option HolderView) (record : NodeRecord) :
    nodeCopy node (before ++ .told (.nodeSnapshot node kind holder record) :: later) =
      later.foldl (seeNode node) (some ⟨kind, holder, record⟩) := by
  rw [nodeCopy, copyOf_append, List.foldl_cons, seeNode, if_pos rfl]

/-- An edit of a map shows nothing of nodes. -/
theorem foldl_seeNode_edited (viewer origin : SessionId) (members : Roster) (map : MapId)
    (edit : Edit) (old : ElementId) (node : NodeId) (copy : Option NodeView) :
    (shown viewer (.deed origin (.edited map edit) ::
        (edit.letters map members origin old).map .letter)).foldl (seeNode node) copy = copy := by
  rw [shown_cons, shown_letters, Edit.addressed_letters, List.foldl_append, Mark.shownTo]
  have deed : (if origin = viewer then [Sight.deed (.edited map edit)] else []).foldl
      (seeNode node) copy = copy :=
    foldl_see_of_unconcerned (fun _ => rfl) _ _
  rw [deed]
  split
  · cases edit <;> rfl
  · split
    · cases edit <;> rfl
    · rfl

/-- New fields are shown once to whoever writes them and to every subscriber. -/
theorem foldl_seeNode_fieldsSet (viewer origin : SessionId) (members : Roster)
    (node written : NodeId) (fields : NodeFields) (copy : Option NodeView) :
    (shown viewer (.deed origin (.fieldsSet written fields) ::
        (lettersToOthers members origin (.nodeUpdated written fields)).map .letter)).foldl
        (seeNode node) copy =
      if (origin = viewer ∨ viewer ∈ members) ∧ written = node then
        copy.map fun v => v.withFields fields
      else copy := by
  rw [shown_cons, shown_letters, addressed_lettersToOthers, List.foldl_append, Mark.shownTo]
  by_cases own : origin = viewer
  · subst own
    simp [seeNode]
  · by_cases views : viewer ∈ members
    · simp [own, Ne.symm own, views, seeNode]
    · simp [own, views]

namespace Hub

variable {σ : Type} {viewer : SessionId} {h : Hub σ} {seen : List (Sight Notification)}

/-- Whether a session has a copy of every node that it has open. -/
def CopiesNodes (viewer : SessionId) (h : Hub σ) (seen : List (Sight Notification)) : Prop :=
  Copied seeNode OpenNode.subscribers (OpenNode.viewFor viewer) viewer h.nodes seen

variable [Store σ]

/-- Every change of the hub is followed by the copies. -/
theorem Change.copiesNodes {h' : Hub σ} {marks : List Mark} (change : Change h marks h')
    (copies : CopiesNodes viewer h seen) : CopiesNodes viewer h' (seen ++ shown viewer marks) := by
  rw [CopiesNodes] at copies ⊢
  cases change with
  | consulted asked => exact copies.pass fun _ _ => rfl
  | amended id f keeps => exact copies.pass fun _ _ => rfl
  | marksCleared => exact copies.pass fun _ _ => rfl
  | sessionEnded session noMap noNode => exact copies.pass fun _ _ => rfl
  | mapsListed session listed =>
      exact copies.pass_letter fun _ _ => rfl
  | mapJoined session map m real known found =>
      exact copies.pass_letter fun _ _ => rfl
  | mapLoaded session map real known closed loaded =>
      exact copies.pass_letter fun _ _ => rfl
  | mapEdited session map m edit old found member fits =>
      apply copies.pass
      exact foldl_seeNode_edited viewer session m.subscribers map edit old
  | mapLeft session map m found member others => exact copies.pass fun _ _ => rfl
  | mapGivenUp session map m found member last =>
      rw [nodes_writeBackMap]
      exact copies.pass fun _ _ => rfl
  | mapFlushed map =>
      rw [nodes_writeBackMap]
      exact copies.pass fun _ _ => rfl
  | nodeMissed session node closed missing =>
      exact copies.pass_letter fun _ _ => rfl
  | nodeJoined session node n known found =>
      apply copies.join
      · rfl
      · rintro rfl _
        exact if_pos rfl
      · exact copies node n found
      · exact fun _ other _ => if_neg (Ne.symm other)
  | nodeLoaded session node known closed loaded =>
      apply copies.join
      · rfl
      · exact fun _ _ => if_pos rfl
      · exact fun member => absurd member (Roster.not_mem_empty viewer)
      · exact fun _ other _ => if_neg (Ne.symm other)
  | nodeLocked node n s holder found free member known login host =>
      rw [shown_letters, addressed_lockLetters]
      apply copies.insert
      · intro viewing
        have copy := copies node n found viewing
        rw [if_pos viewing, copy]
        have kind : (if viewer = holder.session then LockKind.lockedLocal
            else .lockedRemote) =
            OpenNode.kindFor { n with holder := some holder } viewer := by
          by_cases own : viewer = holder.session
          · simp [OpenNode.kindFor, own]
          · simp [OpenNode.kindFor, own, Ne.symm own]
        rw [kind]
        exact if_pos rfl
      · intro q other copy
        split
        · exact if_neg (Ne.symm other)
        · rfl
  | nodeUpdated session node n fields found held =>
      apply copies.insert
      · intro viewing
        have copy := copies node n found viewing
        rw [foldl_seeNode_fieldsSet, if_pos ⟨.inr viewing, rfl⟩, copy]
        rfl
      · intro q other copy
        rw [foldl_seeNode_fieldsSet, if_neg]
        exact fun both => other both.2.symm
  | nodeUnlocked session node n found held =>
      rw [shown_letters, addressed_lettersToAll]
      apply copies.insert
      · intro viewing
        have copy := copies node n found viewing
        rw [if_pos viewing, copy]
        exact if_pos rfl
      · intro q other copy
        split
        · exact if_neg (Ne.symm other)
        · rfl
  | nodeLeft session node n found member free others =>
      refine copies.insert ?_ fun _ _ _ => rfl
      intro left
      exact copies node n found (Roster.mem_erase.mp left).1
  | nodeGivenUp session node n found member free last =>
      rw [nodes_writeBackNode]
      exact (copies.erase node).pass fun _ _ => rfl
  | nodeFlushed node =>
      rw [nodes_writeBackNode]
      exact (copies.erase node).pass fun _ _ => rfl

theorem Followed.copiesNodes (viewer : SessionId) :
    Followed viewer (CopiesNodes viewer : Hub σ → List (Sight Notification) → Prop) where
  change change copies := change.copiesNodes copies
  shared _ nodes copies := by
    rw [CopiesNodes, nodes]
    exact copies
  newcomer _ noNode := fun node n found member => absurd ⟨n, found, member⟩ (noNode node)

end Hub

/-- At the end of every run in which no session number is used twice, a session whose queue has a
reader has a copy of every node that it has open, made of nothing but what it was told and its own
deeds: the lock as it is for this session, who holds it and since when, the fields and the
interfaces.  What it was told is what the frames in its queue were built from, and what it reads from
them if they are short enough for their lengths to be announced. -/
theorem nodeCopy_of_run {σ : Type} [Store σ] (store : σ) (maxFrameSize : Nat) (moves : List Move)
    (viewer : SessionId) (node : NodeId) (n : OpenNode)
    (fresh : (moves.filterMap Move.connected?).Nodup)
    (found : ((Engine.start store maxFrameSize).after moves).hub.nodes.get? node = some n)
    (member : viewer ∈ n.subscribers)
    (listening :
      ((Engine.start store maxFrameSize).after moves).hub.router.listens viewer = true) :
    ∃ seen : List (Sight Notification),
      (Engine.start store maxFrameSize).sights viewer moves =
        seen.map (Sight.map Notification.toFrame) ∧
      nodeCopy node seen =
        some ⟨n.kindFor viewer, n.holder.map Holder.view, n.record⟩ ∧
      ((∀ f ∈ ((Engine.start store maxFrameSize).after moves).hub.router.queueOf viewer,
        f.length < 0x100000000) →
        ((Engine.start store maxFrameSize).sights viewer moves).filterMap Sight.read? = seen) := by
  obtain ⟨seen, sights, copies, understood⟩ :=
    Engine.understood_of_run (Hub.Followed.copiesNodes viewer) store maxFrameSize fresh listening
  refine ⟨seen, sights, copies node n found member, ?_⟩
  intro short
  exact understood fun f queued => Nat.le_of_lt_succ (short f queued)

/-- A store with one node, which has one interface. -/
def oneNode : MemoryStore :=
  MemoryStore.insertNode {} 5 ⟨{ name := "router" }, [{ id := 1, description := "uplink" }]⟩

/-- Two sessions have the node open; the second locks it, logs in under another name and renames the
node. -/
def lockAndRename : List Move :=
  [.event (.connected ⟨1⟩ "a" .staying),
    .event (.connected ⟨2⟩ "b" .staying),
    .event (.data ⟨2⟩ (Frame.build .login [.text "bob", .text ""]).bytes 0),
    .event (.data ⟨1⟩ (Frame.build .openNode [.word 5]).bytes 0),
    .event (.data ⟨2⟩ (Frame.build .openNode [.word 5]).bytes 0),
    .event (.data ⟨2⟩ (Frame.build .lockNode [.word 5]).bytes 99),
    .event (.data ⟨2⟩ (Frame.build .login [.text "eve", .text ""]).bytes 100),
    .event (.data ⟨2⟩
      (Frame.build .setNode (.word 5 :: NodeFields.wireFields { name := "core" })).bytes 101)]

theorem nodeCopy_of_lockAndRename :
    nodeCopy 5 (((Engine.start oneNode 1000).sights ⟨1⟩ lockAndRename).filterMap Sight.read?) =
      some ⟨.lockedRemote, some ⟨"bob", "b", 99⟩,
        ⟨{ name := "core" }, [{ id := 1, description := "uplink" }]⟩⟩ := by
  have lengths : (((Engine.start oneNode 1000).after lockAndRename).hub.router.queueOf ⟨1⟩).all
      (fun f => decide (f.length ≤ 1000)) = true := by cbv
  have short : ∀ f ∈ ((Engine.start oneNode 1000).after lockAndRename).hub.router.queueOf ⟨1⟩,
      f.length < 0x100000000 := by
    intro f queued
    have length := of_decide_eq_true (List.all_eq_true.mp lengths f queued)
    omega
  obtain ⟨seen, _, copy, understood⟩ := nodeCopy_of_run oneNode 1000 lockAndRename ⟨1⟩ 5
    ⟨⟨{ name := "core" }, [{ id := 1, description := "uplink" }]⟩, some ⟨⟨2⟩, "bob", "b", 99⟩,
      Roster.insert (Roster.insert ∅ ⟨1⟩) ⟨2⟩⟩
    (by decide_cbv) (by decide_cbv) (by decide) (by cbv)
  rw [understood short]
  exact copy

end TopoSync
