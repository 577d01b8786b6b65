import Mathlib
import TopoSync.Proofs.Copies
import TopoSync.Store.Memory

/-!
# Copies of maps

A session that has a map open keeps a copy of it: it starts from the snapshot that answers its
request to open the map, applies to it what it is told of the edits of others, and applies its own
edits when they are carried out.  The copy agrees with the map in the hub, element for element.
-/

namespace TopoSync

/-- The edit that a notification tells of, and its map. -/
def Notification.edit? : Notification → Option (MapId × Edit)
  | symbolAdded map id x y => some (map, .symbolAdded id x y)
  | symbolDeleted map id => some (map, .symbolRemoved id)
  | symbolTranslated map id dx dy => some (map, .symbolMoved id dx dy)
  | connectionAdded map id sym0 sym1 => some (map, .connectionAdded id sym0 sym1)
  | connectionDeleted map id => some (map, .connectionRemoved id)
  | mapList _ | mapSnapshot .. | symbolRenamed .. | connectionRenamed .. | nodeMissing _
  | nodeSnapshot .. | nodeUpdated .. | nodeLocked .. | nodeUnlocked _ => none

/-- A copy of a map after an edit of some map. -/
def editCopy (map : MapId) (copy : Option Diagram) : Option (MapId × Edit) → Option Diagram
  | some (edited, edit) => if edited = map then copy.map fun d => d.edited edit else copy
  | none => copy

/-- A copy of a map after one more sight: a snapshot replaces it, and an edit of the map is applied,
whether the session made it or is told of it. -/
def seeMap (map : MapId) (copy : Option Diagram) : Sight Notification → Option Diagram
  | .deed (.edited edited edit) => editCopy map copy (some (edited, edit))
  | .deed (.fieldsSet ..) => copy
  | .told (.mapSnapshot opened diagram) => if opened = map then some diagram else copy
  | .told n => editCopy map copy n.edit?

/-- The copy of a map that a session has, given everything that it saw. -/
def mapCopy : MapId → List (Sight Notification) → Option Diagram :=
  copyOf seeMap

/-- What was seen before a snapshot of the map does not matter. -/
theorem mapCopy_snapshot (map : MapId) (before later : List (Sight Notification))
    (diagram : Diagram) :
    mapCopy map (before ++ .told (.mapSnapshot map diagram) :: later) =
      later.foldl (seeMap map) (some diagram) := by
  rw [mapCopy, copyOf_append, List.foldl_cons, seeMap, if_pos rfl]

theorem seeMap_notice (map : MapId) (copy : Option Diagram) (edited : MapId) (edit : Edit) :
    seeMap map copy (.told (edit.notice edited)) = editCopy map copy (some (edited, edit)) := by
  cases edit <;> rfl

/-- Receipts do not touch the copy: the number that they bring is in the deed already. -/
theorem seeMap_receipt (map : MapId) (copy : Option Diagram) (edited : MapId) (old : ElementId)
    (edit : Edit) : ((edit.receipt edited old).map Sight.told).foldl (seeMap map) copy = copy := by
  cases edit <;> rfl

namespace Hub

variable {σ : Type} {viewer : SessionId} {h : Hub σ} {seen : List (Sight Notification)}

/-- Whether a session has a copy of every map that it has open. -/
def CopiesMaps (viewer : SessionId) (h : Hub σ) (seen : List (Sight Notification)) : Prop :=
  Copied seeMap OpenMap.subscribers OpenMap.diagram viewer h.maps seen

/-- What an edit shows to a subscriber, be it the one who edits or another, applies the edit once. -/
theorem foldl_seeMap_edited {members : Roster} {origin : SessionId} (member : origin ∈ members)
    (viewer : SessionId) (map edited : MapId) (edit : Edit) (old : ElementId)
    (copy : Option Diagram) :
    (shown viewer (.deed origin (.edited edited edit) ::
        (edit.letters edited members origin old).map .letter)).foldl (seeMap map) copy =
      if viewer ∈ members then editCopy map copy (some (edited, edit)) else copy := by
  rw [shown_cons, shown_letters, Edit.addressed_letters, List.foldl_append, Mark.shownTo]
  by_cases own : origin = viewer
  · subst own
    rw [if_pos rfl, if_pos rfl, if_pos member, seeMap_receipt]
    rfl
  · rw [if_neg own, if_neg (Ne.symm own)]
    split
    · exact seeMap_notice map copy edited edit
    · rfl

variable [Store σ]

/-- Every change of the hub is followed by the copies. -/
theorem Change.copiesMaps {h' : Hub σ} {marks : List Mark} (change : Change h marks h')
    (copies : CopiesMaps viewer h seen) : CopiesMaps viewer h' (seen ++ shown viewer marks) := by
  rw [CopiesMaps] at copies ⊢
  cases change with
  | consulted asked => exact copies.pass fun _ _ => rfl
  | amended id f keeps => exact copies.pass fun _ _ => rfl
  | marksCleared => exact copies.pass fun _ _ => rfl
  | sessionEnded session noMap noNode => exact copies.pass fun _ _ => rfl
  | mapsListed session listed =>
      exact copies.pass_letter fun _ _ => rfl
  | mapJoined session map m real known found =>
      apply copies.join
      · rfl
      · exact fun _ _ => if_pos rfl
      · exact copies map m found
      · exact fun _ other _ => if_neg (Ne.symm other)
  | mapLoaded session map real known closed loaded =>
      apply copies.join
      · rfl
      · exact fun _ _ => if_pos rfl
      · exact fun member => absurd member (Roster.not_mem_empty viewer)
      · exact fun _ other _ => if_neg (Ne.symm other)
  | mapEdited session map m edit old found member fits =>
      apply copies.insert
      · intro viewing
        have copy := copies map m found viewing
        rw [foldl_seeMap_edited member, if_pos viewing, copy]
        exact if_pos rfl
      · intro q other copy
        rw [foldl_seeMap_edited member]
        split
        · exact if_neg (Ne.symm other)
        · rfl
  | mapLeft session map m found member others =>
      refine copies.insert ?_ fun _ _ _ => rfl
      intro left
      exact copies map m found (Roster.mem_erase.mp left).1
  | mapGivenUp session map m found member last =>
      rw [maps_writeBackMap]
      exact (copies.erase map).pass fun _ _ => rfl
  | mapFlushed map =>
      rw [maps_writeBackMap]
      exact (copies.erase map).pass fun _ _ => rfl
  | nodeMissed session node closed missing =>
      exact copies.pass_letter fun _ _ => rfl
  | nodeJoined session node n known found =>
      exact copies.pass_letter fun _ _ => rfl
  | nodeLoaded session node known closed loaded =>
      exact copies.pass_letter fun _ _ => rfl
  | nodeLocked node n s holder found free member known login host =>
      apply copies.pass
      intro map copy
      rw [shown_letters, addressed_lockLetters]
      split <;> rfl
  | nodeUpdated session node n fields found held =>
      apply copies.pass
      intro map copy
      rw [shown_cons, shown_letters, addressed_lettersToOthers, Mark.shownTo]
      split <;> split <;> rfl
  | nodeUnlocked session node n found held =>
      apply copies.pass
      intro map copy
      rw [shown_letters, addressed_lettersToAll]
      split <;> rfl
  | nodeLeft session node n found member free others => exact copies.pass fun _ _ => rfl
  | nodeGivenUp session node n found member free last =>
      rw [maps_writeBackNode]
      exact copies.pass fun _ _ => rfl
  | nodeFlushed node =>
      rw [maps_writeBackNode]
      exact copies.pass fun _ _ => rfl

theorem Followed.copiesMaps (viewer : SessionId) :
    Followed viewer (CopiesMaps viewer : Hub σ → List (Sight Notification) → Prop) where
  change change copies := change.copiesMaps copies
  shared maps _ copies := by
    rw [CopiesMaps, maps]
    exact copies
  newcomer noMap _ := fun map m found member => absurd ⟨m, found, member⟩ (noMap map)

end Hub

/-- At the end of every run in which no session number is used twice, a session whose queue has a
reader has a copy of every map that it has open, made of nothing but the frames in its queue and its
own deeds: the copy and the map in the hub have the same elements in the same order. -/
theorem mapCopy_of_run {σ : Type} [Store σ] (store : σ) (maxFrameSize : Nat) (moves : List Move)
    (viewer : SessionId) (map : MapId) (m : OpenMap)
    (fresh : (moves.filterMap Move.connected?).Nodup)
    (short : ∀ f ∈ ((Engine.start store maxFrameSize).after moves).hub.router.queueOf viewer,
      f.length < 0x100000000)
    (found : ((Engine.start store maxFrameSize).after moves).hub.maps.get? map = some m)
    (member : viewer ∈ m.subscribers)
    (listening :
      ((Engine.start store maxFrameSize).after moves).hub.router.listens viewer = true) :
    mapCopy map
        (((Engine.start store maxFrameSize).sights viewer moves).filterMap Sight.read?) =
      some m.diagram := by
  obtain ⟨seen, _, copies, understood⟩ :=
    Engine.understood_of_run (Hub.Followed.copiesMaps viewer) store maxFrameSize fresh listening
  rw [understood fun f queued => Nat.le_of_lt_succ (short f queued)]
  exact copies map m found member

/-- A store with one map, on which there is one symbol. -/
def oneMap : MemoryStore :=
  MemoryStore.insertMap {} 1 "plan" ⟨[Symbol.placed 7 1 2], []⟩

/-- Two sessions have the map open; the second adds a symbol and the first moves one. -/
def twoEditors : List Move :=
  [.event (.connected ⟨1⟩ "a" .staying),
    .event (.connected ⟨2⟩ "b" .staying),
    .event (.data ⟨1⟩ (Frame.build .openMap [.signed 1]).bytes 0),
    .event (.data ⟨2⟩ (Frame.build .openMap [.signed 1]).bytes 0),
    .event (.data ⟨2⟩
      (Frame.build .addSymbol [.signed 1, .signed (-1), .signed 10, .signed 20]).bytes 0),
    .event (.data ⟨1⟩
      (Frame.build .translateSymbol [.signed 1, .signed 7, .signed 3, .signed 4]).bytes 0)]

theorem mapCopy_of_twoEditors :
    mapCopy 1 (((Engine.start oneMap 1000).sights ⟨1⟩ twoEditors).filterMap Sight.read?) =
      some ⟨[⟨7, 0, 4, 6, "unnamed", "unknown"⟩, Symbol.placed 1 10 20], []⟩ := by
  have lengths : (((Engine.start oneMap 1000).after twoEditors).hub.router.queueOf ⟨1⟩).all
      (fun f => decide (f.length ≤ 1000)) = true := by cbv
  have short : ∀ f ∈ ((Engine.start oneMap 1000).after twoEditors).hub.router.queueOf ⟨1⟩,
      f.length < 0x100000000 := by
    intro f queued
    have length := of_decide_eq_true (List.all_eq_true.mp lengths f queued)
    omega
  exact mapCopy_of_run oneMap 1000 twoEditors ⟨1⟩ 1
    ⟨⟨[⟨7, 0, 4, 6, "unnamed", "unknown"⟩, Symbol.placed 1 10 20], []⟩,
      Roster.insert (Roster.insert ∅ ⟨1⟩) ⟨2⟩⟩
    (by decide_cbv) short (by decide_cbv) (by decide) (by cbv)

end TopoSync
