import TopoSync.Proofs.Hub.Hearing

/-!
# What the frame of a notification says

Whoever knows the layout of the notifications reads from a frame the whole of what was written into
it, and nothing is left.  In the answer to a request to open a node the holder of the lock stands if and
only if the lock kind before it says that the node is locked, so the reader knows whether to expect it.
-/

namespace TopoSync

namespace OpenNode

/-- The lock kind that a viewer is told says whether the node is locked, and by whom. -/
theorem word_kindFor (o : OpenNode) (viewer : SessionId) :
    (o.kindFor viewer).word =
      match o.holder with
      | none => 0
      | some h => if h.session = viewer then 1 else 2 := by
  rw [kindFor]
  cases o.holder with
  | none => rfl
  | some h =>
      dsimp only
      split <;> rfl

/-- The holder is written exactly if there is one. -/
theorem holderFields_kindFor (o : OpenNode) (viewer : SessionId) :
    Notification.holderFields (o.kindFor viewer) (o.holder.map Holder.view) =
      match o.holder with
      | none => []
      | some h => [.text h.login, .text h.host, .word h.since] := by
  unfold Notification.holderFields
  rw [Hub.isLocked_kindFor]
  cases o.holder <;> rfl

/-- What a viewer is told when it opens a node. -/
def snapshotFor (o : OpenNode) (node : NodeId) (viewer : SessionId) : Notification :=
  .nodeSnapshot node (o.kindFor viewer) (o.holder.map Holder.view) o.record

theorem coherent_snapshotFor (o : OpenNode) (node : NodeId) (viewer : SessionId) :
    (o.snapshotFor node viewer).Coherent := by
  refine ⟨Hub.kindFor_ne_notFound o viewer, ?_⟩
  rw [Hub.isLocked_kindFor, Option.isSome_map]

end OpenNode

namespace Notification

/-- The payload of a frame is read to its end, and gives the notification. -/
theorem read_payload {n : Notification} (fits : n.Fits) (coherent : n.Coherent) :
    Read.notification n.command n.toFrame.payload =
      (.ok (some n), ⟨n.toFrame.length, []⟩) := by
  have read := Read.reads_notification fits coherent Frame.headerSize []
  rw [List.append_nil] at read
  rw [toFrame, Frame.payload_build, Frame.length_build]
  exact read

end Notification

/-- If the length of every list and text can be announced, the frame of a notification names its
command, and reading the payload in the order of its layout gives back the notification and ends with
nothing left; so no two notifications have the same frame.  A snapshot of a node can be told of any
lock and to any viewer: after the number of the node stands the lock kind as the viewer sees it, and
after that the holder of the lock with its login, host and time if the kind says that the node is
locked, by the viewer or by another session, and nothing if it does not; the fields and the interfaces
follow. -/
theorem notification_read_back {n : Notification} (fits : n.Fits) (coherent : n.Coherent) :
    n.toFrame.command? = some n.command ∧
    (∃ last : Cursor, Read.notification n.command n.toFrame.payload = (.ok (some n), last) ∧
      last.position = n.toFrame.length ∧ last.remaining = 0) ∧
    (∀ n' : Notification, n'.Fits → n'.Coherent → n'.toFrame = n.toFrame → n' = n) ∧
    ∀ (o : OpenNode) (node : NodeId) (viewer : SessionId),
      (o.snapshotFor node viewer).Coherent ∧
      ∃ (kind : UInt32) (block : List Field),
        (o.snapshotFor node viewer).fields =
          .word node :: .word kind :: (block ++ o.record.fields.wireFields ++
            countedFields Interface.wireFields o.record.interfaces) ∧
        (kind = 1 ∨ kind = 2 ↔ o.holder.isSome = true) ∧
        (kind = 1 ↔ o.isHeldBy viewer = true) ∧
        ((kind = 1 ∨ kind = 2) → ∃ h, o.holder = some h ∧
          block = [.text h.login, .text h.host, .word h.since]) ∧
        (¬ (kind = 1 ∨ kind = 2) → kind = 0 ∧ block = []) := by
  refine ⟨Frame.command?_build _ _, ⟨_, Notification.read_payload fits coherent, rfl, rfl⟩, ?_, ?_⟩
  · intro n' fits' coherent' same
    have read := Notification.ofFrame?_toFrame fits' coherent'
    rw [same, Notification.ofFrame?_toFrame fits coherent] at read
    exact (Option.some.inj read).symm
  · intro o node viewer
    refine ⟨o.coherent_snapshotFor node viewer, (o.kindFor viewer).word,
      Notification.holderFields (o.kindFor viewer) (o.holder.map Holder.view), rfl, ?_⟩
    rw [o.word_kindFor, o.holderFields_kindFor, OpenNode.isHeldBy]
    cases o.holder with
    | none => simp
    | some h => by_cases own : h.session = viewer <;> simp [own]

/-- A node that another session has locked, with two interfaces. -/
def lockedSwitch : OpenNode where
  record := ⟨{ name := "switch", ipForwarding := true }, [{ id := 1 }, { id := 2, ifIndex := 7 }]⟩
  holder := some ⟨⟨1⟩, "ann", "é", 60⟩
  subscribers := Roster.insert (Roster.insert ∅ ⟨1⟩) ⟨2⟩

theorem notification_read_back_lockedSwitch :
    (lockedSwitch.snapshotFor 5 ⟨2⟩).Fits ∧ (lockedSwitch.snapshotFor 5 ⟨2⟩).Coherent ∧
      ∃ last : Cursor,
        Read.notification .openNode (lockedSwitch.snapshotFor 5 ⟨2⟩).toFrame.payload =
          (.ok (some (.nodeSnapshot 5 .lockedRemote (some ⟨"ann", "é", 60⟩) lockedSwitch.record)),
            last) ∧ last.remaining = 0 := by
  have fits : (lockedSwitch.snapshotFor 5 ⟨2⟩).Fits :=
    Notification.fits_of_length (by decide_cbv)
  have coherent := lockedSwitch.coherent_snapshotFor 5 ⟨2⟩
  obtain ⟨_, ⟨last, read, _, rest⟩, _, _⟩ := notification_read_back fits coherent
  exact ⟨fits, coherent, last, read, rest⟩

end TopoSync
