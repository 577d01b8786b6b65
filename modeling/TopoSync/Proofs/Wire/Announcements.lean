import TopoSync.Wire.Request
import TopoSync.Proofs.Wire.Reading

/-!
# How a session reads what it is told

A session knows the layout of every notification from its command.  It reads from a frame what was
written into it, as long as every text and list is short enough for its length to be announced.
-/

namespace TopoSync

namespace Read

/-- A line of the list of maps. -/
def mapEntry : Read MapEntry := do
  let id ← signed
  let name ← text
  return ⟨id, name⟩

/-- A symbol. -/
def symbol : Read Symbol := do
  let id ← signed
  let objectId ← signed
  let x ← signed
  let y ← signed
  let name ← text
  let kind ← text
  return ⟨id, objectId, x, y, name, kind⟩

/-- A connection. -/
def connection : Read Connection := do
  let id ← signed
  let sym0 ← signed
  let sym1 ← signed
  return ⟨id, sym0, sym1⟩

/-- A holder of a lock. -/
def holderView : Read HolderView := do
  let login ← text
  let host ← text
  let since ← word
  return ⟨login, host, since⟩

/-- The editable fields of a node, at full length. -/
def fullFields : Read NodeFields := do
  let objectId ← text
  let name ← text
  let contact ← text
  let location ← text
  let description ← text
  let forwarding ← byte
  let mgmtAddress ← text
  let mgmtFlags ← word
  let topoFlags ← word
  return ⟨objectId, name, contact, location, description, forwarding != 0, mgmtAddress, mgmtFlags,
    topoFlags⟩

/-- The holder of a lock, told only if there is one. -/
def holderOf (kind : LockKind) : Read (Option HolderView) :=
  if kind.isLocked then do
    let holder ← holderView
    return some holder
  else return none

/-- What follows the lock kind in the answer to a request to open a node. -/
def opened (node : NodeId) : Option LockKind → Read (Option Notification)
  | none => return none
  | some .notFound => return some (.nodeMissing node)
  | some kind => do
      let holder ← holderOf kind
      let fields ← fullFields
      let interfaces ← counted interface
      return some (.nodeSnapshot node kind holder ⟨fields, interfaces⟩)

/-- What follows the lock kind in the announcement of a lock. -/
def locked (node : NodeId) : Option LockKind → Read (Option Notification)
  | none => return none
  | some kind => do
      let holder ← holderView
      return some (.nodeLocked node kind holder)

/-- A notification, given its command; sessions are told nothing by the other commands. -/
def notification : Command → Read (Option Notification)
  | .getMapList => do
      let entries ← counted mapEntry
      return some (.mapList entries)
  | .openMap => do
      let map ← signed
      let symbols ← counted symbol
      let connections ← counted connection
      return some (.mapSnapshot map ⟨symbols, connections⟩)
  | .renameSymbol => do
      let map ← signed
      let old ← signed
      let new ← signed
      return some (.symbolRenamed map old new)
  | .addSymbol => do
      let map ← signed
      let id ← signed
      let x ← signed
      let y ← signed
      return some (.symbolAdded map id x y)
  | .deleteSymbol => do
      let map ← signed
      let id ← signed
      return some (.symbolDeleted map id)
  | .translateSymbol => do
      let map ← signed
      let id ← signed
      let dx ← signed
      let dy ← signed
      return some (.symbolTranslated map id dx dy)
  | .renameConnection => do
      let map ← signed
      let old ← signed
      let new ← signed
      return some (.connectionRenamed map old new)
  | .addConnection => do
      let map ← signed
      let id ← signed
      let sym0 ← signed
      let sym1 ← signed
      return some (.connectionAdded map id sym0 sym1)
  | .deleteConnection => do
      let map ← signed
      let id ← signed
      return some (.connectionDeleted map id)
  | .openNode => do
      let node ← word
      let kind ← word
      opened node (LockKind.ofCode? kind)
  | .updateNode => do
      let node ← word
      let fields ← fullFields
      return some (.nodeUpdated node fields)
  | .lockNode => do
      let node ← word
      let kind ← byte
      locked node (LockKind.ofCode? kind.toUInt32)
  | .unlockNode => do
      let node ← word
      return some (.nodeUnlocked node)
  | .login | .closeMap | .addMap | .renameMap | .deleteMap | .editConnection | .addNode
  | .deleteNode | .closeNode | .setNode => return none

end Read

namespace Notification

/-- The notification in a frame. -/
def ofFrame? (f : Frame) : Option Notification :=
  match f.command? with
  | none => none
  | some command =>
      match (Read.notification command f.payload).1 with
      | .ok n => n
      | .error _ => none

/-- The lengths of the lists in a notification. -/
def counts : Notification → List Nat
  | mapList entries => [entries.length]
  | mapSnapshot _ diagram => [diagram.symbols.length, diagram.connections.length]
  | nodeSnapshot _ _ _ record => [record.interfaces.length]
  | symbolRenamed .. | symbolAdded .. | symbolDeleted .. | symbolTranslated .. | connectionRenamed ..
  | connectionAdded .. | connectionDeleted .. | nodeMissing _ | nodeUpdated .. | nodeLocked ..
  | nodeUnlocked _ => []

/-- Whether the length of every text and list can be announced in full. -/
structure Fits (n : Notification) : Prop where
  fields : ∀ f ∈ n.fields, f.Fits
  counts : ∀ count ∈ n.counts, count ≤ Field.maxBlock

theorem Fits.part {n : Notification} (fits : n.Fits) {part : List Field}
    (within : ∀ f ∈ part, f ∈ n.fields) : ∀ f ∈ part, f.Fits :=
  fun f member => fits.fields f (within f member)

/-- Whether a snapshot of a node has a holder exactly if it says that the node is locked. -/
def Coherent : Notification → Prop
  | nodeSnapshot _ kind holder _ => kind ≠ .notFound ∧ kind.isLocked = holder.isSome
  | mapList _ | mapSnapshot .. | symbolRenamed .. | symbolAdded .. | symbolDeleted ..
  | symbolTranslated .. | connectionRenamed .. | connectionAdded .. | connectionDeleted ..
  | nodeMissing _ | nodeUpdated .. | nodeLocked .. | nodeUnlocked _ => True

end Notification

namespace Read

theorem reads_mapEntry {e : MapEntry} (fits : ∀ f ∈ e.wireFields, f.Fits) :
    Reads mapEntry e.wireFields e := by
  apply Reads.signed
  apply Reads.text (fits _ (by simp [MapEntry.wireFields]))
  exact reads_pure _

theorem reads_symbol {s : Symbol} (fits : ∀ f ∈ s.wireFields, f.Fits) :
    Reads symbol s.wireFields s := by
  apply Reads.signed
  apply Reads.signed
  apply Reads.signed
  apply Reads.signed
  apply Reads.text (fits _ (by simp [Symbol.wireFields]))
  apply Reads.text (fits _ (by simp [Symbol.wireFields]))
  exact reads_pure _

theorem reads_connection (c : Connection) : Reads connection c.wireFields c := by
  apply Reads.signed
  apply Reads.signed
  apply Reads.signed
  exact reads_pure _

theorem reads_holderView {h : HolderView} (fits : ∀ f ∈ h.wireFields, f.Fits) :
    Reads holderView h.wireFields h := by
  apply Reads.text (fits _ (by simp [HolderView.wireFields]))
  apply Reads.text (fits _ (by simp [HolderView.wireFields]))
  apply Reads.word
  exact reads_pure _

theorem reads_fullFields {f : NodeFields} (fits : ∀ w ∈ f.wireFields, w.Fits) :
    Reads fullFields f.wireFields f := by
  apply Reads.text (fits _ (by simp [NodeFields.wireFields]))
  apply Reads.text (fits _ (by simp [NodeFields.wireFields]))
  apply Reads.text (fits _ (by simp [NodeFields.wireFields]))
  apply Reads.text (fits _ (by simp [NodeFields.wireFields]))
  apply Reads.text (fits _ (by simp [NodeFields.wireFields]))
  apply Reads.byte
  apply Reads.text (fits _ (by simp [NodeFields.wireFields]))
  apply Reads.word
  apply Reads.word
  have forwarding : ((if f.ipForwarding then 1 else 0 : UInt8) != 0) = f.ipForwarding := by
    cases f.ipForwarding <;> rfl
  rw [forwarding]
  exact reads_pure f

theorem reads_interface {i : Interface} (fits : ∀ f ∈ i.wireFields, f.Fits) :
    Reads interface i.wireFields i := by
  apply Reads.word
  apply Reads.word
  apply Reads.word
  apply Reads.text (fits _ (by simp [Interface.wireFields]))
  apply Reads.word
  apply Reads.text (fits _ (by simp [Interface.wireFields]))
  apply Reads.word
  apply Reads.text (fits _ (by simp [Interface.wireFields]))
  exact reads_pure _

theorem reads_holderOf {kind : LockKind} {holder : Option HolderView}
    (coherent : kind.isLocked = holder.isSome)
    (fits : ∀ f ∈ Notification.holderFields kind holder, f.Fits) :
    Reads (holderOf kind) (Notification.holderFields kind holder) holder := by
  unfold holderOf Notification.holderFields at *
  cases holder with
  | none =>
      rw [coherent]
      exact reads_pure _
  | some holder =>
      rw [coherent] at fits ⊢
      exact Reads.map (reads_holderView fits) some

theorem reads_opened {node : NodeId} {kind : LockKind} {holder : Option HolderView}
    {record : NodeRecord} (fits : (Notification.nodeSnapshot node kind holder record).Fits)
    (coherent : (Notification.nodeSnapshot node kind holder record).Coherent) :
    Reads (opened node (some kind))
      (Notification.holderFields kind holder ++ record.fields.wireFields ++
        countedFields Interface.wireFields record.interfaces)
      (some (.nodeSnapshot node kind holder record)) := by
  obtain ⟨there, consistent⟩ := coherent
  have same : opened node (some kind) = (do
      let holder ← holderOf kind
      let fields ← fullFields
      let interfaces ← counted interface
      return some (.nodeSnapshot node kind holder ⟨fields, interfaces⟩)) := by
    cases kind with
    | notFound => exact absurd rfl there
    | _ => rfl
  rw [same, List.append_assoc]
  refine Reads.append (reads_holderOf consistent (fits.part ?_)) ?_
  · intro f member
    simp [Notification.fields, member]
  · refine Reads.append (reads_fullFields (fits.part ?_)) ?_
    · intro f member
      simp [Notification.fields, member]
    · refine Reads.map (reads_counted (fits.counts _ List.mem_cons_self) (fits.part ?_)
        fun i => reads_interface) _
      intro f member
      simp [Notification.fields, member]

/-- The payload of a notification is read back. -/
theorem reads_notification {n : Notification} (fits : n.Fits) (coherent : n.Coherent) :
    Reads (notification n.command) n.fields (some n) := by
  cases n with
  | mapList entries =>
      exact Reads.map
        (reads_counted (fits.counts _ List.mem_cons_self) fits.fields fun e => reads_mapEntry) _
  | mapSnapshot map diagram =>
      apply Reads.signed
      refine Reads.append (reads_counted (fits.counts _ List.mem_cons_self) (fits.part ?_)
        fun s => reads_symbol) ?_
      · intro f member
        simp [Notification.fields, member]
      · refine Reads.map (reads_counted
          (fits.counts _ (List.mem_cons_of_mem _ List.mem_cons_self)) (fits.part ?_)
          fun c _ => reads_connection c) _
        intro f member
        simp [Notification.fields, member]
  | symbolRenamed map old new =>
      apply Reads.signed
      apply Reads.signed
      apply Reads.signed
      exact reads_pure _
  | symbolAdded map id x y =>
      apply Reads.signed
      apply Reads.signed
      apply Reads.signed
      apply Reads.signed
      exact reads_pure _
  | symbolDeleted map id =>
      apply Reads.signed
      apply Reads.signed
      exact reads_pure _
  | symbolTranslated map id dx dy =>
      apply Reads.signed
      apply Reads.signed
      apply Reads.signed
      apply Reads.signed
      exact reads_pure _
  | connectionRenamed map old new =>
      apply Reads.signed
      apply Reads.signed
      apply Reads.signed
      exact reads_pure _
  | connectionAdded map id sym0 sym1 =>
      apply Reads.signed
      apply Reads.signed
      apply Reads.signed
      apply Reads.signed
      exact reads_pure _
  | connectionDeleted map id =>
      apply Reads.signed
      apply Reads.signed
      exact reads_pure _
  | nodeMissing node =>
      apply Reads.word
      apply Reads.word
      exact reads_pure _
  | nodeSnapshot node kind holder record =>
      apply Reads.word
      apply Reads.word
      rw [LockKind.ofCode?_word]
      exact reads_opened fits coherent
  | nodeUpdated node fields =>
      apply Reads.word
      refine Reads.map (reads_fullFields ?_) _
      exact fun f member => fits.fields f (List.mem_cons_of_mem _ member)
  | nodeLocked node kind holder =>
      apply Reads.word
      apply Reads.byte
      have known : LockKind.ofCode? kind.code.toUInt32 = some kind := LockKind.ofCode?_word kind
      rw [known]
      refine Reads.map (reads_holderView ?_) _
      exact fun f member =>
        fits.fields f (List.mem_cons_of_mem _ (List.mem_cons_of_mem _ member))
  | nodeUnlocked node =>
      apply Reads.word
      exact reads_pure _

end Read

namespace Frame

theorem codeWord_build (c : Command) (fields : List Field) :
    codeWord (build c fields).bytes = c.code := by
  have code : ((build c fields).bytes.drop 4).take 4 = Word.toBytes c.code := by
    have head : (build c fields).bytes.drop 4 =
        Word.toBytes c.code ++ Field.encodeAll fields := rfl
    rw [head]
    exact List.take_left' (Word.length_toBytes c.code)
  rw [codeWord, code, Word.ofBytes_toBytes]

theorem command?_build (c : Command) (fields : List Field) :
    (build c fields).command? = some c := by
  have header : headerSize ≤ (build c fields).length := by
    rw [length_build]
    exact Nat.le_add_right _ _
  rw [command?, code?, if_pos header, codeWord_build, Option.bind_some, Command.ofCode?_code]

theorem payload_build (c : Command) (fields : List Field) :
    (build c fields).payload = ⟨headerSize, Field.encodeAll fields⟩ := by
  have header : headerSize ≤ (build c fields).bytes.length := by
    have length := length_build c fields
    rw [Frame.length] at length
    omega
  rw [payload, Cursor.atOffset, Nat.min_eq_left header]
  rfl

end Frame

namespace Notification

/-- What is written into a frame is read from it. -/
theorem ofFrame?_toFrame {n : Notification} (fits : n.Fits) (coherent : n.Coherent) :
    ofFrame? n.toFrame = some n := by
  have read := Read.reads_notification fits coherent Frame.headerSize []
  rw [List.append_nil] at read
  rw [ofFrame?, toFrame, Frame.command?_build, Frame.payload_build]
  dsimp only
  rw [read]

/-- There are no more items than bytes. -/
theorem length_le_length_countedFields {α : Type} (write : α → List Field) (items : List α)
    (nonempty : ∀ x, 1 ≤ (write x).length) : items.length ≤ (countedFields write items).length := by
  induction items with
  | nil => exact Nat.zero_le _
  | cons x rest ih =>
      have one := nonempty x
      simp only [countedFields, List.flatMap_cons, List.length_cons, List.length_append] at ih ⊢
      omega

/-- A notification whose frame is short enough for its length to be announced fits. -/
theorem fits_of_length {n : Notification} (short : n.toFrame.length ≤ Field.maxBlock) : n.Fits := by
  rw [toFrame, Frame.length_build] at short
  have bytes := Field.length_le_length_encodeAll n.fields
  constructor
  · intro f member
    apply Field.fits_of_length
    have within := Field.length_encode_le_of_mem member
    omega
  · intro count member
    have within : count ≤ n.fields.length := by
      cases n with
      | mapList entries =>
          rw [counts, List.mem_singleton] at member
          rw [member]
          exact length_le_length_countedFields _ entries fun e => Nat.le_add_left 1 1
      | mapSnapshot map diagram =>
          have symbols := length_le_length_countedFields Symbol.wireFields
            diagram.symbols fun s => Nat.le_add_left 1 5
          have connections := length_le_length_countedFields Connection.wireFields
            diagram.connections fun c => Nat.le_add_left 1 2
          simp only [counts, List.mem_cons, List.not_mem_nil, or_false] at member
          simp only [fields, List.cons_append, List.length_cons, List.length_append]
          rcases member with rfl | rfl <;> omega
      | nodeSnapshot node kind holder record =>
          have interfaces := length_le_length_countedFields Interface.wireFields
            record.interfaces fun i => Nat.le_add_left 1 7
          rw [counts, List.mem_singleton] at member
          simp only [fields, List.cons_append, List.length_cons, List.length_append]
          omega
      | _ => cases member
    omega

end Notification

end TopoSync
