import TopoSync.Diagram
import TopoSync.Wire.Frame

/-!
# Notifications

Everything the server tells a session.  Each notification has a command and a list of fields; its
frame is built from these two.
-/

namespace TopoSync

/-- Who holds a lock, as sessions are told. -/
structure HolderView where
  login : String
  host : String
  /-- When the lock was taken, in seconds. -/
  since : UInt32
deriving DecidableEq, Repr

/-- What a session is told. -/
inductive Notification
  /-- The list of maps. -/
  | mapList (entries : List MapEntry)
  /-- The contents of a map that the session opens. -/
  | mapSnapshot (map : MapId) (diagram : Diagram)
  /-- A symbol that the session added has its permanent number. -/
  | symbolRenamed (map : MapId) (old new : ElementId)
  | symbolAdded (map : MapId) (id : ElementId) (x y : Int32)
  | symbolDeleted (map : MapId) (id : ElementId)
  | symbolTranslated (map : MapId) (id : ElementId) (dx dy : Int32)
  /-- A connection that the session added has its permanent number. -/
  | connectionRenamed (map : MapId) (old new : ElementId)
  | connectionAdded (map : MapId) (id sym0 sym1 : ElementId)
  | connectionDeleted (map : MapId) (id : ElementId)
  /-- A node that the session wanted to open does not exist. -/
  | nodeMissing (node : NodeId)
  /-- The contents of a node that the session opens, and its lock as the session sees it. -/
  | nodeSnapshot (node : NodeId) (kind : LockKind) (holder : Option HolderView)
      (record : NodeRecord)
  | nodeUpdated (node : NodeId) (fields : NodeFields)
  | nodeLocked (node : NodeId) (kind : LockKind) (holder : HolderView)
  | nodeUnlocked (node : NodeId)
deriving DecidableEq, Repr

/-- A count as a word; a count that no word can hold is the greatest word. -/
def countWord (n : Nat) : UInt32 :=
  UInt32.ofNat (min n 0xFFFFFFFF)

/-- A list on the wire: its length and its items. -/
def countedFields {α : Type} (item : α → List Field) (items : List α) : List Field :=
  .word (countWord items.length) :: items.flatMap item

namespace MapEntry

/-- A line of the list of maps on the wire. -/
def wireFields (e : MapEntry) : List Field :=
  [.signed e.id, .text e.name]

end MapEntry

namespace Symbol

/-- A symbol on the wire. -/
def wireFields (s : Symbol) : List Field :=
  [.signed s.id, .signed s.objectId, .signed s.x, .signed s.y, .text s.name, .text s.kind]

end Symbol

namespace Connection

/-- A connection on the wire. -/
def wireFields (c : Connection) : List Field :=
  [.signed c.id, .signed c.sym0, .signed c.sym1]

end Connection

namespace NodeFields

/-- The editable fields of a node on the wire. -/
def wireFields (f : NodeFields) : List Field :=
  [.text f.objectId, .text f.name, .text f.contact, .text f.location, .text f.description,
    .byte (if f.ipForwarding then 1 else 0), .text f.mgmtAddress, .word f.mgmtFlags,
    .word f.topoFlags]

end NodeFields

namespace Interface

/-- An interface on the wire. -/
def wireFields (i : Interface) : List Field :=
  [.word i.id, .word i.status, .word i.flags, .text i.ipAddress, .word i.ifIndex,
    .text i.description, .word i.ifType, .text i.physAddress]

end Interface

namespace HolderView

/-- A holder on the wire. -/
def wireFields (h : HolderView) : List Field :=
  [.text h.login, .text h.host, .word h.since]

end HolderView

namespace Notification

/-- The command of a notification. -/
def command : Notification → Command
  | mapList .. => .getMapList
  | mapSnapshot .. => .openMap
  | symbolRenamed .. => .renameSymbol
  | symbolAdded .. => .addSymbol
  | symbolDeleted .. => .deleteSymbol
  | symbolTranslated .. => .translateSymbol
  | connectionRenamed .. => .renameConnection
  | connectionAdded .. => .addConnection
  | connectionDeleted .. => .deleteConnection
  | nodeMissing .. => .openNode
  | nodeSnapshot .. => .openNode
  | nodeUpdated .. => .updateNode
  | nodeLocked .. => .lockNode
  | nodeUnlocked .. => .unlockNode

/-- The holder of a lock, told only to a session that sees the node locked. -/
def holderFields (kind : LockKind) (holder : Option HolderView) : List Field :=
  match kind.isLocked, holder with
  | true, some h => h.wireFields
  | _, _ => []

/-- The payload of a notification. -/
def fields : Notification → List Field
  | mapList entries => countedFields MapEntry.wireFields entries
  | mapSnapshot map diagram =>
      .signed map :: countedFields Symbol.wireFields diagram.symbols ++
        countedFields Connection.wireFields diagram.connections
  | symbolRenamed map old new => [.signed map, .signed old, .signed new]
  | symbolAdded map id x y => [.signed map, .signed id, .signed x, .signed y]
  | symbolDeleted map id => [.signed map, .signed id]
  | symbolTranslated map id dx dy => [.signed map, .signed id, .signed dx, .signed dy]
  | connectionRenamed map old new => [.signed map, .signed old, .signed new]
  | connectionAdded map id sym0 sym1 => [.signed map, .signed id, .signed sym0, .signed sym1]
  | connectionDeleted map id => [.signed map, .signed id]
  | nodeMissing node => [.word node, .word LockKind.notFound.word]
  | nodeSnapshot node kind holder record =>
      .word node :: .word kind.word :: holderFields kind holder ++ record.fields.wireFields ++
        countedFields Interface.wireFields record.interfaces
  | nodeUpdated node fields => .word node :: fields.wireFields
  | nodeLocked node kind holder => .word node :: .byte kind.code :: holder.wireFields
  | nodeUnlocked node => [.word node]

/-- The frame of a notification. -/
def toFrame (n : Notification) : Frame :=
  Frame.build n.command n.fields

/-- Where the lock kind stands in the frame of `nodeLocked`. -/
def lockKindOffset : Nat := Frame.headerSize + 4

end Notification

end TopoSync
