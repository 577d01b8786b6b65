import TopoSync.Diagram
import TopoSync.Wire.Frame

/-!
# Requests

A request is read from a complete frame.  The layout of the payload depends on the command alone;
bytes after the layout are ignored.  Texts are cut to the width of the column that they are kept in.
-/

namespace TopoSync

/-- What a session asks for. -/
inductive Request
  | login (login password : String)
  | getMapList
  | openMap (map : MapId)
  | closeMap (map : MapId)
  | addSymbol (map : MapId) (id : ElementId) (x y : Int32)
  /-- The session has renumbered a symbol as it was told to. -/
  | renameSymbol (map : MapId) (old new : ElementId)
  | deleteSymbol (map : MapId) (id : ElementId)
  | translateSymbol (map : MapId) (id : ElementId) (dx dy : Int32)
  | addConnection (map : MapId) (id sym0 sym1 : ElementId)
  /-- The session has renumbered a connection as it was told to. -/
  | renameConnection (map : MapId) (old new : ElementId)
  | deleteConnection (map : MapId) (id : ElementId)
  | openNode (node : NodeId)
  | closeNode (node : NodeId)
  | setNode (node : NodeId) (fields : NodeFields)
  | lockNode (node : NodeId)
  | unlockNode (node : NodeId)
  /-- A known command that sessions cannot ask for. -/
  | unsupported (command : Command)
deriving DecidableEq, Repr

/-- The width of the free texts of a node. -/
def textCapacity : Nat := 252

/-- The width of the management address of a node. -/
def addressCapacity : Nat := 40

/-- The width of a login or a password. -/
def credentialCapacity : Nat := 256

namespace Read

/-- The editable fields of a node, each cut to its column. -/
def nodeFields : Read NodeFields := do
  let objectId ← boundedText textCapacity
  let name ← boundedText textCapacity
  let contact ← boundedText textCapacity
  let location ← boundedText textCapacity
  let description ← boundedText textCapacity
  let forwarding ← byte
  let mgmtAddress ← boundedText addressCapacity
  let mgmtFlags ← word
  let topoFlags ← word
  return ⟨objectId, name, contact, location, description, forwarding != 0, mgmtAddress, mgmtFlags,
    topoFlags⟩

/-- One interface of a node. -/
def interface : Read Interface := do
  let id ← word
  let status ← word
  let flags ← word
  let ipAddress ← text
  let ifIndex ← word
  let description ← text
  let ifType ← word
  let physAddress ← text
  return ⟨id, status, flags, ipAddress, ifIndex, description, ifType, physAddress⟩

/-- The payload of a request. -/
def request : Command → Read Request
  | .login => return .login (← boundedText credentialCapacity) (← boundedText credentialCapacity)
  | .getMapList => return .getMapList
  | .openMap => return .openMap (← signed)
  | .closeMap => return .closeMap (← signed)
  | .addSymbol => return .addSymbol (← signed) (← signed) (← signed) (← signed)
  | .renameSymbol => return .renameSymbol (← signed) (← signed) (← signed)
  | .deleteSymbol => return .deleteSymbol (← signed) (← signed)
  | .translateSymbol => return .translateSymbol (← signed) (← signed) (← signed) (← signed)
  | .addConnection => return .addConnection (← signed) (← signed) (← signed) (← signed)
  | .renameConnection => return .renameConnection (← signed) (← signed) (← signed)
  | .deleteConnection => return .deleteConnection (← signed) (← signed)
  | .openNode => return .openNode (← word)
  | .closeNode => return .closeNode (← word)
  | .setNode => return .setNode (← word) (← nodeFields)
  | .lockNode => return .lockNode (← word)
  | .unlockNode => return .unlockNode (← word)
  | .addMap => return .unsupported .addMap
  | .renameMap => return .unsupported .renameMap
  | .deleteMap => return .unsupported .deleteMap
  | .editConnection => return .unsupported .editConnection
  | .addNode => return .unsupported .addNode
  | .deleteNode => return .unsupported .deleteNode
  | .updateNode => return .unsupported .updateNode

end Read

namespace Request

/-- Reads the request in a frame, given the command that its header names. -/
def decode (c : Command) (frame : Bytes) : Except Truncated Request :=
  (Read.request c (Cursor.atOffset frame Frame.headerSize)).1

end Request

end TopoSync
