/-!
# Maps and nodes

A map is a diagram: symbols placed on a plane and connections between them.  A node is the record
of one device: descriptive fields that sessions may edit, and interfaces that they may only read.
-/

namespace TopoSync

/-- The number of a map.  Map 0 is reserved. -/
abbrev MapId := Int32

/-- The number of a symbol or a connection within its map.  Sessions choose negative numbers for
elements that are not numbered yet. -/
abbrev ElementId := Int32

/-- The number of a node. -/
abbrev NodeId := UInt32

/-- Something that carries its own number. -/
class Numbered (α : Type) where
  /-- The number. -/
  number : α → ElementId

/-- A line of the list of maps. -/
structure MapEntry where
  id : MapId
  name : String
deriving DecidableEq, Repr

/-- A symbol on a map. -/
structure Symbol where
  id : ElementId
  /-- The node that the symbol stands for, or the map that it opens. -/
  objectId : Int32
  x : Int32
  y : Int32
  name : String
  kind : String
deriving DecidableEq, Repr

namespace Symbol

/-- The kind of symbols that open another map. -/
def submapKind : String := "Map:Submap"

/-- The name of a symbol that stands for nothing known. -/
def defaultName : String := "unnamed"

/-- The kind of a symbol that stands for nothing known. -/
def defaultKind : String := "unknown"

/-- A symbol that a session has just placed. -/
def placed (id : ElementId) (x y : Int32) : Symbol :=
  ⟨id, 0, x, y, defaultName, defaultKind⟩

/-- Whether the symbol opens another map. -/
def isSubmap (s : Symbol) : Bool :=
  s.kind == submapKind

/-- The symbol moved by an offset; coordinates wrap around. -/
def moved (s : Symbol) (dx dy : Int32) : Symbol :=
  { s with x := s.x + dx, y := s.y + dy }

instance : Numbered Symbol := ⟨Symbol.id⟩

end Symbol

/-- A connection between two symbols of a map. -/
structure Connection where
  id : ElementId
  sym0 : ElementId
  sym1 : ElementId
deriving DecidableEq, Repr

instance : Numbered Connection := ⟨Connection.id⟩

/-- The contents of a map. -/
structure Diagram where
  symbols : List Symbol := []
  connections : List Connection := []
deriving DecidableEq, Repr

/-- The fields of a node that sessions may edit. -/
structure NodeFields where
  objectId : String := ""
  name : String := ""
  contact : String := ""
  location : String := ""
  description : String := ""
  ipForwarding : Bool := false
  mgmtAddress : String := ""
  mgmtFlags : UInt32 := 0
  topoFlags : UInt32 := 0
deriving DecidableEq, Repr

/-- An interface of a node. -/
structure Interface where
  id : UInt32 := 0
  status : UInt32 := 0
  flags : UInt32 := 0
  ipAddress : String := ""
  ifIndex : UInt32 := 0
  description : String := ""
  ifType : UInt32 := 0
  physAddress : String := ""
deriving DecidableEq, Repr

/-- Everything that is known of a node. -/
structure NodeRecord where
  fields : NodeFields := {}
  interfaces : List Interface := []
deriving DecidableEq, Repr

end TopoSync
