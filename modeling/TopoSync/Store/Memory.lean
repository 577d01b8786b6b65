import TopoSync.Store.Basic
import TopoSync.Table

/-!
# A store in memory

Maps and nodes are kept as they are handed in.  The store counts how often each of them was saved,
and it can be told to refuse every save.
-/

namespace TopoSync

/-- Maps and nodes kept in memory. -/
structure MemoryStore where
  maps : Table MapId (String × Diagram) := ∅
  nodes : Table NodeId NodeRecord := ∅
  mapSaves : Table MapId Nat := ∅
  nodeSaves : Table NodeId Nat := ∅
  /-- Whether saves are refused. -/
  refusing : Bool := false
deriving DecidableEq, Repr

namespace MemoryStore

/-- Adds or replaces a map with its name. -/
def insertMap (m : MemoryStore) (id : MapId) (name : String) (contents : Diagram) : MemoryStore :=
  { m with maps := m.maps.insert id (name, contents) }

/-- Adds or replaces a node. -/
def insertNode (m : MemoryStore) (id : NodeId) (record : NodeRecord) : MemoryStore :=
  { m with nodes := m.nodes.insert id record }

/-- How often a map was saved. -/
def mapSaveCount (m : MemoryStore) (id : MapId) : Nat :=
  (m.mapSaves.get? id).getD 0

/-- How often a node was saved. -/
def nodeSaveCount (m : MemoryStore) (id : NodeId) : Nat :=
  (m.nodeSaves.get? id).getD 0

/-- Replaces the contents of a map; a map that was not there has no name. -/
def putMap (m : MemoryStore) (id : MapId) (contents : Diagram) : MemoryStore :=
  let name := ((m.maps.get? id).map Prod.fst).getD ""
  { m with
    maps := m.maps.insert id (name, contents)
    mapSaves := m.mapSaves.insert id (m.mapSaveCount id + 1) }

/-- Replaces the fields of a node; a node that was not there has no interfaces. -/
def putNode (m : MemoryStore) (id : NodeId) (fields : NodeFields) : MemoryStore :=
  let record := (m.nodes.get? id).getD {}
  { m with
    nodes := m.nodes.insert id { record with fields }
    nodeSaves := m.nodeSaves.insert id (m.nodeSaveCount id + 1) }

/-- Every map with its name, in ascending order. -/
def mapList (m : MemoryStore) : List MapEntry :=
  MapEntry.sorted (m.maps.entries.map fun e => ⟨e.1, e.2.1⟩)

instance : Store MemoryStore where
  listMaps m := (.ok m.mapList, m)
  loadMap m id := (.ok ((m.maps.get? id).map Prod.snd), m)
  saveMap m id contents :=
    if m.refusing then (.error (.mapRejected id), m) else (.ok (), m.putMap id contents)
  loadNode m id := (.ok (m.nodes.get? id), m)
  saveNode m id fields :=
    if m.refusing then (.error (.nodeRejected id), m) else (.ok (), m.putNode id fields)

end MemoryStore

end TopoSync
