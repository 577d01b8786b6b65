import TopoSync.Store.Basic
import TopoSync.Table

/-!
# A store in tables

Maps and nodes are spread over six tables with primary keys.  Symbols are stored without name and
kind: both are looked up again, in the tables of maps, nodes and icons, when a map is loaded.  A
change that would give two rows one primary key fails as a whole and leaves every table as it was.
-/

namespace TopoSync

namespace Table

variable {κ α : Type} [DecidableEq κ]

/-- Adds a row whose key must be new. -/
def insertNew? (t : Table κ α) (k : κ) (a : α) : Option (Table κ α) :=
  if k ∈ t.keys then none else some (t.insert k a)

/-- Adds rows one after the other, whose keys must be new. -/
def insertAllNew? (t : Table κ α) : List (κ × α) → Option (Table κ α)
  | [] => some t
  | (k, a) :: rest => (t.insertNew? k a).bind fun t => t.insertAllNew? rest

/-- Takes out every row whose key has a property. -/
def eraseWhere (t : Table κ α) (p : κ → Bool) : Table κ α where
  entries := t.entries.filter fun e => !p e.1
  distinct := t.distinct.sublist (List.filter_sublist.map Prod.fst)

end Table

/-- What is stored of a symbol. -/
structure SymbolRow where
  /-- The node that the symbol stands for, or the map that it opens. -/
  objectId : Int32
  x : Int32
  y : Int32
  submap : Bool
deriving DecidableEq, Repr

/-- What is stored of a connection. -/
structure ConnectionRow where
  sym0 : ElementId
  sym1 : ElementId
deriving DecidableEq, Repr

/-- Six tables, each with its primary key. -/
structure Database where
  /-- The names of the maps. -/
  maps : Table MapId String := ∅
  symbols : Table (MapId × ElementId) SymbolRow := ∅
  connections : Table (MapId × ElementId) ConnectionRow := ∅
  nodes : Table NodeId NodeFields := ∅
  interfaces : Table (NodeId × UInt32) Interface := ∅
  /-- The name of the icon for each object identity. -/
  icons : Table String String := ∅
deriving DecidableEq, Repr

namespace Database

/-- The result of an outer join for one row: its matches, or one row without a match. -/
def outerJoin {α : Type} (found : List α) : List (Option α) :=
  if found.isEmpty then [none] else found.map some

/-- Adds a map or renames it. -/
def insertMap (d : Database) (id : MapId) (name : String) : Database :=
  { d with maps := d.maps.insert id name }

/-- Adds or replaces the icon for an object identity. -/
def insertIcon (d : Database) (objectId name : String) : Database :=
  { d with icons := d.icons.insert objectId name }

/-- Adds or replaces a node with its interfaces. -/
def insertNode (d : Database) (id : NodeId) (record : NodeRecord) : Except StoreError Database :=
  let others := d.interfaces.eraseWhere fun key => key.1 == id
  match others.insertAllNew? (record.interfaces.map fun i => ((id, i.id), i)) with
  | none => .error (.duplicateKey "interface")
  | some interfaces => .ok { d with nodes := d.nodes.insert id record.fields, interfaces }

/-- Every map with its name, in ascending order. -/
def mapList (d : Database) : List MapEntry :=
  MapEntry.sorted (d.maps.entries.map fun e => ⟨e.1, e.2⟩)

/-- The symbol of a row, given the name that was found for it and the icon. -/
def symbolOf (id : ElementId) (row : SymbolRow) (name icon : Option String) : Symbol where
  id := id
  objectId := row.objectId
  x := row.x
  y := row.y
  name := name.getD Symbol.defaultName
  kind := if row.submap then Symbol.submapKind else icon.getD Symbol.defaultKind

/-- The symbols that one row gives rise to.  A submap symbol is joined with the map that it opens,
any other with its node, and the node with the icon of its object identity. -/
def joinSymbol (d : Database) (id : ElementId) (row : SymbolRow) : List Symbol :=
  let maps := d.maps.entries.filter fun m => row.submap && m.1 == row.objectId
  let nodes := d.nodes.entries.filter fun n => !row.submap && n.1.toNat == row.objectId.toInt
  (outerJoin maps).flatMap fun m => (outerJoin nodes).flatMap fun n =>
    let icons := d.icons.entries.filter fun i => n.any fun n => i.1 == n.2.objectId
    (outerJoin icons).map fun i =>
      symbolOf id row (if row.submap then m.map Prod.snd else n.map fun n => n.2.name)
        (i.map Prod.snd)

/-- The symbols of a map, in ascending order. -/
def symbolsOf (d : Database) (map : MapId) : List Symbol :=
  let rows := d.symbols.entries.filter fun e => e.1.1 == map
  (rows.flatMap fun e => d.joinSymbol e.1.2 e.2).mergeSort fun a b => a.id ≤ b.id

/-- The connections of a map, in ascending order. -/
def connectionsOf (d : Database) (map : MapId) : List Connection :=
  let rows := d.connections.entries.filter fun e => e.1.1 == map
  (rows.map fun e => (⟨e.1.2, e.2.sym0, e.2.sym1⟩ : Connection)).mergeSort fun a b => a.id ≤ b.id

/-- The contents of a map, if it is in the table of maps. -/
def map? (d : Database) (map : MapId) : Option Diagram :=
  if d.maps.contains map then some ⟨d.symbolsOf map, d.connectionsOf map⟩ else none

/-- The interfaces of a node, in ascending order of their index. -/
def interfacesOf (d : Database) (node : NodeId) : List Interface :=
  let rows := d.interfaces.entries.filter fun e => e.1.1 == node
  let byNumber := (rows.map Prod.snd).mergeSort fun a b => a.id ≤ b.id
  byNumber.mergeSort fun a b => a.ifIndex ≤ b.ifIndex

/-- The record of a node. -/
def node? (d : Database) (node : NodeId) : Option NodeRecord :=
  (d.nodes.get? node).map fun fields => ⟨fields, d.interfacesOf node⟩

/-- The row that is stored for a symbol. -/
def symbolRow (map : MapId) (s : Symbol) : (MapId × ElementId) × SymbolRow :=
  ((map, s.id), ⟨s.objectId, s.x, s.y, s.isSubmap⟩)

/-- The row that is stored for a connection. -/
def connectionRow (map : MapId) (c : Connection) : (MapId × ElementId) × ConnectionRow :=
  ((map, c.id), ⟨c.sym0, c.sym1⟩)

/-- Replaces the rows of a map. -/
def putMap (d : Database) (map : MapId) (contents : Diagram) : Except StoreError Database :=
  let otherSymbols := d.symbols.eraseWhere fun key => key.1 == map
  let otherConnections := d.connections.eraseWhere fun key => key.1 == map
  match otherSymbols.insertAllNew? (contents.symbols.map (symbolRow map)) with
  | none => .error (.duplicateKey "symbol")
  | some symbols =>
      match otherConnections.insertAllNew? (contents.connections.map (connectionRow map)) with
      | none => .error (.duplicateKey "conn")
      | some connections => .ok { d with symbols, connections }

/-- Replaces the fields of a node that is there. -/
def putNode (d : Database) (node : NodeId) (fields : NodeFields) : Except StoreError Database :=
  if d.nodes.contains node then .ok { d with nodes := d.nodes.insert node fields }
  else .error (.noSuchNode node)

/-- The outcome of a change: all of it, or nothing. -/
def commit (d : Database) (change : Except StoreError Database) : Except StoreError Unit × Database :=
  match change with
  | .ok changed => (.ok (), changed)
  | .error e => (.error e, d)

instance : Store Database where
  listMaps d := (.ok d.mapList, d)
  loadMap d map := (.ok (d.map? map), d)
  saveMap d map contents := d.commit (d.putMap map contents)
  loadNode d node := (.ok (d.node? node), d)
  saveNode d node fields := d.commit (d.putNode node fields)

end Database

end TopoSync
