import TopoSync.Diagram

/-!
# Stores

A store keeps maps and nodes while no session has them open.  It may fail whenever it is asked, and
it may change whenever it is asked, so every operation gives its answer together with the store as it
is afterwards.
-/

namespace TopoSync

/-- Why a store did not do what it was asked. -/
inductive StoreError
  /-- The store takes no maps at present. -/
  | mapRejected (map : MapId)
  /-- The store takes no nodes at present. -/
  | nodeRejected (node : NodeId)
  | noSuchNode (node : NodeId)
  /-- Two rows of a table would have one primary key. -/
  | duplicateKey (table : String)
  /-- The store could not be read, for reasons given outermost first. -/
  | unreadable (causes : List String)
deriving DecidableEq, Repr

/-- The text of a store error. -/
def StoreError.message : StoreError → String
  | mapRejected map => s!"save of map {map} rejected"
  | nodeRejected node => s!"save of node {node} rejected"
  | noSuchNode node => s!"node {node} does not exist"
  | duplicateKey table => s!"duplicate key in table {table}"
  | unreadable causes => ": ".intercalate causes

/-- What the server asks of a store. -/
class Store (σ : Type) where
  /-- Every map, in ascending order. -/
  listMaps : σ → Except StoreError (List MapEntry) × σ
  /-- The contents of a map, if there is such a map. -/
  loadMap : σ → MapId → Except StoreError (Option Diagram) × σ
  /-- Replaces the contents of a map. -/
  saveMap : σ → MapId → Diagram → Except StoreError Unit × σ
  /-- The record of a node, if there is such a node. -/
  loadNode : σ → NodeId → Except StoreError (Option NodeRecord) × σ
  /-- Replaces the fields of a node. -/
  saveNode : σ → NodeId → NodeFields → Except StoreError Unit × σ

/-- The list of maps in ascending order of their numbers. -/
def MapEntry.sorted (entries : List MapEntry) : List MapEntry :=
  entries.mergeSort fun a b => a.id ≤ b.id

end TopoSync
