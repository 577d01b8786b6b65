import TopoSync.Proofs.Hub.Reordering
import TopoSync.Proofs.Rows

/-!
# What a store has of each map and node

What a store has can be laid out in shelves: one for each map, one for each node, and one for the rest.
Reading leaves them all as they are, and a save concerns the shelf of its map or node alone.  The store
in memory and the store in tables are both laid out like this, although the second one keeps the maps
together in its tables.
-/

namespace TopoSync

/-- A layout of what a store has. -/
structure Store.Shelves (σ : Type) [Store σ] where
  /-- What there is of one map. -/
  MapShelf : Type
  /-- What there is of one node. -/
  NodeShelf : Type
  /-- What else there is. -/
  Rest : Type
  map : σ → MapId → MapShelf
  node : σ → NodeId → NodeShelf
  rest : σ → Rest

namespace Store.Shelves

variable {σ : Type} [Store σ]

/-- Whether two stores have the same, one map and one node apart. -/
structure SameBut (shelves : Store.Shelves σ) (map? : Option MapId) (node? : Option NodeId)
    (store store' : σ) : Prop where
  maps : ∀ q, map? ≠ some q → shelves.map store' q = shelves.map store q
  nodes : ∀ q, node? ≠ some q → shelves.node store' q = shelves.node store q
  rest : shelves.rest store' = shelves.rest store

theorem SameBut.refl {shelves : Store.Shelves σ} {map? : Option MapId} {node? : Option NodeId}
    (store : σ) : shelves.SameBut map? node? store store :=
  ⟨fun _ _ => rfl, fun _ _ => rfl, rfl⟩

/-- Whether reading leaves all shelves as they are, and a save all but its own. -/
structure Separate (shelves : Store.Shelves σ) : Prop where
  listMaps : ∀ store, shelves.SameBut none none store (Store.listMaps store).2
  loadMap : ∀ store map, shelves.SameBut none none store (Store.loadMap store map).2
  saveMap : ∀ store map contents,
    shelves.SameBut (some map) none store (Store.saveMap store map contents).2
  loadNode : ∀ store node, shelves.SameBut none none store (Store.loadNode store node).2
  saveNode : ∀ store node fields,
    shelves.SameBut none (some node) store (Store.saveNode store node fields).2

end Store.Shelves

namespace MemoryStore

/-- Of a map there are its name and contents and how often it was saved, of a node its record and how
often it was saved, and there is the switch that makes saves fail. -/
def shelves : Store.Shelves MemoryStore where
  MapShelf := Option (String × Diagram) × Option Nat
  NodeShelf := Option NodeRecord × Option Nat
  Rest := Bool
  map s q := (s.maps.get? q, s.mapSaves.get? q)
  node s q := (s.nodes.get? q, s.nodeSaves.get? q)
  rest s := s.refusing

theorem separate_shelves : shelves.Separate where
  listMaps := .refl
  loadMap store _ := .refl store
  loadNode store _ := .refl store
  saveMap store map contents := by
    simp only [Store.saveMap]
    split
    · exact .refl store
    · refine ⟨fun q other => ?_, fun _ _ => rfl, rfl⟩
      have apart : ¬ q = map := fun here => other (congrArg some here.symm)
      simp only [shelves, get?_maps_putMap, get?_mapSaves_putMap, if_neg apart]
  saveNode store node fields := by
    simp only [Store.saveNode]
    split
    · exact .refl store
    · refine ⟨fun _ _ => rfl, fun q other => ?_, rfl⟩
      have apart : ¬ q = node := fun here => other (congrArg some here.symm)
      simp only [shelves, get?_nodes_putNode, get?_nodeSaves_putNode, if_neg apart]

end MemoryStore

namespace Database

/-- Of a map there are its name and its rows, of a node its fields and its interfaces, and there are
the icons. -/
def shelves : Store.Shelves Database where
  MapShelf := Option String × (ElementId → Option SymbolRow) × (ElementId → Option ConnectionRow)
  NodeShelf := Option NodeFields × (UInt32 → Option Interface)
  Rest := Table String String
  map d q := (d.maps.get? q, fun id => d.symbols.get? (q, id), fun id => d.connections.get? (q, id))
  node d q := (d.nodes.get? q, fun id => d.interfaces.get? (q, id))
  rest d := d.icons

/-- Rows of one map that are added in place of others are nothing to another map. -/
theorem get?_replaced {α β : Type} {t u : Table (MapId × ElementId) β} {map : MapId}
    (row : α → (MapId × ElementId) × β) (here : ∀ a, (row a).1.1 = map) {xs : List α}
    (added : (t.eraseWhere fun k => k.1 == map).insertAllNew? (xs.map row) = some u) {q : MapId}
    (other : q ≠ map) (id : ElementId) : u.get? (q, id) = t.get? (q, id) := by
  have rows := filter_replaced row here added q
  rw [if_neg other] at rows
  ext b
  rw [← Table.mem_entries_iff, ← Table.mem_entries_iff]
  have mine : ∀ entries : List ((MapId × ElementId) × β),
      ((q, id), b) ∈ entries ↔ ((q, id), b) ∈ entries.filter fun e => e.1.1 == q := by
    intro entries
    simp [List.mem_filter]
  rw [mine, rows, ← mine]

theorem separate_shelves : shelves.Separate where
  listMaps := .refl
  loadMap store _ := .refl store
  loadNode store _ := .refl store
  saveMap d map contents := by
    show shelves.SameBut (some map) none d (d.commit (d.putMap map contents)).2
    rcases d.commit_cases (d.putMap map contents) with ⟨d', put, saved⟩ | ⟨e, failed⟩
    · obtain ⟨symbols, connections, added, added', rfl⟩ := putMap_eq_ok put
      rw [saved]
      refine ⟨fun q other => ?_, fun _ _ => rfl, rfl⟩
      have apart : q ≠ map := fun here => other (congrArg some here.symm)
      have symbol := get?_replaced (symbolRow map) (fun _ => rfl) added apart
      have connection := get?_replaced (connectionRow map) (fun _ => rfl) added' apart
      exact congrArg (Prod.mk _) (Prod.ext (funext symbol) (funext connection))
    · rw [failed]
      exact .refl d
  saveNode d node fields := by
    show shelves.SameBut none (some node) d (d.commit (d.putNode node fields)).2
    rcases d.commit_cases (d.putNode node fields) with ⟨d', put, saved⟩ | ⟨e, failed⟩
    · obtain ⟨-, rfl⟩ := putNode_eq_ok put
      rw [saved]
      refine ⟨fun _ _ => rfl, fun q other => ?_, rfl⟩
      have apart : q ≠ node := fun here => other (congrArg some here.symm)
      exact congrArg (·, _) (Table.get?_insert_of_ne apart _ _)
    · rw [failed]
      exact .refl d

end Database

end TopoSync
