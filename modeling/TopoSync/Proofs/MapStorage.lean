import TopoSync.Proofs.Counterparts
import TopoSync.Proofs.Histories

/-!
# Maps in a database

A symbol is stored without its name and its kind.  When its map is loaded, both are looked up: a symbol
that opens a map shows the name of that map, and any other symbol shows the name of its node and the
icon of the object identity of the node.  Each row is joined with one map, one node and one icon at
most, so there is one symbol for each row, and it is the symbol that was saved last under its number,
with the name and the kind that there are for it now.
-/

namespace TopoSync

namespace Database

open DatabaseCall

variable {d d' : Database} {map : MapId} {contents : Diagram}

/-- A saved symbol as it is shown when its map is loaded. -/
def shown (d : Database) (s : Symbol) : Symbol :=
  if s.isSubmap then
    { s with
      name := (d.maps.get? s.objectId).getD Symbol.defaultName
      kind := Symbol.submapKind }
  else
    { s with
      name := ((d.nodeOf? s.objectId).map NodeFields.name).getD Symbol.defaultName
      kind := ((d.nodeOf? s.objectId).bind fun fields => d.icons.get? fields.objectId).getD
        Symbol.defaultKind }

/-- It is what is read of its row. -/
theorem symbolAt_symbolRow (d : Database) (map : MapId) (s : Symbol) :
    d.symbolAt s.id (symbolRow map s).2 = d.shown s := by
  rw [symbolAt, symbolRow, shown, symbolOf]
  cases s.isSubmap <;> rfl

/-- What is read of a map whose rows are those of some symbols. -/
theorem symbolsOf_of_rows {symbols : List Symbol}
    (rows : rowsOf d.symbols map = symbols.map (symbolRow map)) :
    (d.symbolsOf map).Perm (symbols.map d.shown) := by
  rw [symbolsOf_eq]
  refine (List.mergeSort_perm _ _).trans (.of_eq ?_)
  show (rowsOf d.symbols map).map (fun e => d.symbolAt e.1.2 e.2) = _
  rw [rows, List.map_map]
  exact List.map_congr_left fun s _ => d.symbolAt_symbolRow map s

theorem connectionsOf_of_rows {connections : List Connection}
    (rows : rowsOf d.connections map = connections.map (connectionRow map)) :
    (d.connectionsOf map).Perm connections := by
  refine (d.connectionsOf_perm map).trans (.of_eq ?_)
  show (rowsOf d.connections map).map _ = _
  rw [rows, List.map_map]
  exact List.map_id' _

/-- Elements with distinct numbers are sorted into strictly ascending order. -/
theorem ascending_mergeSort {α : Type} [Numbered α] {xs : List α}
    (distinct : (Elements.numbers
      (xs.mergeSort fun a b => Numbered.number a ≤ Numbered.number b)).Nodup) :
    (xs.mergeSort fun a b => Numbered.number a ≤ Numbered.number b).Pairwise fun a b =>
      Numbered.number a < Numbered.number b := by
  have once := ((List.mergeSort_perm xs _).map Numbered.number).nodup_iff.mp distinct
  have keys := once.map (f := Int32.toInt) fun a b => Int32.toInt_inj.mp
  rw [List.map_map] at keys
  refine (pairwise_lt_mergeSort (fun a => (Numbered.number a).toInt) (fun a b => ?_) keys).imp ?_
  · rw [decide_eq_true_iff, Int32.le_iff_toInt_le]
  · exact Int32.lt_iff_toInt_lt.mpr

/-- What is read of a map is in strictly ascending order. -/
theorem ascending_of_map? (read : d.map? map = some contents) :
    contents.symbols.Pairwise (fun s s' => s.id < s'.id) ∧
      contents.connections.Pairwise fun c c' => c.id < c'.id := by
  have distinct := distinct_of_map? read
  obtain ⟨-, rfl⟩ := map?_eq_some_iff.mp read
  exact ⟨ascending_mergeSort distinct.symbols, ascending_mergeSort distinct.connections⟩

/-- What is read of a map depends on its own rows, and on the names and icons that there are. -/
theorem map?_congr (maps : d'.maps = d.maps) (nodes : d'.nodes = d.nodes)
    (icons : d'.icons = d.icons) (symbols : rowsOf d'.symbols map = rowsOf d.symbols map)
    (connections : rowsOf d'.connections map = rowsOf d.connections map) :
    d'.map? map = d.map? map := by
  have joined : d'.joinSymbol = d.joinSymbol := by
    funext id row
    rw [joinSymbol, joinSymbol, maps, nodes, icons]
  have shown : d'.symbolsOf map = d.symbolsOf map := by
    show ((rowsOf d'.symbols map).flatMap fun e => d'.joinSymbol e.1.2 e.2).mergeSort _ = _
    rw [symbols, joined]
    rfl
  have connected : d'.connectionsOf map = d.connectionsOf map := by
    show ((rowsOf d'.connections map).map _).mergeSort _ = _
    rw [connections]
    rfl
  rw [map?, map?, maps, shown, connected]

/-- Saving a map changes nothing that is read of another map or of a node. -/
theorem reads_saveMap (d : Database) (map : MapId) (contents : Diagram) :
    (∀ q, q ≠ map → (Store.saveMap d map contents).2.map? q = d.map? q) ∧
      ∀ node, (Store.saveMap d map contents).2.node? node = d.node? node := by
  have saving : Store.saveMap d map contents = d.call (.saveMap map contents) := rfl
  rw [saving]
  rcases d.call_cases (.saveMap map contents) with ⟨-, step⟩ | ⟨e, failed⟩
  · generalize (d.call (.saveMap map contents)).2 = d' at step
    refine ⟨fun q other => ?_, ?_⟩
    · have symbols := step.symbols q
      have connections := step.connections q
      rw [contents?, if_neg other] at symbols connections
      cases step
      exact map?_congr rfl rfl rfl symbols connections
    · cases step
      exact fun _ => rfl
  · rw [failed]
    exact ⟨fun _ _ => rfl, fun _ => rfl⟩

end Database

open Database DatabaseCall

/-- Whatever calls a database has served, a map that is loaded has one symbol for each row of it and no
other, in ascending order.  They are the symbols of the contents that were saved last, none if there was
no save, each with the name and the kind that there are for it now: the name of the map that it opens,
or the name of its node and the icon of the identity of that node, as they were given last.  The
connections are those that were saved, in ascending order.  Nothing is loaded exactly if the map is not
in the table of maps.  Saving a map makes no difference to what is loaded of another map or of a node. -/
theorem maps_shown_as_saved (calls : List DatabaseCall) (map : MapId) :
    let d := Database.after {} calls
    let done := Database.history {} calls
    let saved := (last? (contents? map) done).getD {}
    (∃ loaded, Store.loadMap d map = (.ok loaded, d) ∧ (loaded = none ↔ d.maps.get? map = none) ∧
      ∀ contents, loaded = some contents →
        (contents.symbols.map Symbol.placement).Perm
          ((rowsOf d.symbols map).map fun e => e.2.placement e.1.2) ∧
        contents.symbols.Perm (saved.symbols.map d.shown) ∧
        contents.symbols.Pairwise (fun s s' => s.id < s'.id) ∧
        contents.connections.Perm saved.connections ∧
        contents.connections.Pairwise fun c c' => c.id < c'.id) ∧
    (∀ q, d.maps.get? q = last? (name? q) done) ∧
    (∀ node, d.nodes.get? node = last? (fields? node) done) ∧
    (∀ objectId, d.icons.get? objectId = last? (icon? objectId) done) ∧
    ∀ contents,
      (∀ q, q ≠ map →
        (Store.loadMap (Store.saveMap d map contents).2 q).1 = (Store.loadMap d q).1) ∧
      ∀ node, (Store.loadNode (Store.saveMap d map contents).2 node).1 = (Store.loadNode d node).1 := by
  intro d done saved
  have held : d.Follows done := follows_history calls
  refine ⟨⟨d.map? map, rfl, ?_, ?_⟩, held.maps, held.nodes, held.icons, ?_⟩
  · rw [map?, Table.contains_eq_isSome]
    cases d.maps.get? map <;> simp
  · intro contents read
    obtain ⟨symbolsAscend, connectionsAscend⟩ := ascending_of_map? read
    obtain ⟨-, rfl⟩ := map?_eq_some_iff.mp read
    exact ⟨d.placements_symbolsOf map, symbolsOf_of_rows (held.symbols map), symbolsAscend,
      connectionsOf_of_rows (held.connections map), connectionsAscend⟩
  · intro contents
    obtain ⟨otherMaps, nodes⟩ := d.reads_saveMap map contents
    exact ⟨fun q other => congrArg Except.ok (otherMaps q other),
      fun node => congrArg Except.ok (nodes node)⟩

-- 8 is the number of a map and of a node; the icon and the map are added after the save
example :
    let saved : Diagram :=
      ⟨[⟨3, -8, 0, 0, "", ""⟩, ⟨1, 8, 5, 5, "", Symbol.submapKind⟩, ⟨2, 8, 0, 0, "", ""⟩], []⟩
    let calls : List DatabaseCall :=
      [.insertMap 7 "plan", .insertNode 8 ⟨{ objectId := "x", name := "core" }, []⟩,
        .saveMap 7 saved, .insertMap 8 "cellar", .insertIcon "x" "router"]
    (Database.after {} calls).map? 7 = some
      ⟨[⟨1, 8, 5, 5, "cellar", Symbol.submapKind⟩, ⟨2, 8, 0, 0, "core", "router"⟩,
        ⟨3, -8, 0, 0, Symbol.defaultName, Symbol.defaultKind⟩], []⟩ := by
  decide_cbv

end TopoSync
