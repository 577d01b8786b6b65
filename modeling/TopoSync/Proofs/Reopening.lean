import Mathlib
import TopoSync.Proofs.Hub.Leaving
import TopoSync.Proofs.Hub.Outcomes
import TopoSync.Proofs.Rows

/-!
# Opening a map and closing it again

Whether a symbol opens another map is stored as a mark in its row.  It is read as the kind of the
symbol, and the mark is made again from the kind when the map is saved.  The kind of a symbol that
stands for a node is the name of an icon, though, which may be any text.  So the mark comes back as it
was unless the icon bears the very name that is the kind of symbols that open a map.
-/

namespace TopoSync

namespace Database

variable {d : Database} {map : MapId}

/-- Whether a row stands for a node whose icon is named like the kind of symbols that open a map. -/
def disguised (d : Database) (row : SymbolRow) : Bool :=
  !row.submap && d.nodes.entries.any fun n =>
    n.1.toNat == row.objectId.toInt && d.icons.get? n.2.objectId == some Symbol.submapKind

theorem disguised_iff {row : SymbolRow} :
    d.disguised row = true ↔ row.submap = false ∧ ∃ node fields,
      d.nodes.get? node = some fields ∧ (node.toNat : Int) = row.objectId.toInt ∧
        d.icons.get? fields.objectId = some Symbol.submapKind := by
  simp only [disguised, Bool.and_eq_true, Bool.not_eq_true', List.any_eq_true, beq_iff_eq,
    Prod.exists, Table.mem_entries_iff]

/-- The row that is stored for the symbol read of a row. -/
def reread (d : Database) (row : SymbolRow) : SymbolRow :=
  { row with submap := row.submap || d.disguised row }

/-- Exactly the rows in disguise are stored as other rows. -/
theorem reread_eq_iff {row : SymbolRow} : d.reread row = row ↔ d.disguised row = false := by
  constructor
  · intro same
    have mark : (row.submap || d.disguised row) = row.submap := congrArg SymbolRow.submap same
    cases marked : row.submap with
    | true => simp [disguised, marked]
    | false => simpa [marked] using mark
  · intro plain
    rw [reread, plain, Bool.or_false]

/-- The symbol read of a row opens a map if the row says so, or if it is in disguise. -/
theorem isSubmap_symbolAt (d : Database) (id : ElementId) (row : SymbolRow) :
    (d.symbolAt id row).isSubmap = (row.submap || d.disguised row) := by
  cases marked : row.submap with
  | true => simp [symbolAt, symbolOf, Symbol.isSubmap, marked]
  | false =>
      rw [Bool.false_or, Bool.eq_iff_iff, disguised_iff]
      constructor
      · intro shown
        cases icon : (d.nodeOf? row.objectId).bind fun fields => d.icons.get? fields.objectId with
        | none =>
            -- without an icon the kind is a default, which opens no map
            exact absurd shown (by simp [symbolAt, symbolOf, icon, Symbol.isSubmap, marked,
              Symbol.defaultKind, Symbol.submapKind])
        | some name =>
            obtain rfl : name = Symbol.submapKind := by
              simpa [symbolAt, symbolOf, icon, Symbol.isSubmap, marked] using shown
            obtain ⟨fields, known, registered⟩ := Option.bind_eq_some_iff.mp icon
            obtain ⟨node, found, same⟩ := nodeOf?_eq_some_iff.mp known
            exact ⟨marked, node, fields, found, same, registered⟩
      · rintro ⟨-, node, fields, found, same, registered⟩
        have known := nodeOf?_eq_some_iff.mpr ⟨node, found, same⟩
        simp [symbolAt, symbolOf, Symbol.isSubmap, marked, known, registered]

/-- What is stored for the symbol that is read of a row. -/
theorem symbolRow_symbolAt (d : Database) (map : MapId) (id : ElementId) (row : SymbolRow) :
    symbolRow map (d.symbolAt id row) = ((map, id), d.reread row) := by
  rw [symbolRow, isSubmap_symbolAt]
  rfl

theorem mem_symbolsOf_iff {s : Symbol} :
    s ∈ d.symbolsOf map ↔
      ∃ id row, d.symbols.get? (map, id) = some row ∧ d.symbolAt id row = s := by
  simp only [symbolsOf_eq, List.mem_mergeSort, List.mem_map, List.mem_filter, beq_iff_eq,
    ← Table.mem_entries_iff]
  constructor
  · rintro ⟨⟨⟨_, id⟩, row⟩, ⟨member, rfl⟩, joined⟩
    exact ⟨id, row, member, joined⟩
  · rintro ⟨id, row, member, joined⟩
    exact ⟨((map, id), row), ⟨member, rfl⟩, joined⟩

theorem mem_connectionsOf_iff {c : Connection} :
    c ∈ d.connectionsOf map ↔ d.connections.get? (map, c.id) = some (connectionRow map c).2 := by
  simp only [connectionsOf, List.mem_mergeSort, List.mem_map, List.mem_filter, beq_iff_eq,
    ← Table.mem_entries_iff]
  constructor
  · rintro ⟨⟨⟨_, id⟩, row⟩, ⟨member, rfl⟩, rfl⟩
    exact member
  · intro member
    exact ⟨_, ⟨member, rfl⟩, rfl⟩

/-- A database with the contents of a map as they are read of another has the rows of the other, read
and stored again. -/
theorem rows_of_holds {d' : Database} (held : d'.Holds map (d.contentsOf map)) (id : ElementId) :
    d'.symbols.get? (map, id) = (d.symbols.get? (map, id)).map d.reread ∧
      d'.connections.get? (map, id) = d.connections.get? (map, id) := by
  constructor
  · cases found : d.symbols.get? (map, id) with
    | some row =>
        have stored := d.symbolRow_symbolAt map id row
        have kept := held.symbols _ (mem_symbolsOf_iff.mpr ⟨id, row, found, rfl⟩)
        rw [stored] at kept
        exact kept
    | none =>
        refine held.noOtherSymbol id fun member => ?_
        obtain ⟨s, read, rfl⟩ := List.mem_map.mp member
        obtain ⟨id, row, there, rfl⟩ := mem_symbolsOf_iff.mp read
        exact absurd (found.symm.trans there) (by simp)
  · cases found : d.connections.get? (map, id) with
    | some row =>
        exact held.connections ⟨id, row.sym0, row.sym1⟩ (mem_connectionsOf_iff.mpr found)
    | none =>
        refine held.noOtherConnection id fun member => ?_
        obtain ⟨c, read, rfl⟩ := List.mem_map.mp member
        exact absurd (found.symm.trans (mem_connectionsOf_iff.mp read)) (by simp)

/-- Every row is the one that is read and stored again exactly if no row of the map is in disguise. -/
theorem rows_kept_iff {symbols : Table (MapId × ElementId) SymbolRow}
    (read : ∀ q id, symbols.get? (q, id) =
      (d.symbols.get? (q, id)).map fun row => if q = map then d.reread row else row) :
    (∀ key, symbols.get? key = d.symbols.get? key) ↔
      ∀ id row, d.symbols.get? (map, id) = some row → d.disguised row = false := by
  constructor
  · intro kept id row found
    have again := (read map id).symm.trans (kept (map, id))
    rw [found, Option.map_some, if_pos rfl] at again
    exact reread_eq_iff.mp (Option.some.inj again)
  · rintro plain ⟨q, id⟩
    rw [read]
    cases found : d.symbols.get? (q, id) with
    | none => rfl
    | some row =>
        by_cases here : q = map
        · subst here
          rw [Option.map_some, if_pos rfl, reread_eq_iff.mpr (plain id row found)]
        · rw [Option.map_some, if_neg here]

end Database

/-- A map that nobody has open is read when a session opens it, and saved as it was read when the
session closes it again. -/
theorem Hub.store_openMap_closeMap {σ : Type} [Store σ] {h : Hub σ} {map : MapId} (real : map ≠ 0)
    (closed : h.maps.get? map = none) {contents : Diagram} {store : σ}
    (read : Store.loadMap h.store map = (.ok (some contents), store)) (session : SessionId) :
    (h.openMap session map).1 = .ok () ∧ (h.openMap session map).2.store = store ∧
      ((h.openMap session map).2.closeMap session map).1 = .ok () ∧
      ((h.openMap session map).2.closeMap session map).2.store =
        (Store.saveMap store map contents).2 := by
  rcases h.openMap_cases session map with ⟨reserved, -⟩ | ⟨_, -, unread, -⟩ | ⟨m, -, opened, -⟩ |
    ⟨contents', store', -, -, read', done⟩
  · exact absurd reserved real
  · exact absurd (by rw [read]) (unread contents)
  · exact absurd (closed.symm.trans opened) (by simp)
  · obtain ⟨⟨⟩, ⟨⟩⟩ := Prod.mk.inj (read.symm.trans read')
    have found : (h.openMap session map).2.maps.get? map =
        some ⟨contents, Roster.insert ∅ session⟩ := by
      rw [done, maps_post, maps_putMap, Table.get?_insert_self]
    have only : OpenMap.isOnlyFor session ⟨contents, Roster.insert ∅ session⟩ = true :=
      decide_eq_true rfl
    refine ⟨by rw [done], by rw [done]; rfl, ?_, ?_⟩
    · rw [closeMap, subscribedMap?_eq_some_iff.mpr ⟨found, OpenMap.mem_of_isOnlyFor only⟩]
    · rw [store_closeMap, diagramIf?, found, Option.filter_some, if_pos only, done]
      rfl

/-- A map that is opened and closed without an edit in between is always read and always saved, and all
that this can change are the marks of its own symbols: they are made anew from the icons, so the rows in
disguise, and no others, come to open a map.  Every table is as it was exactly if there is no such row. -/
theorem marks_after_reopening (d : Database) {map : MapId} (known : d.maps.contains map = true) :
    ∃ contents d', Store.loadMap d map = (.ok (some contents), d) ∧
      Store.saveMap d map contents = (.ok (), d') ∧
      (∀ h : Hub Database, h.store = d → h.maps.get? map = none → map ≠ 0 → ∀ session,
        let opened := h.openMap session map
        let closed := opened.2.closeMap session map
        opened.1 = .ok () ∧ opened.2.store = d ∧ closed.1 = .ok () ∧ closed.2.store = d') ∧
      d'.maps = d.maps ∧ d'.nodes = d.nodes ∧ d'.interfaces = d.interfaces ∧ d'.icons = d.icons ∧
      (∀ key, d'.connections.get? key = d.connections.get? key) ∧
      (∀ q id, d'.symbols.get? (q, id) = (d.symbols.get? (q, id)).map fun row =>
        if q = map then { row with submap := row.submap || d.disguised row } else row) ∧
      (∀ row, d.disguised row = true ↔ row.submap = false ∧ ∃ node fields,
        d.nodes.get? node = some fields ∧ (node.toNat : Int) = row.objectId.toInt ∧
          d.icons.get? fields.objectId = some Symbol.submapKind) ∧
      ((∀ key, d'.symbols.get? key = d.symbols.get? key) ↔
        ∀ id row, d.symbols.get? (map, id) = some row → d.disguised row = false) := by
  have read : Store.loadMap d map = (.ok (some (d.contentsOf map)), d) := by
    show (Except.ok (d.map? map), d) = _
    rw [Database.map?_eq_some_iff.mpr ⟨known, rfl⟩]
  have distinct := Database.distinct_of_map? (Database.map?_eq_some_iff.mpr ⟨known, rfl⟩)
  obtain ⟨symbols, connections, saved, held, apart⟩ := d.rows_saveMap map distinct
  have marks : ∀ q id, symbols.get? (q, id) = (d.symbols.get? (q, id)).map fun row =>
      if q = map then d.reread row else row := by
    intro q id
    by_cases here : q = map
    · simpa [here] using (Database.rows_of_holds held id).1
    · simpa [here] using (apart q here id).1
  refine ⟨d.contentsOf map, { d with symbols, connections }, read, saved, ?_, rfl, rfl, rfl, rfl, ?_,
    marks, fun _ => Database.disguised_iff, Database.rows_kept_iff marks⟩
  · rintro h rfl closed real session
    obtain ⟨opened, same, left, written⟩ := Hub.store_openMap_closeMap real closed read session
    exact ⟨opened, same, left, written.trans (by rw [saved])⟩
  · rintro ⟨q, id⟩
    by_cases here : q = map
    · subst here
      exact (Database.rows_of_holds held id).2
    · exact (apart q here id).2

/-- Symbols of a node with an icon, of one without, of none, of a map and of no map: all rows stay. -/
theorem marks_after_reopening_ordinaryIcons :
    let d : Database :=
      { maps := ((∅ : Table MapId String).insert 7 "plan").insert 8 "cellar"
        nodes := ((∅ : Table NodeId NodeFields).insert 1 { objectId := "x", name := "core" }).insert 2
          { objectId := "y", name := "edge" }
        icons := (∅ : Table String String).insert "x" "router"
        symbols := (((((∅ : Table (MapId × ElementId) SymbolRow).insert (7, 1) ⟨1, 50, 60, false⟩).insert
          (7, 2) ⟨2, 0, 0, false⟩).insert (7, 3) ⟨9, 0, 0, false⟩).insert (7, 4) ⟨8, 0, 0, true⟩).insert
          (7, 5) ⟨9, 0, 0, true⟩ }
    d.maps.contains 7 = true ∧ ∃ contents d', Store.loadMap d 7 = (.ok (some contents), d) ∧
      Store.saveMap d 7 contents = (.ok (), d') ∧
      (∀ key, d'.symbols.get? key = d.symbols.get? key) ∧
      ∀ key, d'.connections.get? key = d.connections.get? key := by
  intro d
  have ordinary : ∀ e ∈ d.symbols.entries, d.disguised e.2 = false := by decide
  obtain ⟨contents, d', read, saved, -, -, -, -, -, ends, -, -, marks⟩ :=
    marks_after_reopening d (show d.maps.contains 7 = true by decide)
  refine ⟨by decide, contents, d', read, saved, marks.mpr fun id row found => ?_, ends⟩
  exact ordinary _ (Table.mem_entries_iff.mpr found)

/-- A symbol of a node whose icon is named like the kind of submap symbols opens a map afterwards, and no
longer shows the name of the node. -/
theorem reopening_marks_a_node :
    let stored : Diagram := ⟨[⟨1, 1, 50, 60, "core", "router"⟩], []⟩
    let read : Diagram := ⟨[⟨1, 1, 50, 60, "core", Symbol.submapKind⟩], []⟩
    ∃ named, ((({} : Database).insertMap 7 "plan").insertIcon "x" Symbol.submapKind).insertNode 1
        ⟨{ objectId := "x", name := "core" }, []⟩ = .ok named ∧
      let d := (Store.saveMap named 7 stored).2
      let d' := (Store.saveMap d 7 read).2
      (Store.saveMap named 7 stored).1 = .ok () ∧ Store.loadMap d 7 = (.ok (some read), d) ∧
      (Store.saveMap d 7 read).1 = .ok () ∧
      d.symbols.get? (7, 1) = some ⟨1, 50, 60, false⟩ ∧
      d'.symbols.get? (7, 1) = some ⟨1, 50, 60, true⟩ ∧
      d'.map? 7 = some ⟨[⟨1, 1, 50, 60, Symbol.defaultName, Symbol.submapKind⟩], []⟩ := by
  refine ⟨_, rfl, rfl, ?_, rfl, rfl, rfl, ?_⟩
  · decide_cbv
  · decide_cbv

end TopoSync
