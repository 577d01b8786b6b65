import Mathlib.Data.List.Nodup
import TopoSync.Proofs.Numbers
import TopoSync.Proofs.Tables
import TopoSync.Store.Database

/-!
# Primary keys

A store in tables keeps one row for a key.  So what is read from it has distinct numbers: each row of a
symbol is joined with one map, one node and one icon at most.  And contents with distinct numbers can
always be saved, because the rows of the map are taken out before.
-/

namespace TopoSync

namespace Table

variable {κ α : Type}

variable [DecidableEq κ] {t : Table κ α}

/-- The entries that a key selects are what is found under it. -/
theorem filter_of_key (t : Table κ α) {k : κ} {p : κ × α → Bool}
    (onKey : ∀ e, p e = true ↔ e.1 = k) :
    t.entries.filter p = ((t.get? k).map fun a => (k, a)).toList := by
  have same : ∀ e ∈ t.entries, p e = (decide (e.1 = k) && true) := by
    intro e _
    rw [Bool.and_true, Bool.eq_iff_iff, onKey, decide_eq_true_iff]
  rw [List.filter_congr same, t.filter_key k fun _ => true]
  cases t.get? k <;> rfl

theorem mem_keys_insert {k q : κ} {a : α} : q ∈ (t.insert k a).keys ↔ q = k ∨ q ∈ t.keys := by
  rw [← contains_iff_mem_keys, contains_insert, Bool.or_eq_true, decide_eq_true_iff,
    contains_iff_mem_keys]

/-- Rows with new and distinct keys can be added.  Each of them is found afterwards, and under any
other key what was there before. -/
theorem insertAllNew?_of_new {rows : List (κ × α)} (distinct : (rows.map Prod.fst).Nodup)
    (fresh : ∀ e ∈ rows, e.1 ∉ t.keys) :
    ∃ u, t.insertAllNew? rows = some u ∧ (∀ e ∈ rows, u.get? e.1 = some e.2) ∧
      ∀ k, k ∉ rows.map Prod.fst → u.get? k = t.get? k := by
  induction rows generalizing t with
  | nil => exact ⟨t, rfl, nofun, fun _ _ => rfl⟩
  | cons e rest ih =>
      obtain ⟨k, a⟩ := e
      obtain ⟨once, distinct⟩ := List.nodup_cons.mp distinct
      -- the rows that follow are new to the table with the first one in it, too
      have later : ∀ e ∈ rest, e.1 ∉ (t.insert k a).keys := by
        intro e member taken
        rcases mem_keys_insert.mp taken with same | taken
        · exact once (List.mem_map.mpr ⟨e, member, same⟩)
        · exact fresh e (List.mem_cons_of_mem _ member) taken
      obtain ⟨u, added, found, others⟩ := ih distinct later
      refine ⟨u, ?_, ?_, ?_⟩
      · rw [insertAllNew?, insertNew?, if_neg (fresh (k, a) List.mem_cons_self)]
        exact added
      · intro e member
        rcases List.mem_cons.mp member with rfl | member
        · rw [others k once, get?_insert_self]
        · exact found e member
      · intro q absent
        rw [List.map_cons, List.mem_cons, not_or] at absent
        rw [others q absent.2, get?_insert_of_ne absent.1]

theorem get?_eraseWhere (t : Table κ α) (p : κ → Bool) (k : κ) :
    (t.eraseWhere p).get? k = if p k then none else t.get? k := by
  refine Option.ext fun a => ?_
  rw [← mem_entries_iff, eraseWhere, List.mem_filter, mem_entries_iff]
  cases p k <;> simp

end Table

/-- The number of a symbol, what it stands for and where it is. -/
def Symbol.placement (s : Symbol) : ElementId × Int32 × Int32 × Int32 :=
  (s.id, s.objectId, s.x, s.y)

/-- The same of the row with a given number. -/
def SymbolRow.placement (id : ElementId) (row : SymbolRow) : ElementId × Int32 × Int32 × Int32 :=
  (id, row.objectId, row.x, row.y)

namespace Database

variable {d : Database} {map : MapId}

/-- The key of the node with a given number, unless the number is negative. -/
def nodeKey? (number : Int32) : Option NodeId :=
  if 0 ≤ number.toInt then some (UInt32.ofNat number.toInt.toNat) else none

theorem nodeKey?_eq_some_iff {number : Int32} {node : NodeId} :
    nodeKey? number = some node ↔ (node.toNat : Int) = number.toInt := by
  have below := number.toInt_lt
  rw [nodeKey?]
  split
  · rename_i natural
    rw [Option.some_inj, ← UInt32.toNat_inj, UInt32.toNat_ofNat']
    omega
  · rename_i negative
    constructor
    · exact nofun
    · intro same
      omega

/-- The fields of the node with a given number. -/
def nodeOf? (d : Database) (number : Int32) : Option NodeFields :=
  (nodeKey? number).bind d.nodes.get?

theorem nodeOf?_eq_some_iff {number : Int32} {fields : NodeFields} :
    d.nodeOf? number = some fields ↔
      ∃ node, d.nodes.get? node = some fields ∧ (node.toNat : Int) = number.toInt := by
  simp only [nodeOf?, Option.bind_eq_some_iff, nodeKey?_eq_some_iff, and_comm]

/-- The symbol that is read of a row. -/
def symbolAt (d : Database) (id : ElementId) (row : SymbolRow) : Symbol :=
  symbolOf id row
    (if row.submap then d.maps.get? row.objectId else (d.nodeOf? row.objectId).map NodeFields.name)
    ((d.nodeOf? row.objectId).bind fun fields => d.icons.get? fields.objectId)

theorem outerJoin_toList {α : Type} (match? : Option α) : outerJoin match?.toList = [match?] := by
  cases match? <;> rfl

/-- A row is joined with the map of its number, if there is one. -/
theorem mapsJoined_eq (d : Database) (number : MapId) :
    (d.maps.entries.filter fun m => m.1 == number) =
      ((d.maps.get? number).map fun name => (number, name)).toList :=
  d.maps.filter_of_key fun _ => beq_iff_eq

/-- A row is joined with the node of its number, if there is one. -/
theorem nodesJoined_eq (d : Database) (number : Int32) :
    (d.nodes.entries.filter fun n => n.1.toNat == number.toInt) =
      ((nodeKey? number).bind fun key =>
        (d.nodes.get? key).map fun fields => (key, fields)).toList := by
  cases key : nodeKey? number with
  | none =>
      refine List.filter_eq_nil_iff.mpr fun n _ same => ?_
      rw [nodeKey?_eq_some_iff.mpr (beq_iff_eq.mp same)] at key
      cases key
  | some node =>
      refine d.nodes.filter_of_key fun n => ?_
      rw [beq_iff_eq, ← nodeKey?_eq_some_iff.mp key, Int.ofNat_inj, UInt32.toNat_inj]

/-- A node is joined with the icon of its object identity, if there is one. -/
theorem iconsJoined_eq (d : Database) (node? : Option (NodeId × NodeFields)) :
    (d.icons.entries.filter fun i => node?.any fun n => i.1 == n.2.objectId) =
      (node?.bind fun n =>
        (d.icons.get? n.2.objectId).map fun icon => (n.2.objectId, icon)).toList := by
  cases node? with
  | none => exact List.filter_eq_nil_iff.mpr fun _ _ => Bool.false_ne_true
  | some n => exact d.icons.filter_of_key fun _ => beq_iff_eq

/-- A row is joined with one map, one node and one icon at most, so one symbol is read of it. -/
theorem joinSymbol_eq (d : Database) (id : ElementId) (row : SymbolRow) :
    d.joinSymbol id row = [d.symbolAt id row] := by
  have unmatched : ∀ {α : Type} (xs : List α),
      xs.filter (fun _ => false) = (none : Option α).toList :=
    fun _ => List.filter_eq_nil_iff.mpr fun _ _ => Bool.false_ne_true
  rw [joinSymbol, symbolAt]
  cases opens : row.submap with
  | true =>
      simp only [Bool.true_and, Bool.not_true, Bool.false_and, unmatched, mapsJoined_eq,
        iconsJoined_eq, outerJoin_toList, List.flatMap_singleton, List.map_singleton]
      cases d.maps.get? row.objectId <;> simp [symbolOf, opens]
  | false =>
      simp only [Bool.false_and, Bool.not_false, Bool.true_and, unmatched, nodesJoined_eq,
        iconsJoined_eq, outerJoin_toList, List.flatMap_singleton, List.map_singleton]
      rw [nodeOf?]
      cases nodeKey? row.objectId with
      | none => rfl
      | some node =>
          cases found : d.nodes.get? node with
          | none => simp [symbolOf, found]
          | some fields =>
              cases shown : d.icons.get? fields.objectId <;> simp [symbolOf, found, shown]

theorem symbolsOf_eq (d : Database) (map : MapId) :
    d.symbolsOf map = ((d.symbols.entries.filter fun e => e.1.1 == map).map fun e =>
      d.symbolAt e.1.2 e.2).mergeSort fun a b => a.id ≤ b.id := by
  have one : (fun e : (MapId × ElementId) × SymbolRow => d.joinSymbol e.1.2 e.2) =
      fun e => [d.symbolAt e.1.2 e.2] :=
    funext fun e => d.joinSymbol_eq e.1.2 e.2
  rw [symbolsOf, List.map_eq_flatMap, one]

/-- The numbers in the rows of a map are distinct. -/
theorem nodup_rows {β : Type} (t : Table (MapId × ElementId) β) (map : MapId) :
    ((t.entries.filter fun e => e.1.1 == map).map fun e => e.1.2).Nodup := by
  have distinct := t.distinct.sublist
    ((List.filter_sublist (p := fun e => e.1.1 == map)).map Prod.fst)
  have keys : (t.entries.filter fun e => e.1.1 == map).map Prod.fst =
      ((t.entries.filter fun e => e.1.1 == map).map fun e => e.1.2).map (map, ·) := by
    rw [List.map_map]
    refine List.map_congr_left fun e member => ?_
    have here : e.1.1 = map := by simpa using (List.mem_filter.mp member).2
    simp [← here]
  rw [keys] at distinct
  exact distinct.of_map _

theorem nodup_numbers_mergeSort {α : Type} [Numbered α] {xs : List α} (before : α → α → Bool)
    (distinct : (Elements.numbers xs).Nodup) : (Elements.numbers (xs.mergeSort before)).Nodup := by
  have sorted := (List.mergeSort_perm xs before).map Numbered.number
  exact sorted.nodup_iff.mpr distinct

/-- What is read of a map has distinct numbers. -/
theorem distinct_of_map? {contents : Diagram} (read : d.map? map = some contents) :
    contents.Distinct := by
  unfold map? at read
  split at read
  · obtain rfl := Option.some.inj read
    constructor
    · dsimp only
      rw [symbolsOf_eq]
      refine nodup_numbers_mergeSort _ ?_
      rw [Elements.numbers, List.map_map]
      exact nodup_rows d.symbols map
    · refine nodup_numbers_mergeSort _ ?_
      rw [Elements.numbers, List.map_map]
      exact nodup_rows d.connections map
  · cases read

/-- Whether the rows of a map are those of some contents and no others. -/
structure Holds (d : Database) (map : MapId) (contents : Diagram) : Prop where
  symbols : ∀ s ∈ contents.symbols, d.symbols.get? (map, s.id) = some (symbolRow map s).2
  noOtherSymbol : ∀ id, id ∉ Elements.numbers contents.symbols → d.symbols.get? (map, id) = none
  connections :
    ∀ c ∈ contents.connections, d.connections.get? (map, c.id) = some (connectionRow map c).2
  noOtherConnection :
    ∀ id, id ∉ Elements.numbers contents.connections → d.connections.get? (map, id) = none

/-- Only the rows of the map matter. -/
theorem Holds.of_rows {d' : Database} {contents : Diagram} (held : d.Holds map contents)
    (symbols : ∀ id, d'.symbols.get? (map, id) = d.symbols.get? (map, id))
    (connections : ∀ id, d'.connections.get? (map, id) = d.connections.get? (map, id)) :
    d'.Holds map contents where
  symbols s member := (symbols s.id).trans (held.symbols s member)
  noOtherSymbol id absent := (symbols id).trans (held.noOtherSymbol id absent)
  connections c member := (connections c.id).trans (held.connections c member)
  noOtherConnection id absent := (connections id).trans (held.noOtherConnection id absent)

/-- The rows of a map can be replaced by any rows with distinct numbers. -/
theorem rows_replaced {α β : Type} [Numbered α] (t : Table (MapId × ElementId) β) (map : MapId)
    (row : α → (MapId × ElementId) × β) (key : ∀ a, (row a).1 = (map, Numbered.number a))
    {xs : List α} (distinct : (Elements.numbers xs).Nodup) :
    ∃ u, (t.eraseWhere fun k => k.1 == map).insertAllNew? (xs.map row) = some u ∧
      (∀ a ∈ xs, u.get? (map, Numbered.number a) = some (row a).2) ∧
      (∀ id, id ∉ Elements.numbers xs → u.get? (map, id) = none) ∧
      ∀ q, q ≠ map → ∀ id, u.get? (q, id) = t.get? (q, id) := by
  have keys : (xs.map row).map Prod.fst = (Elements.numbers xs).map (map, ·) := by
    simp only [Elements.numbers, List.map_map]
    exact List.map_congr_left fun a _ => key a
  have left : ∀ q id, (t.eraseWhere fun k => k.1 == map).get? (q, id) =
      if q = map then none else t.get? (q, id) := by
    intro q id
    simp [Table.get?_eraseWhere]
  have once : ((xs.map row).map Prod.fst).Nodup := by
    rw [keys]
    exact distinct.map fun a b same => (Prod.mk.inj same).2
  have fresh : ∀ e ∈ xs.map row, e.1 ∉ (t.eraseWhere fun k => k.1 == map).keys := by
    intro e member
    obtain ⟨a, _, rfl⟩ := List.mem_map.mp member
    rw [key, ← Table.get?_eq_none_iff, left, if_pos rfl]
  obtain ⟨u, added, found, others⟩ := Table.insertAllNew?_of_new once fresh
  refine ⟨u, added, fun a member => ?_, fun id absent => ?_, fun q other id => ?_⟩
  · rw [← key]
    exact found _ (List.mem_map_of_mem member)
  · rw [others, left, if_pos rfl]
    rw [keys]
    simpa using absent
  · rw [others, left, if_neg other]
    rw [keys]
    simp [Ne.symm other]

/-- Saving contents with distinct numbers replaces the rows of the map and nothing else. -/
theorem rows_saveMap (d : Database) (map : MapId) {contents : Diagram}
    (distinct : contents.Distinct) :
    ∃ symbols connections,
      Store.saveMap d map contents = (.ok (), { d with symbols, connections }) ∧
      Holds { d with symbols, connections } map contents ∧
      ∀ q, q ≠ map → ∀ id, symbols.get? (q, id) = d.symbols.get? (q, id) ∧
        connections.get? (q, id) = d.connections.get? (q, id) := by
  obtain ⟨symbols, added, rows, noOther, apart⟩ :=
    rows_replaced d.symbols map (symbolRow map) (fun _ => rfl) distinct.symbols
  obtain ⟨connections, added', rows', noOther', apart'⟩ :=
    rows_replaced d.connections map (connectionRow map) (fun _ => rfl) distinct.connections
  refine ⟨symbols, connections, ?_, ⟨rows, noOther, rows', noOther'⟩, ?_⟩
  · show d.commit (d.putMap map contents) = _
    simp only [putMap, added, added']
    rfl
  · exact fun q other id => ⟨apart q other id, apart' q other id⟩

/-- Contents with distinct numbers are saved: the map then has their rows, and every other map the rows
that it had. -/
theorem saveMap_of_distinct (d : Database) (map : MapId) {contents : Diagram}
    (distinct : contents.Distinct) :
    ∃ d', Store.saveMap d map contents = (.ok (), d') ∧ d'.Holds map contents ∧
      ∀ q, q ≠ map → ∀ contents', d.Holds q contents' → d'.Holds q contents' := by
  obtain ⟨symbols, connections, saved, held, apart⟩ := d.rows_saveMap map distinct
  refine ⟨_, saved, held, fun q other contents' before => ?_⟩
  exact before.of_rows (fun id => (apart q other id).1) fun id => (apart q other id).2

/-- Saving a node leaves the rows of every map. -/
theorem Holds.saveNode {contents : Diagram} (held : d.Holds map contents) (node : NodeId)
    (fields : NodeFields) : (Store.saveNode d node fields).2.Holds map contents := by
  show (d.commit (d.putNode node fields)).2.Holds map contents
  rw [putNode]
  split
  · exact held.of_rows (fun _ => rfl) fun _ => rfl
  · exact held

end Database

end TopoSync
