import Mathlib.Data.List.Perm.Basic
import TopoSync.Proofs.PrimaryKeys

/-!
# Rows and what is read of them

What is read of a map has one symbol for each row of a symbol and one connection for each row of a
connection, in whatever order.  Names and icons are looked up elsewhere, and they are all that other
rows decide.  So what was saved of a map is read again, apart from the order and from names and icons.
-/

namespace TopoSync

/-- Whether two contents have the same symbols in the same places and the same connections, in whatever
order and whatever the symbols are called. -/
structure Diagram.Alike (d d' : Diagram) : Prop where
  symbols : (d.symbols.map Symbol.placement).Perm (d'.symbols.map Symbol.placement)
  connections : d.connections.Perm d'.connections

namespace Diagram.Alike

variable {d d' d'' : Diagram}

theorem refl (d : Diagram) : d.Alike d :=
  ⟨.refl _, .refl _⟩

theorem symm (alike : d.Alike d') : d'.Alike d :=
  ⟨alike.symbols.symm, alike.connections.symm⟩

theorem trans (one : d.Alike d') (two : d'.Alike d'') : d.Alike d'' :=
  ⟨one.symbols.trans two.symbols, one.connections.trans two.connections⟩

end Diagram.Alike

namespace Table

variable {κ α : Type} [DecidableEq κ] {t u : Table κ α}

/-- Rows that are added come last. -/
theorem entries_insertAllNew? {rows : List (κ × α)} (added : t.insertAllNew? rows = some u) :
    u.entries = t.entries ++ rows := by
  induction rows generalizing t with
  | nil =>
      cases added
      exact (List.append_nil _).symm
  | cons e rest ih =>
      obtain ⟨k, a⟩ := e
      obtain ⟨t', first, later⟩ := Option.bind_eq_some_iff.mp added
      rw [insertNew?] at first
      split at first
      · cases first
      · rename_i absent
        cases first
        rw [ih later, insert, dif_neg absent, List.append_assoc]
        rfl

/-- Rows can be added exactly if their keys are distinct and new. -/
theorem insertAllNew?_eq_none_iff {rows : List (κ × α)} :
    t.insertAllNew? rows = none ↔ ¬ ((rows.map Prod.fst).Nodup ∧ ∀ e ∈ rows, e.1 ∉ t.keys) := by
  constructor
  · rintro failing ⟨distinct, fresh⟩
    obtain ⟨u, added, -⟩ := insertAllNew?_of_new distinct fresh
    rw [failing] at added
    cases added
  · intro unfit
    cases added : t.insertAllNew? rows with
    | none => rfl
    | some u =>
        -- in the table with the rows, all keys are distinct
        have all := u.distinct
        rw [entries_insertAllNew? added, List.map_append, List.nodup_append] at all
        refine absurd ⟨all.2.1, fun e member taken => ?_⟩ unfit
        exact all.2.2 e.1 taken e.1 (List.mem_map_of_mem member) rfl

end Table

namespace Database

variable {d d' : Database} {map : MapId} {contents : Diagram}

/-- What the rows of a map say it contains. -/
def contentsOf (d : Database) (map : MapId) : Diagram :=
  ⟨d.symbolsOf map, d.connectionsOf map⟩

theorem map?_eq_some_iff :
    d.map? map = some contents ↔ d.maps.contains map = true ∧ d.contentsOf map = contents := by
  rw [map?]
  split
  · rename_i known
    simp [known, contentsOf]
  · rename_i unknown
    simp [unknown]

theorem placements_symbolsOf (d : Database) (map : MapId) :
    ((d.symbolsOf map).map Symbol.placement).Perm
      ((d.symbols.entries.filter fun e => e.1.1 == map).map fun e => e.2.placement e.1.2) := by
  rw [symbolsOf_eq]
  refine ((List.mergeSort_perm _ _).map Symbol.placement).trans (.of_eq ?_)
  exact List.map_map

theorem connectionsOf_perm (d : Database) (map : MapId) :
    (d.connectionsOf map).Perm
      ((d.connections.entries.filter fun e => e.1.1 == map).map fun e =>
        ⟨e.1.2, e.2.sym0, e.2.sym1⟩) :=
  List.mergeSort_perm _ _

/-- The contents of a map depend on its rows alone. -/
theorem alike_of_rows
    (symbols : (d'.symbols.entries.filter fun e => e.1.1 == map) =
      d.symbols.entries.filter fun e => e.1.1 == map)
    (connections : (d'.connections.entries.filter fun e => e.1.1 == map) =
      d.connections.entries.filter fun e => e.1.1 == map) :
    (d.contentsOf map).Alike (d'.contentsOf map) := by
  constructor
  · refine (d.placements_symbolsOf map).trans ?_
    rw [← symbols]
    exact (d'.placements_symbolsOf map).symm
  · refine (d.connectionsOf_perm map).trans ?_
    rw [← connections]
    exact (d'.connectionsOf_perm map).symm

/-- Rows of a map that are added in place of others are its rows, and every other map has the rows that
it had; likewise for the rows of a node. -/
theorem filter_replaced {κ ι α β : Type} [DecidableEq κ] [DecidableEq ι] {t u : Table (κ × ι) β}
    {k : κ} (row : α → (κ × ι) × β) (here : ∀ a, (row a).1.1 = k) {xs : List α}
    (added : (t.eraseWhere fun key => key.1 == k).insertAllNew? (xs.map row) = some u) (q : κ) :
    (u.entries.filter fun e => e.1.1 == q) =
      if q = k then xs.map row else t.entries.filter fun e => e.1.1 == q := by
  rw [Table.entries_insertAllNew? added, List.filter_append, Table.eraseWhere, List.filter_filter]
  split
  · rename_i same
    have gone : (t.entries.filter fun e => e.1.1 == q && !(e.1.1 == k)) = [] := by
      simp [same]
    have all : (xs.map row).filter (fun e => e.1.1 == q) = xs.map row := by
      simp [List.filter_eq_self, same, here]
    rw [gone, all, List.nil_append]
  · rename_i other
    have kept : (t.entries.filter fun e => e.1.1 == q && !(e.1.1 == k)) =
        t.entries.filter fun e => e.1.1 == q := by
      refine List.filter_congr fun e _ => ?_
      by_cases same : e.1.1 = q
      · simp [same, other]
      · simp [same]
    have none : (xs.map row).filter (fun e => e.1.1 == q) = [] := by
      simp [List.filter_eq_nil_iff, here, Ne.symm other]
    rw [kept, none, List.append_nil]

/-- They can be added exactly if their numbers are distinct, whatever was there before. -/
theorem replaced_eq_none_iff {κ ι α β : Type} [DecidableEq κ] [DecidableEq ι] {t : Table (κ × ι) β}
    {k : κ} {number : α → ι} (row : α → (κ × ι) × β) (key : ∀ a, (row a).1 = (k, number a))
    {xs : List α} :
    (t.eraseWhere fun key => key.1 == k).insertAllNew? (xs.map row) = none ↔
      ¬ (xs.map number).Nodup := by
  have keys : (xs.map row).map Prod.fst = (xs.map number).map (k, ·) := by
    rw [List.map_map, List.map_map]
    exact List.map_congr_left fun a _ => key a
  have fresh : ∀ e ∈ xs.map row, e.1 ∉ (t.eraseWhere fun key => key.1 == k).keys := by
    intro e member
    obtain ⟨a, -, rfl⟩ := List.mem_map.mp member
    rw [key, ← Table.get?_eq_none_iff, Table.get?_eraseWhere, if_pos (beq_self_eq_true k)]
  rw [Table.insertAllNew?_eq_none_iff, and_iff_left fresh, keys,
    List.nodup_map_iff fun a b same => (Prod.mk.inj same).2]

/-- A change that is committed is made, or the database stays as it is. -/
theorem commit_cases (d : Database) (change : Except StoreError Database) :
    (∃ changed, change = .ok changed ∧ d.commit change = (.ok (), changed)) ∨
      ∃ e, d.commit change = (.error e, d) := by
  cases change with
  | ok changed => exact .inl ⟨changed, rfl, rfl⟩
  | error e => exact .inr ⟨e, rfl⟩

/-- The row that is stored for an interface. -/
def interfaceRow (node : NodeId) (i : Interface) : (NodeId × UInt32) × Interface :=
  ((node, i.id), i)

/-- What is stored when a map is saved. -/
theorem putMap_eq_ok (saved : d.putMap map contents = .ok d') :
    ∃ symbols connections,
      (d.symbols.eraseWhere fun key => key.1 == map).insertAllNew?
        (contents.symbols.map (symbolRow map)) = some symbols ∧
      (d.connections.eraseWhere fun key => key.1 == map).insertAllNew?
        (contents.connections.map (connectionRow map)) = some connections ∧
      d' = { d with symbols, connections } := by
  rw [putMap] at saved
  split at saved
  · cases saved
  · rename_i symbols fitted
    split at saved
    · cases saved
    · rename_i connections fitted'
      exact ⟨symbols, connections, fitted, fitted', (Except.ok.inj saved).symm⟩

/-- What is stored when a node is added. -/
theorem insertNode_eq_ok {node : NodeId} {record : NodeRecord}
    (added : d.insertNode node record = .ok d') :
    ∃ interfaces, (d.interfaces.eraseWhere fun key => key.1 == node).insertAllNew?
        (record.interfaces.map (interfaceRow node)) = some interfaces ∧
      d' = { d with nodes := d.nodes.insert node record.fields, interfaces } := by
  rw [insertNode] at added
  split at added
  · cases added
  · rename_i interfaces fitted
    exact ⟨interfaces, fitted, (Except.ok.inj added).symm⟩

/-- What is stored when the fields of a node are saved. -/
theorem putNode_eq_ok {node : NodeId} {fields : NodeFields} (saved : d.putNode node fields = .ok d') :
    d.nodes.contains node = true ∧ d' = { d with nodes := d.nodes.insert node fields } := by
  rw [putNode] at saved
  split at saved
  · rename_i known
    exact ⟨known, (Except.ok.inj saved).symm⟩
  · cases saved

/-- Saving a map changes rows of maps only. -/
theorem tables_putMap (saved : d.putMap map contents = .ok d') :
    d'.maps = d.maps ∧ d'.nodes = d.nodes ∧ d'.interfaces = d.interfaces := by
  obtain ⟨symbols, connections, -, -, rfl⟩ := putMap_eq_ok saved
  exact ⟨rfl, rfl, rfl⟩

/-- After a save, the rows of the map say what was saved, and those of every other map what they said
before. -/
theorem alike_putMap (saved : d.putMap map contents = .ok d') (q : MapId) :
    (if q = map then contents else d.contentsOf q).Alike (d'.contentsOf q) := by
  obtain ⟨symbols, connections, added, added', rfl⟩ := putMap_eq_ok saved
  have places := filter_replaced (symbolRow map) (fun _ => rfl) added q
  have ends := filter_replaced (connectionRow map) (fun _ => rfl) added' q
  split at places
  · rename_i here
    rw [if_pos here] at ends
    refine ⟨?_, ?_⟩
    · refine .trans ?_ (placements_symbolsOf _ q).symm
      rw [if_pos here, places, List.map_map]
      exact .refl _
    · refine .trans ?_ (connectionsOf_perm _ q).symm
      rw [if_pos here, ends, List.map_map]
      exact .of_eq (List.map_id' _).symm
  · rename_i other
    rw [if_neg other] at ends
    rw [if_neg other]
    exact alike_of_rows places ends

/-- Fields of a node are nothing to what the rows of maps say. -/
theorem alike_saveNode (d : Database) (node : NodeId) (fields : NodeFields) (q : MapId) :
    (Store.saveNode d node fields).2.maps = d.maps ∧
      (d.contentsOf q).Alike ((Store.saveNode d node fields).2.contentsOf q) := by
  have saving : (Store.saveNode d node fields).2 = (d.commit (d.putNode node fields)).2 := rfl
  rw [saving, putNode]
  split
  · exact ⟨rfl, alike_of_rows rfl rfl⟩
  · exact ⟨rfl, .refl _⟩

end Database

end TopoSync
