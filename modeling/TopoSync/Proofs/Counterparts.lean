import Mathlib.Data.List.Perm.Basic
import TopoSync.Proofs.Holdings
import TopoSync.Proofs.Numbers
import TopoSync.Proofs.Rows

/-!
# Two stores with the same contents

A store in memory keeps the elements of a map in the order in which it was given them, and their names;
a database sorts them and looks their names up.  Neither order nor names matter to edits: the next free
number, and whether a number is in use, depend on the set of the numbers only, and among distinct
numbers the element that is moved or removed is the only one it could be.
-/

namespace TopoSync

/-- Two optional values that are related are both there or both not there. -/
theorem none_or_some_of_rel {α β : Type} {R : α → β → Prop} {a : Option α} {b : Option β}
    (related : Option.Rel R a b) :
    a = none ∧ b = none ∨ ∃ x y, a = some x ∧ b = some y ∧ R x y := by
  cases related with
  | none => exact .inl ⟨rfl, rfl⟩
  | some related => exact .inr ⟨_, _, rfl, rfl, related⟩

namespace Elements

variable {α : Type} [Numbered α] {xs ys : List α}

theorem freeFrom_congr {used used' : List ElementId} (same : ∀ id, id ∈ used ↔ id ∈ used')
    (n candidates : Nat) : freeFrom used n candidates = freeFrom used' n candidates := by
  simp only [freeFrom_eq_find?, same]

/-- The next free number depends on the set of the numbers in use only. -/
theorem nextFree?_congr (perm : (numbers xs).Perm (numbers ys)) : nextFree? xs = nextFree? ys :=
  freeFrom_congr (fun _ => perm.mem_iff) _ _

theorem contains_congr (perm : (numbers xs).Perm (numbers ys)) (id : ElementId) :
    contains xs id = contains ys id := by
  rw [Bool.eq_iff_iff, contains_iff_mem_numbers, contains_iff_mem_numbers, perm.mem_iff]

/-- Of distinct numbers, only one is changed. -/
theorem update_eq_map (distinct : (numbers xs).Nodup) (id : ElementId) (f : α → α) :
    update xs id f = xs.map fun x => if Numbered.number x = id then f x else x := by
  induction xs with
  | nil => rfl
  | cons x rest ih =>
      obtain ⟨fresh, distinct⟩ := List.nodup_cons.mp distinct
      rw [update, List.map_cons]
      split
      · rename_i here
        have others : rest.map (fun x => if Numbered.number x = id then f x else x) = rest := by
          refine (List.map_congr_left fun y member => ?_).trans (List.map_id' rest)
          rw [if_neg]
          intro same
          exact fresh (List.mem_map.mpr ⟨y, member, same.trans here.symm⟩)
        rw [others]
      · rw [ih distinct]

end Elements

/-- Whether contents with distinct numbers are alike. -/
structure Diagram.Matches (d d' : Diagram) : Prop extends Diagram.Alike d d' where
  distinct : d.Distinct

namespace Diagram

variable {d d' : Diagram}

theorem Alike.numbers (alike : d.Alike d') :
    (Elements.numbers d.symbols).Perm (Elements.numbers d'.symbols) ∧
      (Elements.numbers d.connections).Perm (Elements.numbers d'.connections) := by
  have symbols := alike.symbols.map Prod.fst
  rw [List.map_map, List.map_map] at symbols
  exact ⟨symbols, alike.connections.map Numbered.number⟩

theorem Alike.distinct (alike : d.Alike d') (distinct : d.Distinct) : d'.Distinct :=
  ⟨alike.numbers.1.nodup_iff.mp distinct.symbols, alike.numbers.2.nodup_iff.mp distinct.connections⟩

end Diagram

/-- Whether contents that match can be told apart neither by the numbers of a kind of element nor by
adding or removing one. -/
structure MapElement.Comparable (α : Type) [MapElement α] : Prop where
  numbers : ∀ {d d' : Diagram}, d.Alike d' →
    (Elements.numbers (MapElement.elements d : List α)).Perm
      (Elements.numbers (MapElement.elements d' : List α))
  added : ∀ {d d' : Diagram}, d.Matches d' → ∀ x : α,
    Numbered.number x ∉ Elements.numbers (MapElement.elements d : List α) →
    (MapElement.withElements d (MapElement.elements d ++ [x])).Matches
      (MapElement.withElements d' (MapElement.elements d' ++ [x]))
  removed : ∀ {d d' : Diagram}, d.Matches d' → ∀ id : ElementId,
    (MapElement.withElements d (Elements.remove (MapElement.elements d : List α) id)).Matches
      (MapElement.withElements d' (Elements.remove (MapElement.elements d' : List α) id))

theorem placements_remove {symbols : List Symbol} (distinct : (Elements.numbers symbols).Nodup)
    (id : ElementId) :
    (Elements.remove symbols id).map Symbol.placement =
      (symbols.map Symbol.placement).filter fun p => p.1 ≠ id := by
  rw [Elements.remove_eq_filter distinct, List.filter_map]
  rfl

theorem comparable_symbol : MapElement.Comparable Symbol where
  numbers alike := alike.numbers.1
  added same x fresh := by
    refine ⟨⟨?_, same.connections⟩,
      ⟨Elements.nodup_numbers_append same.distinct.symbols fresh, same.distinct.connections⟩⟩
    have places : ∀ d : Diagram, (MapElement.withElements d (MapElement.elements d ++ [x])).symbols.map
        Symbol.placement = d.symbols.map Symbol.placement ++ [x.placement] := fun d =>
      List.map_append
    rw [places, places]
    exact same.symbols.append_right _
  removed same id := by
    have distinct' := same.toAlike.distinct same.distinct
    refine ⟨⟨?_, same.connections⟩,
      ⟨Elements.nodup_numbers_remove same.distinct.symbols id, same.distinct.connections⟩⟩
    refine (List.Perm.of_eq (placements_remove same.distinct.symbols id)).trans ?_
    exact (same.symbols.filter _).trans (.of_eq (placements_remove distinct'.symbols id).symm)

theorem comparable_connection : MapElement.Comparable Connection where
  numbers alike := alike.numbers.2
  added same x fresh :=
    ⟨⟨same.symbols, same.connections.append_right _⟩,
      ⟨same.distinct.symbols, Elements.nodup_numbers_append same.distinct.connections fresh⟩⟩
  removed same id := by
    have distinct' := same.toAlike.distinct same.distinct
    refine ⟨⟨same.symbols, ?_⟩,
      ⟨same.distinct.symbols, Elements.nodup_numbers_remove same.distinct.connections id⟩⟩
    refine (List.Perm.of_eq (Elements.remove_eq_filter same.distinct.connections id)).trans ?_
    exact (same.connections.filter _).trans
      (.of_eq (Elements.remove_eq_filter distinct'.connections id).symm)

/-- Moving a symbol cannot tell them apart either. -/
theorem Diagram.Matches.moved {d d' : Diagram} (same : d.Matches d') (id : ElementId)
    (dx dy : Int32) :
    Diagram.Matches { d with symbols := Elements.update d.symbols id fun s => s.moved dx dy }
      { d' with symbols := Elements.update d'.symbols id fun s => s.moved dx dy } := by
  have distinct' := same.toAlike.distinct same.distinct
  let move (p : ElementId × Int32 × Int32 × Int32) :=
    if p.1 = id then (p.1, p.2.1, p.2.2.1 + dx, p.2.2.2 + dy) else p
  have places : ∀ {symbols : List Symbol}, (Elements.numbers symbols).Nodup →
      (Elements.update symbols id fun s => s.moved dx dy).map Symbol.placement =
        (symbols.map Symbol.placement).map move := by
    intro symbols distinct
    rw [Elements.update_eq_map distinct, List.map_map, List.map_map]
    refine List.map_congr_left fun s _ => ?_
    by_cases here : s.id = id
    · have number : Numbered.number s = id := here
      simp [move, Symbol.placement, Symbol.moved, here, number]
    · have number : Numbered.number s ≠ id := here
      simp [move, Symbol.placement, here, number]
  refine ⟨⟨?_, same.connections⟩, ⟨?_, same.distinct.connections⟩⟩
  · rw [places same.distinct.symbols, places distinct'.symbols]
    exact same.symbols.map move
  · rw [Elements.numbers_update (number_moved dx dy)]
    exact same.distinct.symbols

section Sorting

variable {α : Type} {before : α → α → Bool} (key : α → ℤ)
  (byKey : ∀ a b, before a b = true ↔ key a ≤ key b) {xs ys : List α}

include byKey

theorem pairwise_mergeSort (xs : List α) :
    (xs.mergeSort before).Pairwise fun a b => before a b = true := by
  refine List.pairwise_mergeSort (fun a b c ab bc => ?_) (fun a b => ?_) xs
  · rw [byKey] at ab bc ⊢
    exact ab.trans bc
  · rw [Bool.or_eq_true, byKey, byKey]
    exact le_total (key a) (key b)

/-- Distinct keys are sorted into strictly ascending order. -/
theorem pairwise_lt_mergeSort (distinct : (xs.map key).Nodup) :
    (xs.mergeSort before).Pairwise fun a b => key a < key b := by
  have apart := ((List.mergeSort_perm xs before).map key).nodup_iff.mpr distinct
  refine ((pairwise_mergeSort key byKey xs).and (List.pairwise_map.mp apart)).imp ?_
  rintro a b ⟨ordered, other⟩
  exact lt_of_le_of_ne ((byKey a b).mp ordered) other

/-- Of the orders of a list with distinct keys, only one is sorted. -/
theorem mergeSort_eq_of_sorted (perm : xs.Perm ys)
    (sorted : ys.Pairwise fun a b => before a b = true) (distinct : (ys.map key).Nodup) :
    xs.mergeSort before = ys := by
  have perm := (List.mergeSort_perm xs before).trans perm
  refine perm.eq_of_pairwise (fun a b first second ab ba => ?_) (pairwise_mergeSort key byKey xs) sorted
  exact List.inj_on_of_nodup_map distinct (perm.mem_iff.mp first) second
    (le_antisymm ((byKey a b).mp ab) ((byKey b a).mp ba))

theorem mergeSort_eq_of_perm (perm : xs.Perm ys) (distinct : (ys.map key).Nodup) :
    xs.mergeSort before = ys.mergeSort before :=
  mergeSort_eq_of_sorted key byKey (perm.trans (List.mergeSort_perm ys before).symm)
    (pairwise_mergeSort key byKey ys) (((List.mergeSort_perm ys before).map key).nodup_iff.mpr distinct)

end Sorting

/-- Interfaces are sorted by the numbers that their indices are. -/
theorem Interface.ifIndex_le_iff (i j : Interface) :
    decide (i.ifIndex ≤ j.ifIndex) = true ↔ (i.ifIndex.toNat : ℤ) ≤ j.ifIndex.toNat := by
  rw [decide_eq_true_iff, UInt32.le_iff_toNat_le, Int.ofNat_le]

/-- The list of maps depends on which maps there are and on their names. -/
theorem MapEntry.sorted_congr {α β : Type} {t : Table MapId α} {u : Table MapId β}
    (name : α → String) (name' : β → String)
    (same : ∀ map, (t.get? map).map name = (u.get? map).map name') :
    sorted (t.entries.map fun e => ⟨e.1, name e.2⟩) =
      sorted (u.entries.map fun e => ⟨e.1, name' e.2⟩) := by
  have ids : ∀ {β : Type} (t : Table MapId β) (name : β → String),
      ((t.entries.map fun e => (⟨e.1, name e.2⟩ : MapEntry)).map MapEntry.id).Nodup := by
    intro β t name
    rw [List.map_map]
    exact t.distinct
  have listed : ∀ {β : Type} (t : Table MapId β) (name : β → String) (e : MapEntry),
      e ∈ t.entries.map (fun e => (⟨e.1, name e.2⟩ : MapEntry)) ↔
        (t.get? e.id).map name = some e.name := by
    intro β t name e
    simp only [List.mem_map, Prod.exists, Table.mem_entries_iff, Option.map_eq_some_iff]
    constructor
    · rintro ⟨map, a, found, rfl⟩
      exact ⟨a, found, rfl⟩
    · rintro ⟨a, found, named⟩
      exact ⟨e.id, a, found, by rw [named]⟩
  refine mergeSort_eq_of_perm (fun e : MapEntry => e.id.toInt) ?_ ?_ ?_
  · intro a b
    rw [decide_eq_true_iff, Int32.le_iff_toInt_le]
  · refine (List.perm_ext_iff_of_nodup (.of_map _ (ids t name)) (.of_map _ (ids u name'))).mpr ?_
    intro e
    rw [listed, listed, same]
  · have distinct := (ids u name').map (f := Int32.toInt) fun a b => Int32.toInt_inj.mp
    rwa [List.map_map] at distinct

namespace Database

variable {s : MemoryStore} {d : Database} {map : MapId} {node : NodeId}

/-- Whether a database keeps the maps and nodes of a store in memory: maps of the same names with
contents that are alike, and nodes with the same fields and the same interfaces, which the store in
memory lists in the order of their indices. -/
structure Reflects (d : Database) (s : MemoryStore) : Prop where
  names : ∀ map, d.maps.get? map = (s.maps.get? map).map Prod.fst
  contents : ∀ map entry, s.maps.get? map = some entry → entry.2.Matches (d.contentsOf map)
  fields : ∀ node, d.nodes.get? node = (s.nodes.get? node).map NodeRecord.fields
  ascending : ∀ node record, s.nodes.get? node = some record →
    record.interfaces.Pairwise fun i j => i.ifIndex < j.ifIndex
  interfaces : ∀ node record, s.nodes.get? node = some record → ∀ number i,
    d.interfaces.get? (node, number) = some i ↔ i ∈ record.interfaces ∧ i.id = number

namespace Reflects

variable (same : d.Reflects s)

include same

/-- The lists of maps are the same. -/
theorem mapList : d.mapList = s.mapList :=
  MapEntry.sorted_congr id Prod.fst fun q => Option.map_id'.trans (same.names q)

/-- What is read of a map is alike, or there is no such map in either store. -/
theorem map? (map : MapId) :
    Option.Rel Diagram.Matches ((s.maps.get? map).map Prod.snd) (d.map? map) := by
  have known := same.names map
  cases found : s.maps.get? map with
  | none =>
      rw [found] at known
      have absent : d.map? map = none := by
        rw [Database.map?, Table.contains, known]
        rfl
      rw [absent]
      exact .none
  | some entry =>
      rw [found] at known
      have present : d.map? map = some (d.contentsOf map) := by
        refine map?_eq_some_iff.mpr ⟨?_, rfl⟩
        rw [Table.contains, known]
        rfl
      rw [present]
      exact .some (same.contents map entry found)

/-- The interfaces of a node are read in the order in which the store in memory has them. -/
theorem interfacesOf {record : NodeRecord} (found : s.nodes.get? node = some record) :
    d.interfacesOf node = record.interfaces := by
  have listed := same.interfaces node record found
  let rows := d.interfaces.entries.filter fun e => e.1.1 == node
  have numbered : ∀ e ∈ rows, e.2 ∈ record.interfaces ∧ e.1 = (node, e.2.id) := by
    intro e member
    obtain ⟨entry, here⟩ := List.mem_filter.mp member
    obtain rfl : e.1.1 = node := eq_of_beq here
    obtain ⟨known, number⟩ := (listed e.1.2 e.2).mp (Table.mem_entries_iff.mp entry)
    exact ⟨known, Prod.ext rfl number.symm⟩
  have once : (rows.map Prod.snd).Nodup := by
    have keys := d.interfaces.distinct.sublist
      ((List.filter_sublist (p := fun e => e.1.1 == node)).map Prod.fst)
    have pairs : rows.map Prod.fst = (rows.map Prod.snd).map fun i => (node, i.id) := by
      rw [List.map_map]
      exact List.map_congr_left fun e member => (numbered e member).2
    rw [pairs] at keys
    exact keys.of_map _
  have distinct : (record.interfaces.map fun i => (i.ifIndex.toNat : ℤ)).Nodup :=
    List.pairwise_map.mpr <| (same.ascending node record found).imp fun below =>
      ne_of_lt (Int.ofNat_lt.mpr (UInt32.lt_iff_toNat_lt.mp below))
  refine mergeSort_eq_of_sorted (fun i : Interface => (i.ifIndex.toNat : ℤ))
    Interface.ifIndex_le_iff ?_ ?_ distinct
  · refine (List.mergeSort_perm _ _).trans ?_
    refine (List.perm_ext_iff_of_nodup once (.of_map _ distinct)).mpr fun i => ?_
    constructor
    · intro member
      obtain ⟨e, row, rfl⟩ := List.mem_map.mp member
      exact (numbered e row).1
    · intro member
      have stored := (listed i.id i).mpr ⟨member, rfl⟩
      exact List.mem_map.mpr ⟨((node, i.id), i),
        List.mem_filter.mpr ⟨Table.mem_entries_iff.mpr stored, beq_self_eq_true node⟩, rfl⟩
  · exact (same.ascending node record found).imp fun below =>
      decide_eq_true (UInt32.le_of_lt below)

theorem node? (node : NodeId) : d.node? node = s.nodes.get? node := by
  rw [Database.node?, same.fields]
  cases found : s.nodes.get? node with
  | none => rfl
  | some record =>
      rw [Option.map_some, Option.map_some, same.interfacesOf found]

/-- A map with its name and with contents that match can be put in both. -/
theorem insertMap (map : MapId) (name : String) {contents contents' : Diagram}
    (matched : contents.Matches contents') :
    (Store.saveMap (d.insertMap map name) map contents').2.Reflects
      (s.insertMap map name contents) := by
  obtain ⟨d', taken, _⟩ :=
    (d.insertMap map name).saveMap_of_distinct map (matched.toAlike.distinct matched.distinct)
  have put : (d.insertMap map name).putMap map contents' = .ok d' := by
    have commit : (d.insertMap map name).commit ((d.insertMap map name).putMap map contents') =
        (.ok (), d') := taken
    cases change : (d.insertMap map name).putMap map contents' with
    | error e => rw [change] at commit; cases commit
    | ok changed => rw [change] at commit; cases commit; rfl
  obtain ⟨maps, nodes, interfaces⟩ := tables_putMap put
  rw [taken]
  have stored : ∀ q, (s.insertMap map name contents).maps.get? q =
      if q = map then some (name, contents) else s.maps.get? q :=
    Table.get?_insert s.maps map (name, contents)
  constructor
  case names =>
    intro q
    have named : (d.insertMap map name).maps.get? q =
        if q = map then some name else d.maps.get? q := Table.get?_insert d.maps map name q
    rw [maps, named, stored]
    split
    · rfl
    · exact same.names q
  case contents =>
    intro q entry found
    have alike := alike_putMap put q
    rw [stored] at found
    split at found
    · rename_i here
      rw [if_pos here] at alike
      cases found
      exact ⟨matched.toAlike.trans alike, matched.distinct⟩
    · rename_i other
      rw [if_neg other] at alike
      have before := same.contents q entry found
      have rows : (d.contentsOf q).Alike ((d.insertMap map name).contentsOf q) :=
        alike_of_rows rfl rfl
      exact ⟨before.toAlike.trans (rows.trans alike), before.distinct⟩
  case fields => exact nodes ▸ same.fields
  case ascending => exact same.ascending
  case interfaces => exact interfaces ▸ same.interfaces

/-- A node whose interfaces are in the order of their indices can be put in both. -/
theorem insertNode {record : NodeRecord}
    (ascending : record.interfaces.Pairwise fun i j => i.ifIndex < j.ifIndex) {d' : Database}
    (inserted : d.insertNode node record = .ok d') : d'.Reflects (s.insertNode node record) := by
  obtain ⟨interfaces, added, rfl⟩ := insertNode_eq_ok inserted
  have entries := Table.entries_insertAllNew? added
  have stored : ∀ q, (s.insertNode node record).nodes.get? q =
      if q = node then some record else s.nodes.get? q := Table.get?_insert s.nodes node record
  constructor
  case names => exact same.names
  case contents =>
    intro q entry found
    have before := same.contents q entry found
    exact ⟨before.toAlike.trans (alike_of_rows rfl rfl), before.distinct⟩
  case fields =>
    intro q
    rw [stored]
    refine (Table.get?_insert d.nodes node record.fields q).trans ?_
    split
    · rfl
    · exact same.fields q
  case ascending =>
    intro q record' found
    rw [stored] at found
    split at found
    · cases found
      exact ascending
    · exact same.ascending q record' found
  case interfaces =>
    intro q record' found number i
    rw [← Table.mem_entries_iff, entries, List.mem_append, Table.mem_entries_iff,
      Table.get?_eraseWhere]
    rw [stored] at found
    split at found
    · rename_i here
      cases found
      subst here
      simp only [beq_self_eq_true, if_true, reduceCtorEq, false_or, List.mem_map, interfaceRow,
        Prod.mk.injEq, true_and]
      constructor
      · rintro ⟨j, member, rfl, rfl⟩
        exact ⟨member, rfl⟩
      · rintro ⟨member, rfl⟩
        exact ⟨i, member, rfl, rfl⟩
    · rename_i other
      rw [if_neg (by simpa using other), ← same.interfaces q record' found number i]
      refine or_iff_left fun member => ?_
      obtain ⟨j, _, row⟩ := List.mem_map.mp member
      exact other (congrArg (fun e => e.1.1) row).symm

/-- Saving contents that are alike leaves stores that have the same. -/
theorem saveMap {entry : String × Diagram} (stored : s.maps.get? map = some entry)
    {contents contents' : Diagram} (saved : contents.Matches contents') :
    (Store.saveMap d map contents').2.Reflects (s.putMap map contents) := by
  have named : d.maps.get? map = some entry.1 := by
    rw [same.names, stored]
    rfl
  -- the name stays, so this puts the map in again under its name
  have again : d.insertMap map entry.1 = d := by
    have kept : d.maps.insert map entry.1 = d.maps := by
      rw [Table.insert_eq_modify (Table.mem_keys_iff.mpr ⟨_, named⟩)]
      exact Table.modify_of_fixed fun a found => Option.some.inj (named.symm.trans found)
    rw [Database.insertMap, kept]
  have put := same.insertMap map entry.1 saved
  rw [again] at put
  rw [MemoryStore.putMap, stored]
  exact { put with }

/-- So does saving a node that is stored. -/
theorem saveNode {record : NodeRecord} (stored : s.nodes.get? node = some record)
    (fields : NodeFields) :
    (Store.saveNode d node fields).2.Reflects (s.putNode node fields) := by
  have known : d.nodes.contains node = true := by
    rw [Table.contains, same.fields, stored]
    rfl
  have put : (Store.saveNode d node fields).2 = { d with nodes := d.nodes.insert node fields } := by
    show (d.commit (d.putNode node fields)).2 = _
    rw [putNode, if_pos known]
    rfl
  obtain ⟨maps, _⟩ := d.alike_saveNode node fields 0
  have saved : ∀ q record', (s.putNode node fields).nodes.get? q = some record' →
      ∃ record, s.nodes.get? q = some record ∧ record'.interfaces = record.interfaces := by
    intro q record' found
    rw [MemoryStore.get?_nodes_putNode] at found
    split at found
    · rename_i here
      rw [stored] at found
      cases found
      exact ⟨record, here ▸ stored, rfl⟩
    · exact ⟨record', found, rfl⟩
  constructor
  case names => exact maps ▸ same.names
  case contents =>
    intro q entry found
    have before := same.contents q entry found
    exact ⟨before.toAlike.trans (d.alike_saveNode node fields q).2, before.distinct⟩
  case fields =>
    intro q
    rw [put, MemoryStore.get?_nodes_putNode]
    refine (Table.get?_insert d.nodes node fields q).trans ?_
    split
    · rfl
    · exact same.fields q
  case ascending =>
    intro q record' found
    obtain ⟨record, before, interfaces⟩ := saved q record' found
    exact interfaces ▸ same.ascending q record before
  case interfaces =>
    intro q record' found
    obtain ⟨record, before, interfaces⟩ := saved q record' found
    rw [put, interfaces]
    exact same.interfaces q record before

end Reflects

end Database

end TopoSync
