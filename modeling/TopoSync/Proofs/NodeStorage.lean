import TopoSync.Proofs.Counterparts
import TopoSync.Proofs.Histories

/-!
# Nodes in a database

The fields of a node are in one table and its interfaces in another.  Adding a node writes both, saving
it writes its fields only.  So the fields that are loaded are those of the last call that wrote them,
and the interfaces those of the last record that was added, in the order of their indices.
-/

namespace TopoSync

namespace DatabaseCall

variable {node : NodeId} {c : DatabaseCall}

/-- Only adding the node adds a record for it. -/
theorem record?_eq_none_iff : c.record? node = none ↔ ∀ record, c ≠ .insertNode node record := by
  constructor
  · rintro nothing record rfl
    rw [record?, if_pos rfl] at nothing
    cases nothing
  · intro other
    cases c with
    | insertNode q record =>
        rw [record?, if_neg]
        rintro rfl
        exact other record rfl
    | _ => rfl

/-- Only adding the node and saving it give it fields. -/
theorem fields?_eq_none (added : ∀ record, c ≠ .insertNode node record)
    (saved : ∀ fields, c ≠ .saveNode node fields) : c.fields? node = none := by
  cases c with
  | insertNode q record =>
      rw [fields?, if_neg]
      rintro rfl
      exact added record rfl
  | saveNode q fields =>
      rw [fields?, if_neg]
      rintro rfl
      exact saved fields rfl
  | _ => rfl

end DatabaseCall

namespace Database

open DatabaseCall

variable {d d' : Database} {node : NodeId}

/-- The interfaces that are read of a node are those in its rows. -/
theorem interfacesOf_of_rows {interfaces : List Interface}
    (rows : rowsOf d.interfaces node = interfaces.map (interfaceRow node)) :
    (d.interfacesOf node).Perm interfaces := by
  refine (List.mergeSort_perm _ _).trans ((List.mergeSort_perm _ _).trans (.of_eq ?_))
  show (rowsOf d.interfaces node).map Prod.snd = interfaces
  rw [rows, List.map_map]
  exact List.map_id' _

/-- They are in the order of their indices. -/
theorem ascending_interfacesOf (d : Database) (node : NodeId) :
    (d.interfacesOf node).Pairwise fun i j => i.ifIndex ≤ j.ifIndex :=
  (pairwise_mergeSort _ Interface.ifIndex_le_iff _).imp of_decide_eq_true

/-- Saving the fields of a node leaves the interfaces of every node. -/
theorem interfaces_saveNode (d : Database) (node : NodeId) (fields : NodeFields) :
    (Store.saveNode d node fields).2.interfaces = d.interfaces := by
  have saving : Store.saveNode d node fields = d.call (.saveNode node fields) := rfl
  rw [saving]
  rcases d.call_cases (.saveNode node fields) with ⟨-, step⟩ | ⟨e, failed⟩
  · generalize (d.call (.saveNode node fields)).2 = d' at step
    cases step
    rfl
  · rw [failed]

/-- A call that is not about a node makes no difference to what is read of it. -/
theorem node?_call {c : DatabaseCall} (fields : c.fields? node = none)
    (record : c.record? node = none) : (d.call c).2.node? node = d.node? node := by
  rcases d.call_cases c with ⟨-, step⟩ | ⟨e, failed⟩
  · have rows := step.interfaces node
    have interfaces : (d.call c).2.interfacesOf node = d.interfacesOf node := by
      rw [record] at rows
      show (((rowsOf (d.call c).2.interfaces node).map Prod.snd).mergeSort _).mergeSort _ = _
      rw [rows]
      rfl
    rw [node?, node?, step.nodes, fields, interfaces]
    rfl
  · rw [failed]

/-- There is nothing to be read of a node exactly if it was never added. -/
theorem Follows.node?_eq_none_iff {done : List DatabaseCall} (held : d.Follows done) :
    d.node? node = none ↔ ∀ record, DatabaseCall.insertNode node record ∉ done := by
  have known : (d.nodes.get? node).isSome = (last? (record? node) done).isSome := held.known node
  have absent : d.node? node = none ↔ last? (record? node) done = none := by
    rw [node?, Option.map_eq_none_iff, ← Option.isNone_iff_eq_none, ← Option.isNone_iff_eq_none,
      ← Option.not_isSome, ← Option.not_isSome, known]
  rw [absent, last?_eq_none_iff]
  constructor
  · intro never record member
    exact record?_eq_none_iff.mp (never _ member) record rfl
  · intro never c member
    refine record?_eq_none_iff.mpr fun record same => never record ?_
    rwa [← same]

end Database

open Database DatabaseCall

/-- Whatever calls a database has served, a node that is loaded has the fields of the last call that
added it or saved it and, in the order of their indices, exactly the interfaces of the record with which
it was added last.  Nothing is loaded exactly if the node was never added.  Saving a node leaves all
interfaces, and no call other than those that add the node or save it makes a difference to what is
loaded of it. -/
theorem nodes_loaded_as_written (calls : List DatabaseCall) (node : NodeId) :
    let d := Database.after {} calls
    let done := Database.history {} calls
    (∃ loaded, Store.loadNode d node = (.ok loaded, d) ∧
      (loaded = none ↔ ∀ record, DatabaseCall.insertNode node record ∉ done) ∧
      ∀ record, loaded = some record →
        last? (fields? node) done = some record.fields ∧
        ∃ inserted, last? (record? node) done = some inserted ∧
          record.interfaces.Perm inserted.interfaces ∧
          record.interfaces.Pairwise (fun i j => i.ifIndex ≤ j.ifIndex) ∧
          ((inserted.interfaces.map Interface.ifIndex).Nodup →
            record.interfaces.Pairwise fun i j => i.ifIndex < j.ifIndex)) ∧
    (∀ q fields, (Store.saveNode d q fields).2.interfaces = d.interfaces) ∧
    ∀ c, (∀ record, c ≠ .insertNode node record) → (∀ fields, c ≠ .saveNode node fields) →
      (Store.loadNode (d.call c).2 node).1 = (Store.loadNode d node).1 := by
  intro d done
  have held : d.Follows done := follows_history calls
  refine ⟨⟨d.node? node, rfl, held.node?_eq_none_iff, ?_⟩, d.interfaces_saveNode, ?_⟩
  · intro record read
    obtain ⟨fields, found, rfl⟩ := Option.map_eq_some_iff.mp read
    have known := held.known node
    rw [Table.contains_eq_isSome, found] at known
    obtain ⟨inserted, last⟩ := Option.isSome_iff_exists.mp known.symm
    have rows := held.interfaces node
    rw [last] at rows
    have perm := interfacesOf_of_rows rows
    refine ⟨(held.nodes node).symm.trans found, inserted, last, perm,
      d.ascending_interfacesOf node, ?_⟩
    intro distinct
    have apart := (perm.map Interface.ifIndex).nodup_iff.mpr distinct
    refine ((d.ascending_interfacesOf node).and (List.pairwise_map.mp apart)).imp ?_
    rintro i j ⟨ordered, other⟩
    exact UInt32.lt_of_le_of_ne ordered other
  · intro c added saved
    have fields := fields?_eq_none added saved
    exact congrArg Except.ok (node?_call fields (record?_eq_none_iff.mpr added))

end TopoSync
