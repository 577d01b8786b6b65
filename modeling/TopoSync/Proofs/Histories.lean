import TopoSync.Proofs.Transactions

/-!
# What a database remembers

A database is filled and used by calls.  Calls that fail leave no trace, so what is in the tables
follows from the calls that were carried out: each row from the last of them that was about it.
-/

namespace TopoSync

/-- What can be asked of a database. -/
inductive DatabaseCall
  | insertMap (map : MapId) (name : String)
  | insertNode (node : NodeId) (record : NodeRecord)
  | insertIcon (objectId name : String)
  | listMaps
  | loadMap (map : MapId)
  | saveMap (map : MapId) (contents : Diagram)
  | loadNode (node : NodeId)
  | saveNode (node : NodeId) (fields : NodeFields)
deriving DecidableEq, Repr

namespace DatabaseCall

/-- The name that a call gives a map. -/
def name? (map : MapId) : DatabaseCall → Option String
  | insertMap q name => if map = q then some name else none
  | _ => none

/-- The name that a call gives the icon of an object identity. -/
def icon? (objectId : String) : DatabaseCall → Option String
  | insertIcon q name => if objectId = q then some name else none
  | _ => none

/-- The contents that a call saves of a map. -/
def contents? (map : MapId) : DatabaseCall → Option Diagram
  | saveMap q contents => if map = q then some contents else none
  | _ => none

/-- The record that a call adds for a node. -/
def record? (node : NodeId) : DatabaseCall → Option NodeRecord
  | insertNode q record => if node = q then some record else none
  | _ => none

/-- The fields that a call gives a node. -/
def fields? (node : NodeId) : DatabaseCall → Option NodeFields
  | insertNode q record => if node = q then some record.fields else none
  | saveNode q fields => if node = q then some fields else none
  | _ => none

/-- The last value that some calls give. -/
def last? {α : Type} (value : DatabaseCall → Option α) (calls : List DatabaseCall) : Option α :=
  (calls.filterMap value).getLast?

variable {α : Type} {value : DatabaseCall → Option α} {calls : List DatabaseCall} {c : DatabaseCall}

@[simp] theorem last?_nil (value : DatabaseCall → Option α) : last? value [] = none := rfl

@[simp] theorem last?_concat (value : DatabaseCall → Option α) (calls : List DatabaseCall)
    (c : DatabaseCall) : last? value (calls ++ [c]) = (value c).or (last? value calls) := by
  rw [last?, List.filterMap_append, List.getLast?_append, last?]
  cases found : value c <;> simp [found]

theorem last?_eq_none_iff : last? value calls = none ↔ ∀ c ∈ calls, value c = none := by
  rw [last?, List.getLast?_eq_none_iff, List.filterMap_eq_nil_iff]

end DatabaseCall

namespace Database

open DatabaseCall

variable {d d' : Database} {c : DatabaseCall} {calls done : List DatabaseCall}

/-- The answer to a call without what it reads, and the database afterwards. -/
def call (d : Database) : DatabaseCall → Except StoreError Unit × Database
  | .insertMap map name => (.ok (), d.insertMap map name)
  | .insertNode node record => d.commit (d.insertNode node record)
  | .insertIcon objectId name => (.ok (), d.insertIcon objectId name)
  | .listMaps => (Store.listMaps d).map (Except.map fun _ => ()) id
  | .loadMap map => (Store.loadMap d map).map (Except.map fun _ => ()) id
  | .saveMap map contents => Store.saveMap d map contents
  | .loadNode node => (Store.loadNode d node).map (Except.map fun _ => ()) id
  | .saveNode node fields => Store.saveNode d node fields

/-- The database after some calls. -/
def after (d : Database) (calls : List DatabaseCall) : Database :=
  calls.foldl (fun d c => (d.call c).2) d

/-- Those of some calls that are carried out, in order. -/
def history (d : Database) : List DatabaseCall → List DatabaseCall
  | [] => []
  | c :: rest =>
      match (d.call c).1 with
      | .ok () => c :: (d.call c).2.history rest
      | .error _ => (d.call c).2.history rest

/-- The rows that a table has for a map or a node. -/
def rowsOf {κ ι α : Type} [DecidableEq κ] (t : Table (κ × ι) α) (k : κ) : List ((κ × ι) × α) :=
  t.entries.filter fun e => e.1.1 == k

/-- What a database becomes by a call that is carried out. -/
inductive CarriesOut (d : Database) : DatabaseCall → Database → Prop
  | insertMap (map : MapId) (name : String) :
      CarriesOut d (.insertMap map name) { d with maps := d.maps.insert map name }
  | insertNode (node : NodeId) (record : NodeRecord)
      (interfaces : Table (NodeId × UInt32) Interface)
      (added : (d.interfaces.eraseWhere fun key => key.1 == node).insertAllNew?
        (record.interfaces.map (interfaceRow node)) = some interfaces) :
      CarriesOut d (.insertNode node record)
        { d with nodes := d.nodes.insert node record.fields, interfaces }
  | insertIcon (objectId name : String) :
      CarriesOut d (.insertIcon objectId name) { d with icons := d.icons.insert objectId name }
  | listMaps : CarriesOut d .listMaps d
  | loadMap (map : MapId) : CarriesOut d (.loadMap map) d
  | saveMap (map : MapId) (contents : Diagram) (symbols : Table (MapId × ElementId) SymbolRow)
      (connections : Table (MapId × ElementId) ConnectionRow)
      (added : (d.symbols.eraseWhere fun key => key.1 == map).insertAllNew?
        (contents.symbols.map (symbolRow map)) = some symbols)
      (added' : (d.connections.eraseWhere fun key => key.1 == map).insertAllNew?
        (contents.connections.map (connectionRow map)) = some connections) :
      CarriesOut d (.saveMap map contents) { d with symbols, connections }
  | loadNode (node : NodeId) : CarriesOut d (.loadNode node) d
  | saveNode (node : NodeId) (fields : NodeFields) (known : d.nodes.contains node = true) :
      CarriesOut d (.saveNode node fields) { d with nodes := d.nodes.insert node fields }

/-- Every call is carried out, or it fails and leaves the database as it is. -/
theorem call_cases (d : Database) (c : DatabaseCall) :
    ((d.call c).1 = .ok () ∧ d.CarriesOut c (d.call c).2) ∨ ∃ e, d.call c = (.error e, d) := by
  cases c with
  | insertMap map name => exact .inl ⟨rfl, .insertMap map name⟩
  | insertIcon objectId name => exact .inl ⟨rfl, .insertIcon objectId name⟩
  | listMaps => exact .inl ⟨rfl, .listMaps⟩
  | loadMap map => exact .inl ⟨rfl, .loadMap map⟩
  | loadNode node => exact .inl ⟨rfl, .loadNode node⟩
  | insertNode node record =>
      refine (d.commit_cases (d.insertNode node record)).imp_left ?_
      rintro ⟨changed, inserted, committed⟩
      obtain ⟨interfaces, added, rfl⟩ := insertNode_eq_ok inserted
      rw [call, committed]
      exact ⟨rfl, .insertNode node record interfaces added⟩
  | saveMap map contents =>
      refine (d.commit_cases (d.putMap map contents)).imp_left ?_
      rintro ⟨changed, put, committed⟩
      obtain ⟨symbols, connections, added, added', rfl⟩ := putMap_eq_ok put
      have saved : d.call (.saveMap map contents) = (.ok (), { d with symbols, connections }) :=
        committed
      rw [saved]
      exact ⟨rfl, .saveMap map contents symbols connections added added'⟩
  | saveNode node fields =>
      refine (d.commit_cases (d.putNode node fields)).imp_left ?_
      rintro ⟨changed, put, committed⟩
      obtain ⟨known, rfl⟩ := putNode_eq_ok put
      have saved : d.call (.saveNode node fields) =
          (.ok (), { d with nodes := d.nodes.insert node fields }) :=
        committed
      rw [saved]
      exact ⟨rfl, .saveNode node fields known⟩

namespace CarriesOut

variable (step : d.CarriesOut c d')

include step

theorem maps (map : MapId) : d'.maps.get? map = (c.name? map).or (d.maps.get? map) := by
  cases step with
  | insertMap q name =>
      rw [Table.get?_insert, name?]
      split <;> rfl
  | _ => rfl

theorem icons (objectId : String) :
    d'.icons.get? objectId = (c.icon? objectId).or (d.icons.get? objectId) := by
  cases step with
  | insertIcon q name =>
      rw [Table.get?_insert, icon?]
      split <;> rfl
  | _ => rfl

theorem nodes (node : NodeId) : d'.nodes.get? node = (c.fields? node).or (d.nodes.get? node) := by
  cases step with
  | insertNode q record =>
      rw [Table.get?_insert, fields?]
      split <;> rfl
  | saveNode q fields =>
      rw [Table.get?_insert, fields?]
      split <;> rfl
  | _ => rfl

theorem known (node : NodeId) :
    d'.nodes.contains node = ((c.record? node).isSome || d.nodes.contains node) := by
  cases step with
  | insertNode q record =>
      rw [Table.contains_insert, record?]
      by_cases same : node = q <;> simp [same]
  | saveNode q fields known =>
      rw [Table.contains_insert]
      by_cases same : node = q
      · rw [same, known, Bool.or_true, Bool.or_true]
      · rw [decide_eq_false same]
        rfl
  | _ => rfl

theorem symbols (map : MapId) : rowsOf d'.symbols map =
    ((c.contents? map).map fun contents => contents.symbols.map (symbolRow map)).getD
      (rowsOf d.symbols map) := by
  cases step with
  | saveMap q contents symbols connections added added' =>
      rw [rowsOf, filter_replaced (symbolRow q) (fun _ => rfl) added map, contents?]
      split
      · rename_i same
        rw [same]
        rfl
      · rfl
  | _ => rfl

theorem connections (map : MapId) : rowsOf d'.connections map =
    ((c.contents? map).map fun contents => contents.connections.map (connectionRow map)).getD
      (rowsOf d.connections map) := by
  cases step with
  | saveMap q contents symbols connections added added' =>
      rw [rowsOf, filter_replaced (connectionRow q) (fun _ => rfl) added' map, contents?]
      split
      · rename_i same
        rw [same]
        rfl
      · rfl
  | _ => rfl

theorem interfaces (node : NodeId) : rowsOf d'.interfaces node =
    ((c.record? node).map fun record => record.interfaces.map (interfaceRow node)).getD
      (rowsOf d.interfaces node) := by
  cases step with
  | insertNode q record interfaces added =>
      rw [rowsOf, filter_replaced (interfaceRow q) (fun _ => rfl) added node, record?]
      split
      · rename_i same
        rw [same]
        rfl
      · rfl
  | _ => rfl

end CarriesOut

/-- Whether everything in the tables is what the calls carried out so far say.  The rows of a map are
those of the contents saved last, in the same order, and there are none if there was no save; the rows
of the interfaces of a node are those of the record added last. -/
structure Follows (d : Database) (done : List DatabaseCall) : Prop where
  maps : ∀ map, d.maps.get? map = last? (name? map) done
  icons : ∀ objectId, d.icons.get? objectId = last? (icon? objectId) done
  nodes : ∀ node, d.nodes.get? node = last? (fields? node) done
  known : ∀ node, d.nodes.contains node = (last? (record? node) done).isSome
  symbols : ∀ map, rowsOf d.symbols map =
    ((last? (contents? map) done).getD {}).symbols.map (symbolRow map)
  connections : ∀ map, rowsOf d.connections map =
    ((last? (contents? map) done).getD {}).connections.map (connectionRow map)
  interfaces : ∀ node, rowsOf d.interfaces node =
    ((last? (record? node) done).getD {}).interfaces.map (interfaceRow node)

theorem follows_nil : Follows {} [] :=
  ⟨fun _ => rfl, fun _ => rfl, fun _ => rfl, fun _ => rfl, fun _ => rfl, fun _ => rfl, fun _ => rfl⟩

/-- A call that is carried out is remembered. -/
theorem Follows.carriesOut (held : d.Follows done) (step : d.CarriesOut c d') :
    d'.Follows (done ++ [c]) where
  maps map := by rw [step.maps, held.maps, last?_concat]
  icons objectId := by rw [step.icons, held.icons, last?_concat]
  nodes node := by rw [step.nodes, held.nodes, last?_concat]
  known node := by rw [step.known, held.known, last?_concat, Option.isSome_or]
  symbols map := by
    rw [step.symbols, held.symbols, last?_concat]
    cases c.contents? map <;> rfl
  connections map := by
    rw [step.connections, held.connections, last?_concat]
    cases c.contents? map <;> rfl
  interfaces node := by
    rw [step.interfaces, held.interfaces, last?_concat]
    cases c.record? node <;> rfl

/-- What is in the tables after some calls follows from those of them that were carried out. -/
theorem Follows.after (held : d.Follows done) (calls : List DatabaseCall) :
    (d.after calls).Follows (done ++ d.history calls) := by
  induction calls generalizing d done with
  | nil => simpa [Database.after, history] using held
  | cons c rest ih =>
      rcases d.call_cases c with ⟨ok, step⟩ | ⟨e, failed⟩
      · have all := ih (held.carriesOut step)
        rw [List.append_assoc] at all
        rw [history, ok]
        exact all
      · rw [Database.after, List.foldl_cons, history, failed]
        exact ih held

theorem follows_history (calls : List DatabaseCall) :
    (after {} calls).Follows (history {} calls) :=
  follows_nil.after calls

end Database

end TopoSync
