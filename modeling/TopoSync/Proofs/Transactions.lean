import TopoSync.Proofs.Rows

/-!
# Writes, statement by statement

A map or a node is written by several statements: the old rows are deleted first, then the new ones are
inserted one after the other, and any insertion may find its key taken.  The statements work on a copy
that takes the place of the database when all of them are done, and that is given up when one of them
fails.  So a write takes place as a whole or not at all, and which of the two is a matter of the numbers
that are written.
-/

namespace TopoSync

/-- Whether items at two places of a list have the same number. -/
def Repeats {α ι : Type} (number : α → ι) (xs : List α) : Prop :=
  ∃ x y, [x, y].Sublist xs ∧ number x = number y

theorem repeats_iff {α ι : Type} {number : α → ι} {xs : List α} :
    Repeats number xs ↔ ¬ (xs.map number).Nodup := by
  rw [List.Nodup, List.pairwise_map, List.pairwise_iff_forall_sublist]
  simp only [Repeats, not_forall, Classical.not_not, exists_prop, Ne]

/-- A statement that changes the rows of a database. -/
inductive Statement
  | deleteConnections (map : MapId)
  | deleteSymbols (map : MapId)
  | insertSymbol (map : MapId) (s : Symbol)
  | insertConnection (map : MapId) (c : Connection)
  /-- Inserts the row of a node, in place of one that is there. -/
  | replaceNode (node : NodeId) (fields : NodeFields)
  | deleteInterfaces (node : NodeId)
  | insertInterface (node : NodeId) (i : Interface)
  /-- Changes the row of a node.  It counts as a failure if there is no such row to be changed. -/
  | updateNode (node : NodeId) (fields : NodeFields)
deriving DecidableEq, Repr

namespace Database

/-- Inserts a row into a table of a database, unless its key is taken. -/
def insertRow {κ α : Type} [DecidableEq κ] (name : String) (put : Table κ α → Database)
    (t : Table κ α) (row : κ × α) : Except StoreError Database :=
  match t.insertNew? row.1 row.2 with
  | none => .error (.duplicateKey name)
  | some t => .ok (put t)

/-- What a statement makes of a database, or why it fails. -/
def execute (d : Database) : Statement → Except StoreError Database
  | .deleteConnections map =>
      .ok { d with connections := d.connections.eraseWhere fun key => key.1 == map }
  | .deleteSymbols map => .ok { d with symbols := d.symbols.eraseWhere fun key => key.1 == map }
  | .insertSymbol map s =>
      insertRow "symbol" (fun symbols => { d with symbols }) d.symbols (symbolRow map s)
  | .insertConnection map c =>
      insertRow "conn" (fun connections => { d with connections }) d.connections
        (connectionRow map c)
  | .replaceNode node fields => .ok { d with nodes := d.nodes.insert node fields }
  | .deleteInterfaces node =>
      .ok { d with interfaces := d.interfaces.eraseWhere fun key => key.1 == node }
  | .insertInterface node i =>
      insertRow "interface" (fun interfaces => { d with interfaces }) d.interfaces
        (interfaceRow node i)
  | .updateNode node fields => d.putNode node fields

/-- What statements make of a database, or why the first one that fails does so. -/
def executeAll (d : Database) (statements : List Statement) : Except StoreError Database :=
  statements.foldlM execute d

end Database

/-- A transaction: what is stored all the while, and what the statements so far have made of it. -/
structure Transaction where
  stored : Database
  working : Database

/-- Executes statements and stores what they have made.  If one of them fails, those after it are not
executed, and what was stored stays. -/
def Transaction.run (t : Transaction) : List Statement → Except StoreError Unit × Database
  | [] => (.ok (), t.working)
  | s :: rest =>
      match t.working.execute s with
      | .ok working => Transaction.run { t with working } rest
      | .error e => (.error e, t.stored)

theorem Transaction.run_eq (t : Transaction) (statements : List Statement) :
    t.run statements = t.stored.commit (t.working.executeAll statements) := by
  induction statements generalizing t with
  | nil => rfl
  | cons s rest ih =>
      rw [run, Database.executeAll, List.foldlM_cons]
      cases t.working.execute s with
      | error e => rfl
      | ok working => exact ih { t with working }

namespace Database

variable {d d' : Database} {statements : List Statement} {write : Except StoreError Unit × Database}
  {bad : Prop}

theorem executeAll_append_of_ok {first : List Statement} (done : d.executeAll first = .ok d')
    (rest : List Statement) : d.executeAll (first ++ rest) = d'.executeAll rest := by
  rw [executeAll] at done
  rw [executeAll, List.foldlM_append, done]
  rfl

theorem executeAll_append_of_error {first : List Statement} {e : StoreError}
    (fails : d.executeAll first = .error e) (rest : List Statement) :
    d.executeAll (first ++ rest) = .error e := by
  rw [executeAll] at fails
  rw [executeAll, List.foldlM_append, fails]
  rfl

/-- Executes statements in a transaction of their own. -/
def transact (d : Database) (statements : List Statement) : Except StoreError Unit × Database :=
  Transaction.run ⟨d, d⟩ statements

/-- Whether a write executes statements as a whole or not at all: it fails in a certain case, and
whichever statement fails after however many others, the database is as it was. -/
structure Atomic (d : Database) (statements : List Statement)
    (write : Except StoreError Unit × Database) (bad : Prop) : Prop where
  transacted : write = d.transact statements
  all : write.1 = .ok () → d.executeAll statements = .ok write.2
  nothing : ∀ before s after d' e, statements = before ++ s :: after →
    d.executeAll before = .ok d' → d'.execute s = .error e → write = (.error e, d)
  unchanged : ∀ e, write.1 = .error e → write.2 = d
  fails_iff : (∃ e, write.1 = .error e) ↔ bad

/-- A write that commits what its statements make is atomic. -/
theorem atomic_commit {change : Except StoreError Database} (made : d.executeAll statements = change)
    (fails : (∃ e, change = .error e) ↔ bad) : d.Atomic statements (d.commit change) bad where
  transacted := by rw [transact, Transaction.run_eq, made]
  all := by
    rw [made]
    cases change with
    | ok changed => exact fun _ => rfl
    | error e => exact nofun
  nothing := by
    rintro before s after d' e rfl first failing
    have fails : d'.executeAll (s :: after) = .error e := by
      rw [executeAll, List.foldlM_cons, failing]
      rfl
    rw [← made, executeAll_append_of_ok first, fails]
    rfl
  unchanged := by
    cases change with
    | ok changed => exact nofun
    | error e => exact fun _ _ => rfl
  fails_iff := by
    rw [← fails]
    cases change with
    | ok changed => simp [commit]
    | error e => simp [commit]

/-- Rows that are inserted one by one are added to the table, or one of them finds its key taken. -/
theorem executeAll_inserts {κ α β : Type} [DecidableEq κ] {name : String}
    (put : Table κ β → Database) {make : α → Statement} {row : α → κ × β}
    (one : ∀ t a, (put t).execute (make a) = insertRow name put t (row a)) (t : Table κ β)
    (xs : List α) :
    (put t).executeAll (xs.map make) =
      match t.insertAllNew? (xs.map row) with
      | none => .error (.duplicateKey name)
      | some t => .ok (put t) := by
  induction xs generalizing t with
  | nil => rfl
  | cons a rest ih =>
      rw [List.map_cons, List.map_cons, executeAll, List.foldlM_cons, one, insertRow,
        Table.insertAllNew?]
      cases t.insertNew? (row a).1 (row a).2 with
      | none => rfl
      | some t => exact ih t

/-- The statements that save a map. -/
def saveStatements (map : MapId) (contents : Diagram) : List Statement :=
  [.deleteConnections map, .deleteSymbols map] ++ contents.symbols.map (.insertSymbol map) ++
    contents.connections.map (.insertConnection map)

theorem executeAll_saveStatements (d : Database) (map : MapId) (contents : Diagram) :
    d.executeAll (saveStatements map contents) = d.putMap map contents := by
  let connections := d.connections.eraseWhere fun key => key.1 == map
  let symbols := d.symbols.eraseWhere fun key => key.1 == map
  have one : ∀ symbols s, ({ d with symbols, connections } : Database).execute (.insertSymbol map s) =
      insertRow "symbol" (fun symbols => { d with symbols, connections }) symbols (symbolRow map s) :=
    fun _ _ => rfl
  have one' : ∀ symbols connections c,
      ({ d with symbols, connections } : Database).execute (.insertConnection map c) =
        insertRow "conn" (fun connections => { d with symbols, connections }) connections
          (connectionRow map c) :=
    fun _ _ _ => rfl
  have deleted : d.executeAll [.deleteConnections map, .deleteSymbols map] =
      .ok { d with symbols, connections } :=
    rfl
  have inserted := (executeAll_append_of_ok deleted _).trans
    (executeAll_inserts _ one symbols contents.symbols)
  rw [saveStatements, putMap]
  cases added : symbols.insertAllNew? (contents.symbols.map (symbolRow map)) with
  | none =>
      rw [added] at inserted
      exact executeAll_append_of_error inserted _
  | some symbols =>
      rw [added] at inserted
      rw [executeAll_append_of_ok inserted, executeAll_inserts _ (one' symbols)]
      cases connections.insertAllNew? (contents.connections.map (connectionRow map)) <;> rfl

/-- The statements that add a node or replace it. -/
def insertStatements (node : NodeId) (record : NodeRecord) : List Statement :=
  [.replaceNode node record.fields, .deleteInterfaces node] ++
    record.interfaces.map (.insertInterface node)

theorem executeAll_insertStatements (d : Database) (node : NodeId) (record : NodeRecord) :
    d.executeAll (insertStatements node record) = d.insertNode node record := by
  let nodes := d.nodes.insert node record.fields
  let interfaces := d.interfaces.eraseWhere fun key => key.1 == node
  have one : ∀ interfaces i,
      ({ d with nodes, interfaces } : Database).execute (.insertInterface node i) =
        insertRow "interface" (fun interfaces => { d with nodes, interfaces }) interfaces
          (interfaceRow node i) :=
    fun _ _ => rfl
  have replaced : d.executeAll [.replaceNode node record.fields, .deleteInterfaces node] =
      .ok { d with nodes, interfaces } :=
    rfl
  have rows : (record.interfaces.map fun i => ((node, i.id), i)) =
      record.interfaces.map (interfaceRow node) :=
    rfl
  rw [insertStatements, executeAll_append_of_ok replaced, executeAll_inserts _ one, insertNode,
    rows]
  cases interfaces.insertAllNew? (record.interfaces.map (interfaceRow node)) <;> rfl

/-- A map cannot be saved exactly if two symbols or two connections share a number. -/
theorem putMap_fails_iff {map : MapId} {contents : Diagram} :
    (∃ e, d.putMap map contents = .error e) ↔
      Repeats Symbol.id contents.symbols ∨ Repeats Connection.id contents.connections := by
  rw [repeats_iff, repeats_iff,
    ← replaced_eq_none_iff (t := d.symbols) (symbolRow map) fun _ => rfl,
    ← replaced_eq_none_iff (t := d.connections) (connectionRow map) fun _ => rfl, putMap]
  split
  · rename_i taken
    simp [taken]
  · rename_i symbols added
    split
    · rename_i taken
      simp [taken]
    · rename_i connections added'
      simp [added, added']

/-- A node cannot be added exactly if two of its interfaces share a number. -/
theorem insertNode_fails_iff {node : NodeId} {record : NodeRecord} :
    (∃ e, d.insertNode node record = .error e) ↔ Repeats Interface.id record.interfaces := by
  rw [repeats_iff, ← replaced_eq_none_iff (t := d.interfaces) (interfaceRow node) fun _ => rfl,
    insertNode]
  split
  · rename_i taken
    exact ⟨fun _ => taken, fun _ => ⟨_, rfl⟩⟩
  · rename_i interfaces added
    constructor
    · rintro ⟨e, ⟨⟩⟩
    · intro taken
      cases added.symm.trans taken

theorem putNode_fails_iff {node : NodeId} {fields : NodeFields} :
    (∃ e, d.putNode node fields = .error e) ↔ d.node? node = none := by
  rw [putNode, node?, Option.map_eq_none_iff, Table.contains_eq_isSome]
  cases d.nodes.get? node <;> simp

end Database

/-- Every write takes place as a whole or not at all, statement by statement.  A map cannot be saved
exactly if two symbols or two connections share a number, a node cannot be added or replaced exactly if
two of its interfaces share one, and the fields of a node cannot be saved exactly if there is no such
node.  Whatever has been deleted and inserted before the failure, all tables are then as they were. -/
theorem writes_all_or_nothing (d : Database) :
    (∀ map contents, d.Atomic (Database.saveStatements map contents) (Store.saveMap d map contents)
      (Repeats Symbol.id contents.symbols ∨ Repeats Connection.id contents.connections)) ∧
    (∀ node record, d.Atomic (Database.insertStatements node record)
      (d.commit (d.insertNode node record)) (Repeats Interface.id record.interfaces)) ∧
    ∀ node fields, d.Atomic [.updateNode node fields] (Store.saveNode d node fields)
      (d.node? node = none) := by
  refine ⟨fun map contents => ?_, fun node record => ?_, fun node fields => ?_⟩
  · exact Database.atomic_commit (d.executeAll_saveStatements map contents)
      Database.putMap_fails_iff
  · exact Database.atomic_commit (d.executeAll_insertStatements node record)
      Database.insertNode_fails_iff
  · refine Database.atomic_commit ?_ Database.putNode_fails_iff
    rw [Database.executeAll, List.foldlM_cons]
    exact bind_pure (d.execute (.updateNode node fields))

end TopoSync
