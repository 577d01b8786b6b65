import TopoSync.Files.Disk
import TopoSync.Files.Image
import TopoSync.Files.Location

/-!
# Opening databases

A database file is looked for under the path of its location with the detours removed, so it may be
named by a way that leads through places that are not there.  A missing file is made.  Then the tables
of the server are added, which fails if the file is something else or cannot be written.
-/

namespace TopoSync

/-- Why a database could not be used. -/
inductive DatabaseError
  | cannotOpen (path : String)
  /-- The tables could not be added. -/
  | noSchema
deriving DecidableEq, Repr

/-- The text of a database error. -/
def DatabaseError.message : DatabaseError → String
  | cannotOpen path => s!"Failed to open SQLite database at {path}"
  | noSchema => "Failed to initialize schema"

namespace Disk

/-- The longest path that is followed to a database file. -/
def maxWay : Nat := 511

/-- The longest path of a database file. -/
def maxDatabasePath : Nat := 504

/-- The longest name of a database file; the name of its journal is longer. -/
def maxDatabaseName : Nat := 247

/-- The longest path of a database in memory. -/
def maxMemoryPath : Nat := 1016

/-- The place that one more part of a path leads to, by its name alone.  What does not exist is passed,
but not what lies behind a file. -/
def approach (disk : Disk) (names : List Bytes) (part : Bytes) : Option (List Bytes) :=
  if Path.stays part then some names
  else if Path.leadsUp part then some names.tail
  else
    let further := part :: names
    if maxWay < Path.size further then none
    else
      match disk.followAll [] further.reverse with
      | .ok _ => some further
      | .error .missing => some further
      | .error _ => none

/-- The place that the path of a database leads to. -/
def databasePlace (disk : Disk) (path : Bytes) : Option (List Bytes) :=
  ((Path.parts path).foldlM disk.approach (if Path.isRooted path then [] else disk.start)).bind
    fun names => if names.isEmpty || maxDatabasePath < Path.size names then none else some names

/-- Whether tables can be added to what is found at a place; nothing if nothing is there that could be
opened, or made. -/
def writable? (disk : Disk) (access : Access) (names : List Bytes) : Option Bool :=
  match disk.entry? names with
  | some (.folder _) => none
  | some .sink => some false
  | some (.file contents) => some (access != .readOnly && Image.isBlank contents)
  | none =>
      if access == .create && disk.entry? names.tail == some (.folder false) then some true else none

/-- Whether tables can be added to the file of a location; nothing if it cannot be opened. -/
def fileWritable? (disk : Disk) (l : Location) : Option Bool :=
  (disk.databasePlace l.path).bind fun names =>
    if (l.option? "modeof").any fun path => (disk.lookUp path).toOption.isNone then none
    else
      (disk.writable? l.access names).map fun writable =>
        writable && !l.isFrozen && names.head?.all fun name => name.length ≤ maxDatabaseName

/-- Whether tables can be added to the database of a location; nothing if it cannot be opened. -/
def databaseWritable? (disk : Disk) (l : Location) : Option Bool :=
  if l.path.isEmpty || l.path == Utf8.encode ":memory:" || l.access == .memory then
    some (l.access != .readOnly)
  else if l.inMemory then
    if maxMemoryPath < l.path.length then none else some (l.access != .readOnly && !l.isFrozen)
  else disk.fileWritable? l

/-- Opens the database of a name and adds the tables of the server. -/
def openDatabase (disk : Disk) (name : String) : Except DatabaseError Unit :=
  let bytes := Utf8.encode name
  if bytes.contains 0 then .error (.cannotOpen name)
  else
    match (Location.ofName? bytes).bind disk.databaseWritable? with
    | none => .error (.cannotOpen name)
    | some false => .error .noSchema
    | some true => .ok ()

end Disk

end TopoSync
