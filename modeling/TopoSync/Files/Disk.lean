import TopoSync.Files.Path

/-!
# Disks

A disk holds folders and files.  A program is started in one of the folders; a path is followed one
part at a time, from there or from the root.
-/

namespace TopoSync

/-- Why a file could not be read. -/
inductive FileError
  | missing
  | isFolder
  /-- The path goes on behind a file. -/
  | notFolder
  | nameTooLong
deriving DecidableEq, Repr

/-- The text of a file error. -/
def FileError.message : FileError → String
  | missing => "No such file or directory (os error 2)"
  | isFolder => "Is a directory (os error 21)"
  | notFolder => "Not a directory (os error 20)"
  | nameTooLong => "File name too long (os error 36)"

/-- What stands under a name. -/
inductive Entry
  /-- A folder, to which no file can be added if it is sealed. -/
  | folder (isSealed : Bool)
  | file (contents : Bytes)
  /-- A file that is always empty, whatever is written to it. -/
  | sink
deriving DecidableEq, Repr

/-- A disk and the place on it where a program is started.  Places are rows of names from the root,
the innermost first. -/
structure Disk where
  /-- The folder that paths start from. -/
  start : List Bytes
  entries : List (List Bytes × Entry)
deriving DecidableEq, Repr

namespace Disk

/-- What stands at a place. -/
def entry? (disk : Disk) (names : List Bytes) : Option Entry :=
  if names.isEmpty then some (.folder false)
  else (disk.entries.find? fun e => e.1 == names).map Prod.snd

/-- Follows one part of a path from a place where something stands. -/
def follow (disk : Disk) (names : List Bytes) (part : Bytes) : Except FileError (List Bytes) :=
  match disk.entry? names with
  | some (.folder _) =>
      if Path.stays part then .ok names
      else if Path.leadsUp part then .ok names.tail
      else if Path.maxName < part.length then .error .nameTooLong
      else if (disk.entry? (part :: names)).isNone then .error .missing
      else .ok (part :: names)
  | _ => .error .notFolder

/-- Follows a path from a place. -/
def followAll (disk : Disk) (names : List Bytes) (parts : List Bytes) :
    Except FileError (List Bytes) :=
  parts.foldlM disk.follow names

/-- What a path leads to. -/
def lookUp (disk : Disk) (path : Bytes) : Except FileError Entry :=
  if path.isEmpty then .error .missing
  else if Path.maxPath < path.length then .error .nameTooLong
  else
    match disk.followAll (if Path.isRooted path then [] else disk.start) (Path.parts path) with
    | .error e => .error e
    | .ok names => (disk.entry? names).elim (.error .missing) .ok

/-- Reads the file that a path leads to. -/
def read (disk : Disk) (path : String) : Except FileError Bytes :=
  match disk.lookUp (Utf8.encode path) with
  | .error e => .error e
  | .ok (.file contents) => .ok contents
  | .ok .sink => .ok []
  | .ok (.folder _) => .error .isFolder

end Disk

end TopoSync
