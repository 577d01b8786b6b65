import TopoSync.Text.Utf8

/-!
# Paths

A path is a row of names with slashes between them.  One dot stands for the folder itself and two for
the folder above.
-/

namespace TopoSync

namespace Path

/-- The byte between the parts of a path. -/
def slash : UInt8 := 0x2F

/-- The byte that short names of folders are made of. -/
def dot : UInt8 := 0x2E

/-- The parts of a path, between its slashes. -/
def parts (path : Bytes) : List Bytes :=
  path.splitOn slash

/-- Whether a path starts at the root of the disk. -/
def isRooted (path : Bytes) : Bool :=
  path.head? == some slash

/-- Whether a part leads nowhere else. -/
def stays (part : Bytes) : Bool :=
  part == [] || part == [dot]

/-- Whether a part leads to the folder above. -/
def leadsUp (part : Bytes) : Bool :=
  part == [dot, dot]

/-- The longest name of a file. -/
def maxName : Nat := 255

/-- The longest path that a file can be read under. -/
def maxPath : Nat := 4095

/-- The length of a path from the root through some names. -/
def size (names : List Bytes) : Nat :=
  names.foldl (fun n name => n + name.length + 1) 0

end Path

end TopoSync
