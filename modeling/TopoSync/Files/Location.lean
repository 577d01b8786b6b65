import TopoSync.Files.Path
import TopoSync.Text.Numeral

/-!
# Locations of databases

A database is named by a path, or by the scheme of files: a path behind it and options behind a
question mark, with characters written as a percent sign and two digits where needed.
-/

namespace TopoSync

/-- What may be done with a database. -/
inductive Access
  | readOnly
  | readWrite
  /-- Reading and writing, and making the file if it is missing. -/
  | create
  /-- There is no file. -/
  | memory
deriving DecidableEq, Repr

namespace Access

/-- How much an access permits. -/
def rank : Access → Nat
  | readOnly => 1
  | readWrite => 2
  | create => 3
  | memory => 4

/-- Whether one access may be asked for after another one.  Memory may always be asked for. -/
def permits (current wanted : Access) : Bool :=
  wanted == memory || wanted.rank ≤ current.rank

/-- An access by its name. -/
def ofName? : String → Option Access
  | "ro" => some readOnly
  | "rw" => some readWrite
  | "rwc" => some create
  | "memory" => some memory
  | _ => none

end Access

/-- Where a database is. -/
structure Location where
  path : Bytes
  access : Access := .create
  /-- Whether the database is kept in memory, whatever its path. -/
  inMemory : Bool := false
  options : List (Bytes × Bytes) := []
deriving DecidableEq, Repr

namespace Location

/-- The byte of a character of one byte. -/
def byteOf (c : Char) : UInt8 :=
  UInt8.ofNat c.toNat

/-- The value of a hexadecimal digit. -/
def hexValue? (b : UInt8) : Option Nat :=
  Numeral.hexValue? (Char.ofNat b.toNat)

/-- The byte that two digits in front stand for. -/
def escaped? : Bytes → Option Nat
  | a :: b :: _ => do return (← hexValue? a) * 16 + (← hexValue? b)
  | _ => none

/-- The bytes that a text with percent signs stands for.  A zero ends it; a percent sign without digits
stands for itself. -/
def unescapeFrom : (skip : Nat) → Bytes → Bytes
  | _, [] => []
  | skip + 1, _ :: rest => unescapeFrom skip rest
  | 0, b :: rest =>
      if b == byteOf '%' then
        match escaped? rest with
        | some 0 => []
        | some n => UInt8.ofNat n :: unescapeFrom 2 rest
        | none => b :: unescapeFrom 0 rest
      else b :: unescapeFrom 0 rest

/-- The bytes that a text with percent signs stands for. -/
def unescape (text : Bytes) : Bytes :=
  unescapeFrom 0 text

/-- A text before and behind the first of a kind of byte. -/
def splitAt (c : Char) (text : Bytes) : Bytes × Bytes :=
  let (before, behind) := text.span (· != byteOf c)
  (before, behind.tail)

/-- An option: its name and its value. -/
def readOption (text : Bytes) : Bytes × Bytes :=
  let (name, value) := splitAt '=' text
  (unescape name, unescape value)

/-- The options in a text; those without a name count for nothing. -/
def readOptions (text : Bytes) : List (Bytes × Bytes) :=
  ((text.splitOn (byteOf '&')).map readOption).filter fun o => !o.1.isEmpty

/-- What follows the name of the machine, which must be this one. -/
def dropMachine? (text : Bytes) : Option Bytes :=
  match text with
  | a :: b :: rest =>
      if a == Path.slash && b == Path.slash then
        let (machine, path) := rest.span (· != Path.slash)
        if machine.isEmpty || machine == Utf8.encode "localhost" then some path else none
      else some text
  | _ => some text

/-- The ways in which files are locked. -/
def lockings : List String :=
  ["unix", "unix-none", "unix-dotfile", "unix-excl"]

/-- The name of the storage in memory. -/
def memoryStorage : String :=
  "memdb"

/-- A location with one more option in effect. -/
def withOption? (l : Location) (o : Bytes × Bytes) : Option Location :=
  let value := Utf8.lossy o.2
  match Utf8.lossy o.1 with
  | "cache" => if value == "shared" || value == "private" then some l else none
  | "mode" =>
      (Access.ofName? value).bind fun access =>
        if l.access.permits access then some { l with access } else none
  | _ => some l

/-- The value of the last option of a name. -/
def lastOption? (options : List (Bytes × Bytes)) (name : String) : Option Bytes :=
  ((options.filter fun o => o.1 == Utf8.encode name).map Prod.snd).getLast?

/-- A location with its storage chosen. -/
def withStorage? (l : Location) : Option Location :=
  match lastOption? l.options "vfs" with
  | none => some l
  | some bytes =>
      let storage := Utf8.lossy bytes
      if storage == memoryStorage then some { l with inMemory := true }
      else if lockings.contains storage then some l
      else none

/-- The scheme of files. -/
def scheme : Bytes :=
  Utf8.encode "file:"

/-- The location that a name stands for. -/
def ofName? (name : Bytes) : Option Location :=
  if scheme.isPrefixOf name then
    (dropMachine? (name.drop scheme.length)).bind fun text =>
      let (path, query) := splitAt '?' (splitAt '#' text).1
      let options := readOptions query
      let start : Location := { path := unescape path, options }
      (options.foldlM withOption? start).bind withStorage?
  else some { path := name }

/-- The value of the first option of a name. -/
def option? (l : Location) (name : String) : Option Bytes :=
  (l.options.find? fun o => o.1 == Utf8.encode name).map Prod.snd

/-- The lowest byte of a number of at most 31 bits; a larger one counts as none. -/
def lowByte (n : Nat) : Nat :=
  if n < 0x80000000 then n % 0x100 else 0

/-- Whether a text that starts with a digit stands for a number other than a multiple of 256.  What
follows the number does not matter. -/
def isNonzero (text : List Char) : Bool :=
  match text with
  | '0' :: x :: rest =>
      let digits := rest.takeWhile (Numeral.isDigit 16)
      if x.toLower == 'x' && !digits.isEmpty then
        lowByte ((Numeral.value? 16 digits).getD 0) != 0
      else lowByte ((Numeral.value? 10 (text.takeWhile (Numeral.isDigit 10))).getD 0) != 0
  | _ => lowByte ((Numeral.value? 10 (text.takeWhile (Numeral.isDigit 10))).getD 0) != 0

/-- Whether the value of an option turns it on. -/
def turnsOn (value : Bytes) : Bool :=
  let text := (Utf8.lossy value).toList
  if text.head?.any (Numeral.isDigit 10) then isNonzero text
  else ["on", "yes", "true"].contains (String.ofList (text.map Char.toLower))

/-- Whether the file is said never to change. -/
def isFrozen (l : Location) : Bool :=
  (l.option? "immutable").any turnsOn

end Location

end TopoSync
