import TopoSync.Checked.Steps
import TopoSync.Wire.Request

/-!
# Reading a payload in place

A reader keeps the whole buffer and a position in it, and takes slices of the buffer.  As long as the
position lies within the buffer no slice fails, and a reader then takes exactly what a cursor takes:
each step checks that enough is left before it takes anything, and this keeps the position in bounds
for the steps after it.
-/

namespace TopoSync

/-- A buffer and how much of it has been read. -/
structure Reader where
  buffer : Bytes
  position : Nat
deriving DecidableEq, Repr

namespace Reader

/-- The reader at an offset; an offset past the end counts as the end. -/
def atOffset (buffer : Bytes) (offset : Nat) : Reader :=
  ⟨buffer, min offset buffer.length⟩

/-- How many bytes are left. -/
def remaining? (r : Reader) : Option Nat :=
  Checked.sub? r.buffer.length r.position

/-- The cursor at the same position. -/
def cursor (r : Reader) : Cursor :=
  ⟨r.position, r.buffer.drop r.position⟩

/-- Whether the position lies within the buffer, and the end of the buffer is a position. -/
structure Within (r : Reader) : Prop where
  position_le : r.position ≤ r.buffer.length
  length_le : r.buffer.length ≤ Checked.maxCount

theorem within_atOffset {buffer : Bytes} (small : buffer.length ≤ Checked.maxCount) (offset : Nat) :
    (atOffset buffer offset).Within :=
  ⟨Nat.min_le_right _ _, small⟩

theorem cursor_atOffset (buffer : Bytes) (offset : Nat) :
    (atOffset buffer offset).cursor = Cursor.atOffset buffer offset := by
  have same : buffer.drop (min offset buffer.length) = buffer.drop offset := by
    rcases Nat.le_total offset buffer.length with within | past
    · rw [Nat.min_eq_left within]
    · rw [Nat.min_eq_right past, List.drop_length, List.drop_eq_nil_of_le past]
  rw [cursor, Cursor.atOffset, atOffset, same]

theorem remaining?_of_within {r : Reader} (inside : r.Within) :
    r.remaining? = some r.cursor.remaining := by
  rw [remaining?, Checked.sub?_of_le inside.position_le, Cursor.remaining, cursor, List.length_drop]

end Reader

/-- A reading step in place: it moves the reader and gives a value or the reason why there is none,
unless a step fails. -/
abbrev Scan : Type → Type :=
  ExceptT Truncated (StateT Reader Option)

namespace Scan

/-- The next `n` bytes, or a failure to read that leaves the reader where it is. -/
def take (n : Nat) : Scan Bytes := fun r => do
  let left ← r.remaining?
  if left < n then
    return (.error ⟨r.position, n, left⟩, r)
  else
    let stop ← Checked.add? r.position n
    let bytes ← Checked.slice? r.buffer r.position stop
    return (.ok bytes, { r with position := stop })

/-- One byte. -/
def byte : Scan UInt8 := do
  let bytes ← take 1
  let b ← bytes[0]?
  return b

/-- One word. -/
def word : Scan UInt32 := do
  let bytes ← take 4
  let n ← Checked.word? bytes 0
  return n

/-- One signed word. -/
def signed : Scan Int32 := do
  let n ← word
  return Word.toSigned n

/-- A length word and as many bytes as it counts. -/
def block : Scan Bytes := do
  let length ← word
  take length.toNat

/-- A text, ill-formed bytes replaced. -/
def text : Scan String := do
  let bytes ← block
  return Utf8.lossy bytes

/-- A text for a column of `capacity` bytes, of which the last is kept free. -/
def boundedText (capacity : Nat) : Scan String := do
  let bytes ← block
  let kept ← Checked.slice? bytes 0 (min bytes.length (capacity - 1))
  return Utf8.lossy kept

/-- The editable fields of a node, each cut to its column. -/
def nodeFields : Scan NodeFields := do
  let objectId ← boundedText textCapacity
  let name ← boundedText textCapacity
  let contact ← boundedText textCapacity
  let location ← boundedText textCapacity
  let description ← boundedText textCapacity
  let forwarding ← byte
  let mgmtAddress ← boundedText addressCapacity
  let mgmtFlags ← word
  let topoFlags ← word
  return ⟨objectId, name, contact, location, description, forwarding != 0, mgmtAddress, mgmtFlags,
    topoFlags⟩

/-- One interface of a node. -/
def interface : Scan Interface := do
  let id ← word
  let status ← word
  let flags ← word
  let ipAddress ← text
  let ifIndex ← word
  let description ← text
  let ifType ← word
  let physAddress ← text
  return ⟨id, status, flags, ipAddress, ifIndex, description, ifType, physAddress⟩

/-- The payload of a request. -/
def request : Command → Scan Request
  | .login => return .login (← boundedText credentialCapacity) (← boundedText credentialCapacity)
  | .getMapList => return .getMapList
  | .openMap => return .openMap (← signed)
  | .closeMap => return .closeMap (← signed)
  | .addSymbol => return .addSymbol (← signed) (← signed) (← signed) (← signed)
  | .renameSymbol => return .renameSymbol (← signed) (← signed) (← signed)
  | .deleteSymbol => return .deleteSymbol (← signed) (← signed)
  | .translateSymbol => return .translateSymbol (← signed) (← signed) (← signed) (← signed)
  | .addConnection => return .addConnection (← signed) (← signed) (← signed) (← signed)
  | .renameConnection => return .renameConnection (← signed) (← signed) (← signed)
  | .deleteConnection => return .deleteConnection (← signed) (← signed)
  | .openNode => return .openNode (← word)
  | .closeNode => return .closeNode (← word)
  | .setNode => return .setNode (← word) (← nodeFields)
  | .lockNode => return .lockNode (← word)
  | .unlockNode => return .unlockNode (← word)
  | .addMap => return .unsupported .addMap
  | .renameMap => return .unsupported .renameMap
  | .deleteMap => return .unsupported .deleteMap
  | .editConnection => return .unsupported .editConnection
  | .addNode => return .unsupported .addNode
  | .deleteNode => return .unsupported .deleteNode
  | .updateNode => return .unsupported .updateNode

/-- Whether a step in place has a value wherever the position lies within the buffer, namely that of
a reading step, and leaves the position there. -/
def Follows {α : Type} (scan : Scan α) (read : Read α) : Prop :=
  ∀ r : Reader, r.Within →
    ∃ r' : Reader, scan.run.run r = some ((read r.cursor).1, r') ∧ r'.cursor = (read r.cursor).2 ∧
      r'.Within

/-- Whether a reading step can give a value. -/
def CanGive {α : Type} (read : Read α) (a : α) : Prop :=
  ∃ c c', read c = (.ok a, c')

section Following

variable {α β : Type}

theorem follows_pure (a : α) : Follows (pure a) (pure a) :=
  fun r inside => ⟨r, rfl, rfl, inside⟩

/-- Steps one after the other follow if the later ones do so for every value that the first one can
give. -/
theorem Follows.bind_of_canGive {scan : Scan α} {read : Read α} (first : scan.Follows read)
    {next : α → Scan β} {later : α → Read β}
    (rest : ∀ a, CanGive read a → (next a).Follows (later a)) :
    Follows (scan >>= next) (read >>= later) := by
  intro r inside
  obtain ⟨r₁, scanned, cursor, within⟩ := first r inside
  have opened : (scan >>= next).run.run r =
      (scan.run.run r).bind fun e => (ExceptT.bindCont next e.1).run e.2 := rfl
  rw [opened, scanned, Option.bind_some, Read.bind_apply]
  rcases outcome : read r.cursor with ⟨reason | a, c⟩
  · rw [outcome] at cursor
    exact ⟨r₁, rfl, cursor, within⟩
  · rw [outcome] at cursor
    subst cursor
    exact rest a ⟨r.cursor, r₁.cursor, outcome⟩ r₁ within

theorem Follows.bind {scan : Scan α} {read : Read α} (first : scan.Follows read)
    {next : α → Scan β} {later : α → Read β} (rest : ∀ a, (next a).Follows (later a)) :
    Follows (scan >>= next) (read >>= later) :=
  first.bind_of_canGive fun a _ => rest a

end Following

section Steps

/-- Enough is left of the buffer for every slice that is taken. -/
theorem follows_take (n : Nat) : (take n).Follows (Read.take n) := by
  intro r inside
  have length : r.cursor.remaining = r.buffer.length - r.position := List.length_drop
  have within := inside.position_le
  have small := inside.length_le
  simp only [take, ExceptT.run, StateT.run, Reader.remaining?_of_within inside,
    Option.bind_eq_bind, Option.bind_some]
  by_cases short : r.cursor.remaining < n
  · rw [if_pos short, Read.take_of_lt short]
    exact ⟨r, rfl, rfl, inside⟩
  · have still : r.position + n ≤ r.buffer.length := by omega
    rw [if_neg short, Read.take_of_le (Nat.not_lt.mp short),
      Checked.add?_of_le (Nat.le_trans still small), Option.bind_some,
      Checked.slice?_of_le (Nat.le_add_right _ _) still, Nat.add_sub_cancel_left]
    refine ⟨{ r with position := r.position + n }, rfl, ?_, still, small⟩
    rw [Reader.cursor, Reader.cursor, List.drop_drop]

theorem length_of_canGive_take {n : Nat} {bytes : Bytes} (given : CanGive (Read.take n) bytes) :
    bytes.length = n := by
  obtain ⟨c, c', taken⟩ := given
  rw [Read.take] at taken
  split at taken
  · cases taken
  · rename_i enough
    cases taken
    exact List.length_take_of_le (Nat.not_lt.mp enough)

theorem follows_byte : byte.Follows Read.byte := by
  refine (follows_take 1).bind_of_canGive fun bytes given => ?_
  obtain ⟨b, rfl⟩ := List.length_eq_one_iff.mp (length_of_canGive_take given)
  exact follows_pure b

theorem follows_word : word.Follows Read.word := by
  refine (follows_take 4).bind_of_canGive fun bytes given => ?_
  have four := length_of_canGive_take given
  rw [Checked.word?_of_le (Nat.le_of_eq (by rw [four])), List.drop_zero,
    List.take_of_length_le (Nat.le_of_eq four)]
  exact follows_pure (Word.ofBytes bytes)

theorem follows_signed : signed.Follows Read.signed :=
  follows_word.bind fun n => follows_pure (Word.toSigned n)

theorem follows_block : block.Follows Read.block :=
  follows_word.bind fun length => follows_take length.toNat

theorem follows_text : text.Follows Read.text :=
  follows_block.bind fun bytes => follows_pure (Utf8.lossy bytes)

theorem follows_boundedText (capacity : Nat) :
    (boundedText capacity).Follows (Read.boundedText capacity) := by
  refine follows_block.bind fun bytes => ?_
  have kept : bytes.take (min bytes.length (capacity - 1)) = bytes.take (capacity - 1) := by
    rw [Nat.min_comm, ← List.take_take, List.take_length]
  rw [Checked.slice?_of_le (Nat.zero_le _) (Nat.min_le_left _ _), List.drop_zero, Nat.sub_zero, kept]
  exact follows_pure (Utf8.lossy (bytes.take (capacity - 1)))

theorem follows_nodeFields : nodeFields.Follows Read.nodeFields :=
  (follows_boundedText _).bind fun _ => (follows_boundedText _).bind fun _ =>
    (follows_boundedText _).bind fun _ => (follows_boundedText _).bind fun _ =>
    (follows_boundedText _).bind fun _ => follows_byte.bind fun _ =>
    (follows_boundedText _).bind fun _ => follows_word.bind fun _ =>
    follows_word.bind fun _ => follows_pure _

/-- The payload of every request is read in place as it is read. -/
theorem follows_request (c : Command) : (request c).Follows (Read.request c) := by
  cases c with
  | login =>
      exact (follows_boundedText _).bind fun _ => (follows_boundedText _).bind fun _ =>
        follows_pure _
  | openMap | closeMap => exact follows_signed.bind fun _ => follows_pure _
  | addSymbol | translateSymbol | addConnection =>
      exact follows_signed.bind fun _ => follows_signed.bind fun _ => follows_signed.bind fun _ =>
        follows_signed.bind fun _ => follows_pure _
  | renameSymbol | renameConnection =>
      exact follows_signed.bind fun _ => follows_signed.bind fun _ => follows_signed.bind fun _ =>
        follows_pure _
  | deleteSymbol | deleteConnection =>
      exact follows_signed.bind fun _ => follows_signed.bind fun _ => follows_pure _
  | openNode | closeNode | lockNode | unlockNode => exact follows_word.bind fun _ => follows_pure _
  | setNode => exact follows_word.bind fun _ => follows_nodeFields.bind fun _ => follows_pure _
  | getMapList | addMap | renameMap | deleteMap | editConnection | addNode | deleteNode
  | updateNode => exact follows_pure _

end Steps

end Scan

/-- Reads the request in a frame in place, given the command that its header names. -/
def Request.decode? (c : Command) (frame : Bytes) : Option (Except Truncated Request) :=
  ((Scan.request c).run.run (Reader.atOffset frame Frame.headerSize)).map Prod.fst

/-- No step of reading a request fails, whatever the frame holds. -/
theorem Request.decode?_eq {frame : Bytes} (small : frame.length ≤ Checked.maxCount) (c : Command) :
    decode? c frame = some (decode c frame) := by
  obtain ⟨r, scanned, _⟩ := Scan.follows_request c _ (Reader.within_atOffset small Frame.headerSize)
  rw [decode?, scanned, Reader.cursor_atOffset]
  rfl

end TopoSync
