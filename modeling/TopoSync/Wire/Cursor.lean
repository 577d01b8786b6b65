import TopoSync.Wire.Word

/-!
# Reading a payload

A cursor holds the bytes not read yet and the number of bytes before them.  A read either takes
what it asks for, or reports where it stood, what it needed and what was left.  What was read before
a failing step stays read.
-/

namespace TopoSync

/-- A read that asks for more bytes than are left. -/
structure Truncated where
  /-- The position at which the bytes were needed. -/
  offset : Nat
  /-- How many bytes were needed. -/
  needed : Nat
  /-- How many bytes were left. -/
  available : Nat
deriving DecidableEq, Repr

/-- The text of a failed read. -/
def Truncated.message (t : Truncated) : String :=
  s!"truncated payload: {t.needed} bytes needed at offset {t.offset}, {t.available} available"

/-- A position in a buffer, with the bytes that follow it. -/
structure Cursor where
  position : Nat
  rest : Bytes
deriving DecidableEq, Repr

namespace Cursor

/-- The cursor at an offset; an offset past the end counts as the end. -/
def atOffset (buffer : Bytes) (offset : Nat) : Cursor :=
  ⟨min offset buffer.length, buffer.drop offset⟩

/-- The cursor at the start of a buffer. -/
def start (buffer : Bytes) : Cursor :=
  ⟨0, buffer⟩

/-- How many bytes are left. -/
def remaining (c : Cursor) : Nat :=
  c.rest.length

end Cursor

/-- A reading step: it moves the cursor and gives a value or the reason why there is none. -/
def Read (α : Type) : Type :=
  Cursor → Except Truncated α × Cursor

namespace Read

instance : Monad Read where
  pure a := fun c => (.ok a, c)
  bind step next := fun c =>
    match step c with
    | (.ok a, c') => next a c'
    | (.error e, c') => (.error e, c')

@[simp] theorem pure_apply {α : Type} (a : α) (c : Cursor) : (pure a : Read α) c = (.ok a, c) := rfl

theorem bind_apply {α β : Type} (step : Read α) (next : α → Read β) (c : Cursor) :
    (step >>= next) c =
      match step c with
      | (.ok a, c') => next a c'
      | (.error e, c') => (.error e, c') := rfl

/-- The next `n` bytes, or a failure that leaves the cursor where it is. -/
def take (n : Nat) : Read Bytes := fun c =>
  if c.remaining < n then
    (.error ⟨c.position, n, c.remaining⟩, c)
  else
    (.ok (c.rest.take n), ⟨c.position + n, c.rest.drop n⟩)

/-- One byte. -/
def byte : Read UInt8 := do
  let bytes ← take 1
  return bytes.headD 0

/-- One word. -/
def word : Read UInt32 := do
  let bytes ← take 4
  return Word.ofBytes bytes

/-- One signed word. -/
def signed : Read Int32 := do
  let n ← word
  return Word.toSigned n

/-- A length word and as many bytes as it counts. -/
def block : Read Bytes := do
  let length ← word
  take length.toNat

/-- A text, ill-formed bytes replaced. -/
def text : Read String := do
  let bytes ← block
  return Utf8.lossy bytes

/-- A text for a column of `capacity` bytes, of which the last is kept free.  Bytes beyond the column
are read and dropped before the rest is turned into text. -/
def boundedText (capacity : Nat) : Read String := do
  let bytes ← block
  return Utf8.lossy (bytes.take (capacity - 1))

theorem take_of_le {n : Nat} {c : Cursor} (h : n ≤ c.remaining) :
    take n c = (.ok (c.rest.take n), ⟨c.position + n, c.rest.drop n⟩) := by
  rw [take, if_neg (by omega)]

theorem take_of_lt {n : Nat} {c : Cursor} (h : c.remaining < n) :
    take n c = (.error ⟨c.position, n, c.remaining⟩, c) := by
  rw [take, if_pos h]

end Read

end TopoSync
