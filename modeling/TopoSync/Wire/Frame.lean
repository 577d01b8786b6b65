import TopoSync.Wire.Command
import TopoSync.Wire.Cursor
import TopoSync.Wire.Field

/-!
# Frames

A frame is a header of two words and a payload.  The first word counts the whole frame, header
included; the second is the code of the command.  `Frame.inspect` looks at the head of a receive
buffer: the answer is settled once the length word is settled, and it counts the missing bytes
exactly until then.
-/

namespace TopoSync

/-- A frame as it is sent. -/
structure Frame where
  bytes : Bytes
deriving DecidableEq, Repr

/-- What the head of a receive buffer says. -/
inductive Head
  /-- The buffer starts with a whole frame. -/
  | complete (length : Nat) (code : UInt32)
  /-- At least this many bytes are missing. -/
  | incomplete (missing : Nat)
  /-- The length word announces a frame that cannot be accepted. -/
  | invalid (length : Nat)
deriving DecidableEq, Repr

namespace Frame

/-- The length of the header. -/
def headerSize : Nat := 8

/-- The greatest length of a frame unless configured otherwise. -/
def defaultMaxSize : Nat := 1024 * 1024

/-- The length word at the head of a buffer. -/
def lengthWord (buffer : Bytes) : UInt32 :=
  Word.ofBytes (buffer.take 4)

/-- The code word at the head of a buffer. -/
def codeWord (buffer : Bytes) : UInt32 :=
  Word.ofBytes ((buffer.drop 4).take 4)

/-- Looks at the head of a receive buffer. -/
def inspect (buffer : Bytes) (maxSize : Nat) : Head :=
  if buffer.length < headerSize then
    .incomplete (headerSize - buffer.length)
  else
    let length := (lengthWord buffer).toNat
    if length < headerSize ∨ maxSize < length then .invalid length
    else if buffer.length < length then .incomplete (length - buffer.length)
    else .complete length (codeWord buffer)

section Heads

variable {buffer : Bytes} {maxSize length missing : Nat} {code : UInt32}

theorem inspect_of_short (short : buffer.length < headerSize) (maxSize : Nat) :
    inspect buffer maxSize = .incomplete (headerSize - buffer.length) := by
  rw [inspect, if_pos short]

/-- A buffer that holds a header is judged by its length word. -/
theorem inspect_of_header (header : headerSize ≤ buffer.length) (maxSize : Nat) :
    inspect buffer maxSize =
      if (lengthWord buffer).toNat < headerSize ∨ maxSize < (lengthWord buffer).toNat then
        .invalid (lengthWord buffer).toNat
      else if buffer.length < (lengthWord buffer).toNat then
        .incomplete ((lengthWord buffer).toNat - buffer.length)
      else .complete (lengthWord buffer).toNat (codeWord buffer) := by
  rw [inspect, if_neg (Nat.not_lt.mpr header)]

/-- The length of a whole frame can be accepted, and the frame lies within the buffer. -/
theorem inspect_eq_complete_iff :
    inspect buffer maxSize = .complete length code ↔
      (headerSize ≤ length ∧ length ≤ maxSize ∧ length ≤ buffer.length) ∧
        (lengthWord buffer).toNat = length ∧ codeWord buffer = code := by
  by_cases header : headerSize ≤ buffer.length
  · rw [inspect_of_header header]
    split
    · simp only [reduceCtorEq, false_iff]
      omega
    · split
      · simp only [reduceCtorEq, false_iff]
        omega
      · rw [Head.complete.injEq]
        constructor
        · rintro ⟨rfl, rfl⟩
          exact ⟨by omega, rfl, rfl⟩
        · exact And.right
  · rw [inspect_of_short (Nat.not_le.mp header)]
    simp only [reduceCtorEq, false_iff]
    omega

/-- A length that cannot be accepted is found in a whole header. -/
theorem inspect_eq_invalid_iff :
    inspect buffer maxSize = .invalid length ↔
      headerSize ≤ buffer.length ∧ (length < headerSize ∨ maxSize < length) ∧
        (lengthWord buffer).toNat = length := by
  by_cases header : headerSize ≤ buffer.length
  · rw [inspect_of_header header]
    split
    · rw [Head.invalid.injEq]
      omega
    · split
      · simp only [reduceCtorEq, false_iff]
        omega
      · simp only [reduceCtorEq, false_iff]
        omega
  · rw [inspect_of_short (Nat.not_le.mp header)]
    simp only [reduceCtorEq, false_iff]
    omega

/-- Bytes are missing up to a whole header or, after it, up to the length that it announces. -/
theorem inspect_eq_incomplete_iff :
    inspect buffer maxSize = .incomplete missing ↔
      0 < missing ∧
        (buffer.length + missing = headerSize ∨
          headerSize ≤ buffer.length ∧ buffer.length + missing ≤ maxSize ∧
            (lengthWord buffer).toNat = buffer.length + missing) := by
  by_cases header : headerSize ≤ buffer.length
  · rw [inspect_of_header header]
    split
    · simp only [reduceCtorEq, false_iff]
      omega
    · split
      · rw [Head.incomplete.injEq]
        omega
      · simp only [reduceCtorEq, false_iff]
        omega
  · rw [inspect_of_short (Nat.not_le.mp header), Head.incomplete.injEq]
    omega

/-- A whole frame holds at least its header, and lies within the buffer. -/
theorem bounds_of_inspect_complete (whole : inspect buffer maxSize = .complete length code) :
    headerSize ≤ length ∧ length ≤ maxSize ∧ length ≤ buffer.length :=
  (inspect_eq_complete_iff.mp whole).1

end Heads

/-- The number of bytes in a frame. -/
def length (f : Frame) : Nat :=
  f.bytes.length

/-- The code in the header, if the frame is long enough to have one. -/
def code? (f : Frame) : Option UInt32 :=
  if headerSize ≤ f.length then some (codeWord f.bytes) else none

/-- The command of the frame, if its code is a known one. -/
def command? (f : Frame) : Option Command :=
  f.code?.bind Command.ofCode?

/-- A cursor at the first byte of the payload. -/
def payload (f : Frame) : Cursor :=
  Cursor.atOffset f.bytes headerSize

/-- The frame with one byte replaced; an offset past the end changes nothing. -/
def withByte (f : Frame) (offset : Nat) (b : UInt8) : Frame :=
  ⟨f.bytes.set offset b⟩

/-- The frame of a command with the given payload.  A frame longer than a word can count announces
the greatest word. -/
def build (c : Command) (fields : List Field) : Frame :=
  let body := Word.toBytes c.code ++ Field.encodeAll fields
  ⟨Word.toBytes (UInt32.ofNat (min (body.length + 4) 0xFFFFFFFF)) ++ body⟩

@[simp] theorem length_withByte (f : Frame) (offset : Nat) (b : UInt8) :
    (f.withByte offset b).length = f.length :=
  List.length_set

theorem length_build (c : Command) (fields : List Field) :
    (build c fields).length = headerSize + (Field.encodeAll fields).length := by
  simp [build, length, headerSize]
  omega

end Frame

end TopoSync
