import TopoSync.Checked.Steps
import TopoSync.Session
import TopoSync.Wire.Notification

/-!
# Cutting and building frames step by step

The header of a buffer is read at indices and the frame that it announces is drained; the length word
of a frame that is built is reserved first and overwritten at the end.  No step of this fails: every
index that is read is below the length of a header, which is looked at first, and no frame is drained
that is longer than the buffer.
-/

namespace TopoSync

namespace Frame

/-- Looks at the head of a receive buffer. -/
def inspect? (buffer : Bytes) (maxSize : Nat) : Option Head := do
  if buffer.length < headerSize then
    let missing ← Checked.sub? headerSize buffer.length
    return .incomplete missing
  else
    let announced ← Checked.word? buffer 0
    let length := announced.toNat
    if length < headerSize ∨ maxSize < length then
      return .invalid length
    else if buffer.length < length then
      let missing ← Checked.sub? length buffer.length
      return .incomplete missing
    else
      let code ← Checked.word? buffer 4
      return .complete length code

/-- Both words of the header are read only if the header is there. -/
theorem inspect?_eq (buffer : Bytes) (maxSize : Nat) :
    inspect? buffer maxSize = some (inspect buffer maxSize) := by
  rw [inspect?, inspect]
  by_cases short : buffer.length < headerSize
  · rw [if_pos short, if_pos short, Checked.sub?_of_le (Nat.le_of_lt short)]
    rfl
  · have header : 8 ≤ buffer.length := Nat.not_lt.mp short
    rw [if_neg short, if_neg short, Checked.word?_of_le (by omega), Checked.word?_of_le (by omega),
      List.drop_zero, ← lengthWord, ← codeWord]
    simp only [Option.bind_eq_bind, Option.bind_some]
    split
    · rfl
    · split
      · rename_i partly
        rw [Checked.sub?_of_le (Nat.le_of_lt partly)]
        rfl
      · rfl

/-- The code word of a frame. -/
def codeWord? (frame : Bytes) : Option UInt32 :=
  Checked.word? frame 4

theorem codeWord?_of_header {frame : Bytes} (header : headerSize ≤ frame.length) :
    codeWord? frame = some (codeWord frame) :=
  Checked.word?_of_le header

/-- A frame without a whole header has no code word. -/
theorem codeWord?_of_short {frame : Bytes} (short : frame.length < headerSize) :
    codeWord? frame = none :=
  Checked.word?_of_lt short

/-- A whole frame is as long as a word can tell. -/
theorem length_lt_of_inspect_complete {buffer : Bytes} {maxSize length : Nat} {code : UInt32}
    (whole : inspect buffer maxSize = .complete length code) : length < 0x100000000 := by
  obtain ⟨-, rfl, -⟩ := inspect_eq_complete_iff.mp whole
  exact (lengthWord buffer).toNat_lt

end Frame

namespace Session

/-- Takes the next complete frame off the receive buffer. -/
def nextFrame? (s : Session) (maxSize : Nat) :
    Option (Except FramingError (Option (Bytes × Session))) := do
  match ← Frame.inspect? s.inbound maxSize with
  | .incomplete _ => return .ok none
  | .invalid length => return .error ⟨length, maxSize⟩
  | .complete length _ =>
      let (frame, rest) ← Checked.drain? s.inbound length
      return .ok (some (frame, { s with inbound := rest }))

/-- Only frames that the buffer holds are drained. -/
theorem nextFrame?_eq (s : Session) (maxSize : Nat) :
    s.nextFrame? maxSize = some (s.nextFrame maxSize) := by
  rw [nextFrame?, nextFrame, Frame.inspect?_eq, Option.bind_eq_bind, Option.bind_some]
  cases head : Frame.inspect s.inbound maxSize with
  | incomplete missing => rfl
  | invalid length => rfl
  | complete length code =>
      obtain ⟨_, _, within⟩ := Frame.bounds_of_inspect_complete head
      dsimp only
      rw [Checked.drain?_of_le within]
      rfl

/-- A frame that is taken has a header and is as long as a word can tell, and fewer bytes are left. -/
theorem bounds_of_nextFrame {s s' : Session} {maxSize : Nat} {frame : Bytes}
    (next : s.nextFrame maxSize = .ok (some (frame, s'))) :
    Frame.headerSize ≤ frame.length ∧ frame.length < 0x100000000 ∧
      s'.inbound.length < s.inbound.length := by
  rw [nextFrame] at next
  cases head : Frame.inspect s.inbound maxSize with
  | incomplete missing =>
      rw [head] at next
      cases next
  | invalid length =>
      rw [head] at next
      cases next
  | complete length code =>
      rw [head] at next
      cases next
      obtain ⟨least, _, within⟩ := Frame.bounds_of_inspect_complete head
      rw [List.length_take_of_le within, List.length_drop]
      refine ⟨least, Frame.length_lt_of_inspect_complete head, ?_⟩
      rw [Frame.headerSize] at least
      omega

end Session

namespace Field

/-- A length word and as many bytes as it counts. -/
def encodeBlock? (bytes : Bytes) : Option Bytes := do
  let length := countWord bytes.length
  let kept ← Checked.slice? bytes 0 length.toNat
  return Word.toBytes length ++ kept

/-- The bytes of a field. -/
def encode? : Field → Option Bytes
  | byte b => some [b]
  | word n => some (Word.toBytes n)
  | signed n => some (Word.toBytes (Word.ofSigned n))
  | block bytes => encodeBlock? bytes
  | text s => encodeBlock? (Utf8.encode s)

/-- The bytes of a sequence of fields. -/
def encodeAll? (fields : List Field) : Option Bytes :=
  (fields.mapM encode?).map List.flatten

/-- A count that no word can hold is cut down, so the slice stays within the bytes. -/
theorem encodeBlock?_eq (bytes : Bytes) : encodeBlock? bytes = some (encodeBlock bytes) := by
  have count : (countWord bytes.length).toNat = min bytes.length maxBlock := by
    rw [countWord, UInt32.toNat_ofNat', Nat.mod_eq_of_lt (by omega)]
    rfl
  have kept : bytes.take (min bytes.length maxBlock) = bytes.take maxBlock := by
    rw [Nat.min_comm, ← List.take_take, List.take_length]
  have length : countWord bytes.length = UInt32.ofNat (bytes.take maxBlock).length := by
    rw [countWord, List.length_take, Nat.min_comm]
    rfl
  rw [encodeBlock?, encodeBlock, count,
    Checked.slice?_of_le (Nat.zero_le _) (Nat.min_le_left _ _), List.drop_zero, Nat.sub_zero, kept,
    length]
  rfl

theorem encode?_eq (f : Field) : f.encode? = some f.encode := by
  cases f with
  | byte b => rfl
  | word n => rfl
  | signed n => rfl
  | block bytes => exact encodeBlock?_eq bytes
  | text s => exact encodeBlock?_eq (Utf8.encode s)

theorem encodeAll?_eq (fields : List Field) : encodeAll? fields = some (encodeAll fields) := by
  have each : fields.mapM encode? = some (fields.map encode) := by
    induction fields with
    | nil => rfl
    | cons f rest ih =>
        rw [List.mapM_cons, encode?_eq, ih]
        rfl
  rw [encodeAll?, each]
  rfl

end Field

namespace Frame

/-- Builds the frame of a command: the length word is reserved, the code and the payload are written,
and the length word is overwritten. -/
def build? (c : Command) (fields : List Field) : Option Frame := do
  let payload ← Field.encodeAll? fields
  let written := Word.toBytes 0 ++ Word.toBytes c.code ++ payload
  let bytes ← Bytes.overwriteWord? written 0 (countWord written.length)
  return ⟨bytes⟩

/-- The length word is there to be overwritten. -/
theorem build?_eq (c : Command) (fields : List Field) : build? c fields = some (build c fields) := by
  have header : 0 + 4 ≤ (Word.toBytes 0 ++ Word.toBytes c.code ++ Field.encodeAll fields).length := by
    rw [List.append_assoc, List.length_append, Word.length_toBytes]
    omega
  have length : (Word.toBytes 0 ++ Word.toBytes c.code ++ Field.encodeAll fields).length =
      (Word.toBytes c.code ++ Field.encodeAll fields).length + 4 := by
    rw [List.append_assoc, List.length_append, Word.length_toBytes, Nat.add_comm]
  rw [build?, Field.encodeAll?_eq, build]
  simp only [Option.bind_eq_bind, Option.bind_some, Bytes.overwriteWord?]
  rw [if_pos header, length]
  rfl

end Frame

/-- The frame of a notification, built step by step. -/
def Notification.toFrame? (n : Notification) : Option Frame :=
  Frame.build? n.command n.fields

theorem Notification.toFrame?_eq (n : Notification) : n.toFrame? = some n.toFrame :=
  Frame.build?_eq n.command n.fields

end TopoSync
