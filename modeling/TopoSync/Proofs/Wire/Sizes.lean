import TopoSync.Proofs.Wire.Grammar

/-!
# Least sizes

A layout takes up a least number of bytes, and exactly that many if it has no block.  The size that is
asked of a frame before its payload is read comes to this number for every command without blocks, and
to less for the two others.
-/

namespace TopoSync

namespace Shape

variable {s : Shape} {f : Field} {position : Nat} {bytes : Bytes} {e : Truncated}

/-- The least number of bytes that a field of a shape takes up. -/
def least : Shape → Nat
  | byte => 1
  | word | block => 4

theorem least_le_length (ok : s.Admits f) : s.least ≤ f.encode.length := by
  cases ok with
  | byte b => exact Nat.le_refl 1
  | word n => exact Nat.le_of_eq (Word.length_toBytes n).symm
  | block fits =>
      rw [Field.encode, Field.encodeBlock, List.length_append, Word.length_toBytes]
      exact Nat.le_add_right 4 _

/-- A byte and a word take up no more than that. -/
theorem length_eq_least (ok : s.Admits f) (plain : s ≠ .block) : f.encode.length = s.least := by
  cases ok with
  | byte b => rfl
  | word n => exact Word.length_toBytes n
  | block fits => exact absurd rfl plain

theorem length_lt_least (short : s.Lacks position bytes e) (plain : s ≠ .block) :
    bytes.length < s.least := by
  cases short with
  | byte => exact Nat.one_pos
  | word short => exact short
  | length | contents => exact absurd rfl plain

end Shape

namespace Layout

variable {layout : Layout} {fields : List Field} {position : Nat} {bytes : Bytes} {e : Truncated}

/-- The least number of bytes that the fields of a layout take up. -/
def least : Layout → Nat
  | [] => 0
  | s :: rest => s.least + least rest

theorem least_le_length (ok : layout.Admits fields) :
    layout.least ≤ (Field.encodeAll fields).length := by
  induction ok with
  | nil => exact Nat.le_refl 0
  | cons first _ ih =>
      rw [least, Field.encodeAll_cons, List.length_append]
      exact Nat.add_le_add (Shape.least_le_length first) ih

/-- Without blocks, whatever is long enough is an instance: bytes fall short of the layout only by
being too few. -/
theorem length_lt_least (short : layout.Lacks position bytes e) (plain : .block ∉ layout) :
    bytes.length < layout.least := by
  induction short with
  | here short =>
      obtain ⟨first, -⟩ := List.ne_and_not_mem_of_not_mem_cons plain
      exact Nat.lt_add_right _ (Shape.length_lt_least short first.symm)
  | later first _ ih =>
      obtain ⟨here, others⟩ := List.ne_and_not_mem_of_not_mem_cons plain
      rw [least, List.length_append, Shape.length_eq_least first here.symm]
      exact Nat.add_lt_add_left (ih others) _

end Layout

namespace Command

variable {c : Command}

/-- Two commands carry texts. -/
theorem block_mem_layout_iff : .block ∈ c.layout ↔ c = .login ∨ c = .setNode := by
  cases c <;> decide

theorem minFrameSize_le (c : Command) : c.minFrameSize ≤ Frame.headerSize + c.layout.least := by
  cases c <;> decide

theorem minFrameSize_of_plain (plain : .block ∉ c.layout) :
    c.minFrameSize = Frame.headerSize + c.layout.least := by
  revert plain
  cases c <;> decide

end Command

namespace Request

variable {c : Command} {frame : Bytes} {r : Request}

/-- A frame that can be read has the size that is asked of its command. -/
theorem minFrameSize_le_of_decode (header : Frame.headerSize ≤ frame.length)
    (read : decode c frame = .ok r) : c.minFrameSize ≤ frame.length := by
  obtain ⟨fields, rest, payload, ok, -⟩ := ((decode_iff_layout c frame).1 r).mp read
  have least := Layout.least_le_length ok
  have lengths := congrArg List.length payload
  rw [List.length_drop, List.length_append] at lengths
  have asked := c.minFrameSize_le
  simp only [Frame.headerSize] at header asked
  omega

/-- Without texts, a frame of that size can be read. -/
theorem decode_of_minFrameSize_le (plain : .block ∉ c.layout) (long : c.minFrameSize ≤ frame.length) :
    ∃ r, decode c frame = .ok r := by
  rcases c.layout.admits_or_lacks (min 8 frame.length) (frame.drop 8) with
    ⟨fields, rest, ok, payload⟩ | ⟨e, short⟩
  · obtain ⟨r, -, read⟩ := decode_of_admits payload ok
    exact ⟨r, read⟩
  · have few := Layout.length_lt_least short plain
    rw [List.length_drop] at few
    rw [Command.minFrameSize_of_plain plain, Frame.headerSize] at long
    omega

/-- With texts, zeros of that size cannot: the words that count them are missing. -/
theorem decode_zeros (texts : c = .login ∨ c = .setNode) :
    ∃ e, decode c (List.replicate c.minFrameSize 0) = .error e := by
  rcases texts with rfl | rfl
  · exact ⟨⟨8, 4, 0⟩, rfl⟩
  · exact ⟨⟨12, 4, 0⟩, rfl⟩

end Request

end TopoSync
