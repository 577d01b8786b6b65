import TopoSync.Wire.Framing

/-!
# Cutting a longer stream

What the head of a buffer says once it is settled does not change when more bytes arrive.  Hence a
stream can be cut as it arrives: the frames are those of the whole stream, and what is left over is
cut together with what comes later.
-/

namespace TopoSync

namespace Frame

variable {buffer : Bytes} {maxSize length : Nat} {code : UInt32}

theorem lengthWord_append (more : Bytes) (header : headerSize ≤ buffer.length) :
    lengthWord (buffer ++ more) = lengthWord buffer := by
  have enough : 4 ≤ buffer.length := Nat.le_trans (by decide) header
  rw [lengthWord, lengthWord, List.take_append_of_le_length enough]

theorem codeWord_append (more : Bytes) (header : headerSize ≤ buffer.length) :
    codeWord (buffer ++ more) = codeWord buffer := by
  have enough : 4 ≤ buffer.length := Nat.le_trans (by decide) header
  have rest : 4 ≤ (buffer.drop 4).length := by
    rw [List.length_drop]
    simp only [headerSize] at header
    omega
  rw [codeWord, codeWord, List.drop_append_of_le_length enough, List.take_append_of_le_length rest]

/-- A whole frame stays one when more bytes arrive. -/
theorem inspect_append_of_complete (whole : inspect buffer maxSize = .complete length code)
    (more : Bytes) : inspect (buffer ++ more) maxSize = .complete length code := by
  obtain ⟨⟨least, most, within⟩, announced, named⟩ := inspect_eq_complete_iff.mp whole
  have header : headerSize ≤ buffer.length := Nat.le_trans least within
  rw [inspect_eq_complete_iff, lengthWord_append more header, codeWord_append more header,
    List.length_append]
  exact ⟨⟨least, most, Nat.le_add_right_of_le within⟩, announced, named⟩

/-- A length word that cannot be accepted stays so when more bytes arrive. -/
theorem inspect_append_of_invalid (bad : inspect buffer maxSize = .invalid length) (more : Bytes) :
    inspect (buffer ++ more) maxSize = .invalid length := by
  obtain ⟨header, unacceptable, announced⟩ := inspect_eq_invalid_iff.mp bad
  rw [inspect_eq_invalid_iff, lengthWord_append more header, List.length_append]
  exact ⟨Nat.le_add_right_of_le header, unacceptable, announced⟩

end Frame

namespace Framing

variable {maxSize : Nat} {buffer : Bytes}

/-- More bytes are cut together with what was left of the earlier ones. -/
theorem split_append (maxSize : Nat) (buffer more : Bytes) :
    split maxSize (buffer ++ more) =
      { split maxSize ((split maxSize buffer).rest ++ more) with
        frames := (split maxSize buffer).frames ++
          (split maxSize ((split maxSize buffer).rest ++ more)).frames } := by
  induction buffer using split.induct maxSize with
  | case1 buffer missing head => rw [split_of_incomplete head, List.nil_append]
  | case2 buffer bad head => rw [split_of_invalid head, List.nil_append]
  | case3 buffer whole code head ih =>
      have within := (Frame.bounds_of_inspect_complete head).2.2
      rw [split_of_complete head, split_of_complete (Frame.inspect_append_of_complete head more),
        List.drop_append_of_le_length within, List.take_append_of_le_length within, ih]
      rfl

/-- Cutting stops at a length word only where that word heads what is left. -/
theorem inspect_rest_of_badLength {length : Nat}
    (stopped : (split maxSize buffer).stop = .badLength length) :
    Frame.inspect (split maxSize buffer).rest maxSize = .invalid length := by
  induction buffer using split.induct maxSize with
  | case1 buffer missing head =>
      rw [split_of_incomplete head] at stopped
      cases stopped
  | case2 buffer bad head =>
      rw [split_of_invalid head] at stopped ⊢
      cases stopped
      exact head
  | case3 buffer whole code head ih =>
      rw [split_of_complete head] at stopped ⊢
      exact ih stopped

/-- More bytes after a length word that cannot be accepted are left over. -/
theorem split_append_of_badLength {length : Nat}
    (stopped : (split maxSize buffer).stop = .badLength length) (more : Bytes) :
    split maxSize (buffer ++ more) =
      ⟨(split maxSize buffer).frames, (split maxSize buffer).rest ++ more, .badLength length⟩ := by
  have bad := Frame.inspect_append_of_invalid (inspect_rest_of_badLength stopped) more
  rw [split_append, split_of_invalid bad, List.append_nil]

theorem split_nil (maxSize : Nat) : split maxSize [] = ⟨[], [], .wantsMore⟩ := by
  have waiting : Frame.inspect [] maxSize = .incomplete Frame.headerSize := rfl
  exact split_of_incomplete waiting

/-- After whole frames more bytes are cut as if they came alone. -/
theorem split_append_of_whole {frames : List Bytes}
    (whole : split maxSize buffer = ⟨frames, [], .wantsMore⟩) (more : Bytes) :
    split maxSize (buffer ++ more) =
      { split maxSize more with frames := frames ++ (split maxSize more).frames } := by
  rw [split_append, whole, List.nil_append]

end Framing

end TopoSync
