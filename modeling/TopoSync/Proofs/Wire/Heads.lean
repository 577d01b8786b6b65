import TopoSync.Checked.Frames
import TopoSync.Proofs.Wire.Cutting

/-!
# Heads of growing buffers

A receive buffer grows while nothing is taken off it.  As long as its head says that bytes are missing,
every byte that comes lowers their number by one; once they are there, the head says something new, and
what it says of a whole frame or of a length that cannot be accepted is final.
-/

namespace TopoSync

namespace Frame

variable {buffer : Bytes} {maxSize length missing : Nat} {code : UInt32}

theorem one_le_of_inspect_incomplete (waiting : inspect buffer maxSize = .incomplete missing) :
    1 ≤ missing :=
  (inspect_eq_incomplete_iff.mp waiting).1

/-- Fewer bytes than are missing lower the count by as many. -/
theorem inspect_append_of_incomplete (waiting : inspect buffer maxSize = .incomplete missing)
    {more : Bytes} (fewer : more.length < missing) :
    inspect (buffer ++ more) maxSize = .incomplete (missing - more.length) := by
  obtain ⟨-, header | ⟨header, most, announced⟩⟩ := inspect_eq_incomplete_iff.mp waiting
  · rw [inspect_eq_incomplete_iff, List.length_append]
    omega
  · rw [inspect_eq_incomplete_iff, List.length_append, lengthWord_append more header, announced]
    omega

/-- The bytes that are missing after a header make up the frame. -/
theorem inspect_append_of_missing (waiting : inspect buffer maxSize = .incomplete missing)
    (header : headerSize ≤ buffer.length) {more : Bytes} (rest : more.length = missing) :
    inspect (buffer ++ more) maxSize = .complete (buffer.length + missing) (codeWord buffer) := by
  obtain ⟨some, short | ⟨-, most, announced⟩⟩ := inspect_eq_incomplete_iff.mp waiting
  · omega
  · rw [inspect_eq_complete_iff, lengthWord_append more header, codeWord_append more header,
      List.length_append, rest]
    exact ⟨⟨by omega, most, Nat.le_refl _⟩, announced, rfl⟩

end Frame

/-- A whole frame at the head of the receive buffer can be taken off it, and what is left is shorter. -/
theorem Session.nextFrame?_of_complete {s : Session} {maxSize length : Nat} {code : UInt32}
    (whole : Frame.inspect s.inbound maxSize = .complete length code) :
    ∃ frame rest, s.nextFrame? maxSize = some (.ok (some (frame, { s with inbound := rest }))) ∧
      s.inbound = frame ++ rest ∧ frame.length = length ∧ rest.length < s.inbound.length := by
  obtain ⟨least, -, within⟩ := Frame.bounds_of_inspect_complete whole
  refine ⟨s.inbound.take length, s.inbound.drop length, ?_,
    (List.take_append_drop length s.inbound).symm, List.length_take_of_le within, ?_⟩
  · rw [nextFrame?_eq, nextFrame, whole]
  · rw [Frame.headerSize] at least
    rw [List.length_drop]
    omega

/-- What the head of a receive buffer says of a whole frame stays as it is whatever comes after it; the
length of the frame is that of a header at least and can be accepted, and the buffer holds that much, so
the frame can be taken off and leaves a shorter buffer.  A length that cannot be accepted stays one as
well.  If bytes are missing, at least one is; any fewer of them lower the count exactly by their number;
and after a whole header, exactly as many as are missing make a frame of the bytes there and these. -/
theorem heads_of_growing_buffers (maxSize : Nat) (buffer : Bytes) :
    (∀ length code, Frame.inspect buffer maxSize = .complete length code →
      (∀ more, Frame.inspect (buffer ++ more) maxSize = .complete length code) ∧
      (Frame.headerSize ≤ length ∧ length ≤ maxSize ∧ length ≤ buffer.length) ∧
      ∀ s : Session, s.inbound = buffer →
        ∃ frame rest, s.nextFrame? maxSize = some (.ok (some (frame, { s with inbound := rest }))) ∧
          buffer = frame ++ rest ∧ frame.length = length ∧ rest.length < buffer.length) ∧
    (∀ length, Frame.inspect buffer maxSize = .invalid length →
      ∀ more, Frame.inspect (buffer ++ more) maxSize = .invalid length) ∧
    ∀ missing, Frame.inspect buffer maxSize = .incomplete missing →
      1 ≤ missing ∧
      (∀ more : Bytes, more.length < missing →
        Frame.inspect (buffer ++ more) maxSize = .incomplete (missing - more.length)) ∧
      (Frame.headerSize ≤ buffer.length → ∀ more : Bytes, more.length = missing →
        Frame.inspect (buffer ++ more) maxSize =
          .complete (buffer.length + missing) (Frame.codeWord buffer)) := by
  refine ⟨?_, ?_, ?_⟩
  · intro length code whole
    refine ⟨Frame.inspect_append_of_complete whole, Frame.bounds_of_inspect_complete whole, ?_⟩
    rintro s rfl
    exact Session.nextFrame?_of_complete whole
  · intro length bad more
    exact Frame.inspect_append_of_invalid bad more
  · intro missing waiting
    refine ⟨Frame.one_le_of_inspect_incomplete waiting, ?_, ?_⟩
    · intro more fewer
      exact Frame.inspect_append_of_incomplete waiting fewer
    · intro header more rest
      exact Frame.inspect_append_of_missing waiting header rest

/-- The request to open map 7, as it comes in. -/
def openSeven : Bytes :=
  [0, 0, 0, 12, 0, 0, 0, 3, 0, 0, 0, 7]

/-- The request is three bytes short, then one, then whole and taken off in front of the next byte; where
frames may have eleven bytes it is turned down. -/
theorem heads_of_growing_buffers_openSeven :
    Frame.inspect (openSeven.take 9) 12 = .incomplete 3 ∧
      Frame.inspect (openSeven.take 9 ++ [0, 0]) 12 = .incomplete 1 ∧
      Frame.inspect (openSeven.take 9 ++ [0, 0, 7]) 12 = .complete 12 3 ∧
      Frame.inspect (openSeven ++ [0]) 12 = .complete 12 3 ∧
      (∃ frame rest,
        Session.nextFrame? { id := ⟨1⟩, host := "a", inbound := openSeven ++ [0] } 12 =
          some (.ok (some (frame, { id := ⟨1⟩, host := "a", inbound := rest }))) ∧
        openSeven ++ [0] = frame ++ rest ∧ frame.length = 12) ∧
      Frame.inspect openSeven 11 = .invalid 12 ∧
      Frame.inspect (openSeven ++ [0]) 11 = .invalid 12 := by
  have waiting : Frame.inspect (openSeven.take 9) 12 = .incomplete 3 := by decide
  have whole : Frame.inspect openSeven 12 = .complete 12 3 := by decide
  have bad : Frame.inspect openSeven 11 = .invalid 12 := by decide
  obtain ⟨-, fewer, rest⟩ := (heads_of_growing_buffers 12 (openSeven.take 9)).2.2 3 waiting
  have longer := ((heads_of_growing_buffers 12 openSeven).1 12 3 whole).1 [0]
  obtain ⟨-, -, taken⟩ := (heads_of_growing_buffers 12 (openSeven ++ [0])).1 12 3 longer
  obtain ⟨frame, left, next, cut, length, -⟩ :=
    taken { id := ⟨1⟩, host := "a", inbound := openSeven ++ [0] } rfl
  exact ⟨waiting, fewer [0, 0] (by decide), rest (by decide) [0, 0, 7] rfl, longer,
    ⟨frame, left, next, cut, length⟩, bad, (heads_of_growing_buffers 11 openSeven).2.1 12 bad [0]⟩

end TopoSync
