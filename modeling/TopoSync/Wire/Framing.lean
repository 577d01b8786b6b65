import TopoSync.Wire.Frame

/-!
# Cutting a stream into frames

A stream has no boundaries of its own.  `Framing.split` cuts complete frames off the head of a
buffer until bytes are missing or a length word cannot be accepted.
-/

namespace TopoSync

namespace Framing

/-- Why cutting stopped. -/
inductive Stop
  /-- The rest does not hold a complete frame. -/
  | wantsMore
  /-- The rest starts with a length word that cannot be accepted. -/
  | badLength (length : Nat)
deriving DecidableEq, Repr

/-- The frames cut off a buffer, in order, and what is left of it. -/
structure Split where
  frames : List Bytes
  rest : Bytes
  stop : Stop
deriving DecidableEq, Repr

/-- Puts a frame in front of those cut off later. -/
def Split.push (frame : Bytes) (s : Split) : Split :=
  { s with frames := frame :: s.frames }

/-- Cuts every complete frame off the head of a buffer. -/
def split (maxSize : Nat) (buffer : Bytes) : Split :=
  match _head : Frame.inspect buffer maxSize with
  | .incomplete _ => ⟨[], buffer, .wantsMore⟩
  | .invalid length => ⟨[], buffer, .badLength length⟩
  | .complete length _ => (split maxSize (buffer.drop length)).push (buffer.take length)
termination_by buffer.length
decreasing_by
  have bounds := Frame.bounds_of_inspect_complete _head
  rw [List.length_drop]
  simp only [Frame.headerSize] at bounds
  omega

theorem split_of_incomplete {maxSize missing : Nat} {buffer : Bytes}
    (h : Frame.inspect buffer maxSize = .incomplete missing) :
    split maxSize buffer = ⟨[], buffer, .wantsMore⟩ := by
  rw [split]
  split <;> simp_all

theorem split_of_invalid {maxSize length : Nat} {buffer : Bytes}
    (h : Frame.inspect buffer maxSize = .invalid length) :
    split maxSize buffer = ⟨[], buffer, .badLength length⟩ := by
  rw [split]
  split <;> simp_all

theorem split_of_complete {maxSize length : Nat} {code : UInt32} {buffer : Bytes}
    (h : Frame.inspect buffer maxSize = .complete length code) :
    split maxSize buffer = (split maxSize (buffer.drop length)).push (buffer.take length) := by
  rw [split]
  split <;> simp_all

end Framing

end TopoSync
