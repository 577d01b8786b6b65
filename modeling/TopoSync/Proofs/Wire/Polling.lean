import Mathlib
import TopoSync.Checked.Frames
import TopoSync.Proofs.Wire.Announcements
import TopoSync.Proofs.Wire.Cutting

/-!
# Polling a receive buffer

Frames are sent one after the other and arrive in pieces of any length; between two pieces the receive
buffer may be polled for a frame any number of times.  What a poll finds is settled by the stream that
is still to be cut, of which the buffer holds a first part: it takes off the next frame or finds that
bytes are missing.
-/

namespace TopoSync

namespace Frame

/-- Whether a frame announces its own length, and the length can be accepted. -/
structure Announced (maxSize : Nat) (frame : Bytes) : Prop where
  announced : (lengthWord frame).toNat = frame.length
  least : headerSize ≤ frame.length
  most : frame.length ≤ maxSize

/-- A frame that announces its length is found at the head of a buffer, whatever comes after it. -/
theorem Announced.inspect {maxSize : Nat} {frame : Bytes} (ok : Announced maxSize frame)
    (more : Bytes) :
    Frame.inspect (frame ++ more) maxSize = .complete frame.length (codeWord frame) := by
  rw [inspect_eq_complete_iff, lengthWord_append more ok.least, codeWord_append more ok.least,
    List.length_append]
  exact ⟨⟨ok.least, ok.most, Nat.le_add_right _ _⟩, ok.announced, rfl⟩

theorem lengthWord_build {c : Command} {fields : List Field}
    (small : headerSize + (Field.encodeAll fields).length < 0x100000000) :
    (lengthWord (build c fields).bytes).toNat = (build c fields).length := by
  have body : (Word.toBytes c.code ++ Field.encodeAll fields).length + 4 =
      headerSize + (Field.encodeAll fields).length := by
    rw [List.length_append, Word.length_toBytes, headerSize]
    omega
  have head : (build c fields).bytes.take 4 =
      Word.toBytes (UInt32.ofNat
        (min ((Word.toBytes c.code ++ Field.encodeAll fields).length + 4) 0xFFFFFFFF)) :=
    List.take_left' (Word.length_toBytes _)
  rw [lengthWord, head, Word.ofBytes_toBytes, UInt32.toNat_ofNat', length_build, body]
  omega

/-- A frame that is built announces its length. -/
theorem announced_build {maxSize : Nat} {c : Command} {fields : List Field}
    (small : (build c fields).length < 0x100000000) (most : (build c fields).length ≤ maxSize) :
    Announced maxSize (build c fields).bytes where
  announced := lengthWord_build (by rwa [length_build] at small)
  least := by
    have length := length_build c fields
    rw [Frame.length] at length
    omega
  most := most

end Frame

/-- What is done to a receive buffer: a piece of the stream is added to it, or it is polled. -/
inductive Intake
  | push (bytes : Bytes)
  | poll
deriving DecidableEq, Repr

namespace Intake

/-- The piece that is added. -/
def piece? : Intake → Option Bytes
  | push bytes => some bytes
  | poll => none

/-- The pieces that are added, in order. -/
def pieces (steps : List Intake) : List Bytes :=
  steps.filterMap piece?

end Intake

namespace Session

/-- The frames that are taken off the receive buffer while something is done to it, in order, and the
session afterwards.  A poll that finds a length word that cannot be accepted ends it. -/
def takeIn (maxSize : Nat) (s : Session) : List Intake → Except FramingError (List Bytes × Session)
  | [] => .ok ([], s)
  | .push bytes :: rest => (s.pushBytes bytes).takeIn maxSize rest
  | .poll :: rest =>
      match s.nextFrame maxSize with
      | .error e => .error e
      | .ok none => s.takeIn maxSize rest
      | .ok (some (frame, s')) =>
          (s'.takeIn maxSize rest).map fun later => (frame :: later.1, later.2)

/-- The frames that are taken off the receive buffer until a poll finds none, and the session
afterwards. -/
def pollAll (maxSize : Nat) (s : Session) : Except FramingError (List Bytes × Session) :=
  match _next : s.nextFrame maxSize with
  | .error e => .error e
  | .ok none => .ok ([], s)
  | .ok (some (frame, s')) => (s'.pollAll maxSize).map fun later => (frame :: later.1, later.2)
termination_by s.inbound.length
decreasing_by exact (bounds_of_nextFrame _next).2.2

theorem pollAll_of_none {maxSize : Nat} {s : Session} (idle : s.nextFrame maxSize = .ok none) :
    s.pollAll maxSize = .ok ([], s) := by
  rw [pollAll]
  split <;> simp_all

theorem pollAll_of_some {maxSize : Nat} {s s' : Session} {frame : Bytes}
    (next : s.nextFrame maxSize = .ok (some (frame, s'))) :
    s.pollAll maxSize =
      (s'.pollAll maxSize).map fun later => (frame :: later.1, later.2) := by
  rw [pollAll]
  split <;> simp_all

section Stream

variable {maxSize missing : Nat} {frames : List Bytes} {trailing unsent : Bytes} {s : Session}

/-- A poll of a buffer that holds a first part of a stream takes off the next frame of the stream, or
finds nothing because the buffer does not hold all of it. -/
theorem nextFrame_of_stream (announced : ∀ f ∈ frames, Frame.Announced maxSize f)
    (unfinished : Frame.inspect trailing maxSize = .incomplete missing)
    (stream : s.inbound ++ unsent = frames.flatten ++ trailing) :
    (s.nextFrame maxSize = .ok none ∧ (unsent = [] → frames = [])) ∨
    ∃ frame rest s', s.nextFrame maxSize = .ok (some (frame, s')) ∧ frames = frame :: rest ∧
      s' = { s with inbound := s'.inbound } ∧
      s'.inbound ++ unsent = rest.flatten ++ trailing := by
  have whole : frames = [] ∧ Frame.inspect (s.inbound ++ unsent) maxSize = .incomplete missing ∨
      ∃ frame rest, frames = frame :: rest ∧ Frame.inspect (s.inbound ++ unsent) maxSize =
        .complete frame.length (Frame.codeWord frame) := by
    rw [stream]
    cases frames with
    | nil => exact .inl ⟨rfl, unfinished⟩
    | cons frame rest =>
        rw [List.flatten_cons, List.append_assoc]
        exact .inr ⟨frame, rest, rfl, (announced frame List.mem_cons_self).inspect _⟩
  cases head : Frame.inspect s.inbound maxSize with
  | incomplete partly =>
      refine .inl ⟨by rw [nextFrame, head], ?_⟩
      rintro rfl
      rw [List.append_nil, head] at whole
      rcases whole with ⟨none, _⟩ | ⟨_, _, _, complete⟩
      · exact none
      · cases complete
  | invalid length =>
      rw [Frame.inspect_append_of_invalid head] at whole
      rcases whole with ⟨_, bad⟩ | ⟨_, _, _, bad⟩ <;> cases bad
  | complete length code =>
      rw [Frame.inspect_append_of_complete head] at whole
      rcases whole with ⟨_, complete⟩ | ⟨frame, rest, rfl, complete⟩
      · cases complete
      · obtain ⟨rfl, _⟩ := Head.complete.inj complete
        have within := (Frame.bounds_of_inspect_complete head).2.2
        rw [List.flatten_cons, List.append_assoc] at stream
        have taken : s.inbound.take frame.length = frame := by
          rw [← List.take_append_of_le_length within, stream, List.take_left]
        have left : s.inbound.drop frame.length ++ unsent = rest.flatten ++ trailing := by
          rw [← List.drop_append_of_le_length within, stream, List.drop_left]
        refine .inr ⟨frame, rest, { s with inbound := s.inbound.drop frame.length }, ?_, rfl, rfl, left⟩
        rw [nextFrame, head]
        dsimp only
        rw [taken]

/-- While a stream comes in, polls take off its frames from the first one on, and the buffer holds what
has come in of the others. -/
theorem takeIn_of_stream (announced : ∀ f ∈ frames, Frame.Announced maxSize f)
    (unfinished : Frame.inspect trailing maxSize = .incomplete missing) (steps : List Intake)
    (stream : s.inbound ++ ((Intake.pieces steps).flatten ++ unsent) =
      frames.flatten ++ trailing) :
    ∃ taken left s', s.takeIn maxSize steps = .ok (taken, s') ∧ frames = taken ++ left ∧
      s' = { s with inbound := s'.inbound } ∧
      s'.inbound ++ unsent = left.flatten ++ trailing := by
  induction steps generalizing s frames with
  | nil => exact ⟨[], frames, s, rfl, rfl, rfl, stream⟩
  | cons step steps ih =>
      cases step with
      | push bytes =>
          have pushed : (s.pushBytes bytes).inbound ++ ((Intake.pieces steps).flatten ++ unsent) =
              frames.flatten ++ trailing := by
            rw [← stream, pushBytes, Intake.pieces, Intake.pieces, List.filterMap_cons,
              Intake.piece?]
            simp only [List.flatten_cons, List.append_assoc]
          obtain ⟨taken, left, s', run, split, same, rest⟩ := ih announced pushed
          exact ⟨taken, left, s', run, split, same, rest⟩
      | poll =>
          have pieces : Intake.pieces (.poll :: steps) = Intake.pieces steps := rfl
          rw [pieces] at stream
          rw [takeIn]
          rcases nextFrame_of_stream announced unfinished stream with
            ⟨idle, _⟩ | ⟨frame, rest, s₁, next, rfl, same, stream⟩
          · rw [idle]
            exact ih announced stream
          · have others : ∀ f ∈ rest, Frame.Announced maxSize f :=
              fun f member => announced f (List.mem_cons_of_mem _ member)
            obtain ⟨taken, left, s', run, rfl, same', stream⟩ := ih others stream
            rw [next]
            refine ⟨frame :: taken, left, s', ?_, rfl, ?_, stream⟩
            · dsimp only
              rw [run]
              rfl
            · exact same'.trans (by rw [same])

/-- Once a stream has come in, polling takes off the rest of its frames and leaves what is no frame. -/
theorem pollAll_of_stream (announced : ∀ f ∈ frames, Frame.Announced maxSize f)
    (unfinished : Frame.inspect trailing maxSize = .incomplete missing)
    (stream : s.inbound = frames.flatten ++ trailing) :
    s.pollAll maxSize = .ok (frames, { s with inbound := trailing }) := by
  induction frames generalizing s with
  | nil =>
      obtain rfl : s.inbound = trailing := stream
      exact pollAll_of_none (by rw [nextFrame, unfinished])
  | cons frame rest ih =>
      have sent : s.inbound ++ [] = (frame :: rest).flatten ++ trailing := by
        rw [List.append_nil, stream]
      rcases nextFrame_of_stream announced unfinished sent with
        ⟨_, none⟩ | ⟨_, _, s', next, same, kept, stream⟩
      · cases none rfl
      · obtain ⟨rfl, rfl⟩ := List.cons.inj same
        rw [List.append_nil] at stream
        have others := ih (fun f member => announced f (List.mem_cons_of_mem _ member)) stream
        rw [pollAll_of_some next, others, kept]
        rfl

end Stream

end Session

/-- Frames that announce their length, and after them the beginning of a frame, are cut up and added
to an empty receive buffer piece by piece, with polls at any moments.  However far this has got, the
polls have returned the first of the frames, each once and as it was sent, the buffer holds the rest of
what has been added, and the session is otherwise the same.  Once every piece has been added, a poll
finds no frame only after all of them were returned, and polling until then returns the others and
leaves what is no whole frame.  Every frame that is built with its length reserved first and overwritten
last announces its length as long as a word can tell it, and is found at the head of any buffer that
begins with it, with the code of its command; so notifications that are sent one after the other are
cut apart again. -/
theorem frames_of_polled_stream {maxSize missing : Nat} {frames : List Bytes} {trailing : Bytes}
    (announced : ∀ f ∈ frames, Frame.Announced maxSize f)
    (unfinished : Frame.inspect trailing maxSize = .incomplete missing) (s : Session)
    (fresh : s.inbound = []) (pieces : List Bytes)
    (cut : pieces.flatten = frames.flatten ++ trailing) :
    (∀ steps, Intake.pieces steps <+: pieces →
      ∃ taken s', s.takeIn maxSize steps = .ok (taken, s') ∧ taken <+: frames ∧
        taken.flatten ++ s'.inbound = (Intake.pieces steps).flatten ∧
        s' = { s with inbound := s'.inbound } ∧
        (Intake.pieces steps = pieces →
          (s'.nextFrame maxSize = .ok none → taken = frames ∧ s'.inbound = trailing) ∧
          ∃ left, s'.pollAll maxSize = .ok (left, { s with inbound := trailing }) ∧
            taken ++ left = frames)) ∧
    (∀ (c : Command) (fields : List Field),
      Frame.headerSize + (Field.encodeAll fields).length < 0x100000000 →
      ∃ f : Frame, Frame.build? c fields = some f ∧
        ∀ limit, f.length ≤ limit → Frame.Announced limit f.bytes ∧
          ∀ more, Frame.inspect (f.bytes ++ more) limit = .complete f.length c.code) ∧
    ∀ told : List Notification,
      (∀ n ∈ told, n.toFrame.length < 0x100000000 ∧ n.toFrame.length ≤ maxSize) →
      Framing.split maxSize ((told.map fun n => n.toFrame.bytes).flatten ++ trailing) =
        ⟨told.map fun n => n.toFrame.bytes, trailing, .wantsMore⟩ := by
  refine ⟨?_, ?_, ?_⟩
  · intro steps sofar
    obtain ⟨later, rfl⟩ := sofar
    have stream : s.inbound ++ ((Intake.pieces steps).flatten ++ later.flatten) =
        frames.flatten ++ trailing := by
      rw [fresh, List.nil_append, ← List.flatten_append, cut]
    obtain ⟨taken, left, s', run, rfl, same, rest⟩ :=
      Session.takeIn_of_stream announced unfinished steps stream
    have others : ∀ f ∈ left, Frame.Announced maxSize f :=
      fun f member => announced f (List.mem_append_right _ member)
    have whole : taken.flatten ++ s'.inbound ++ later.flatten =
        (Intake.pieces steps).flatten ++ later.flatten := by
      rw [List.append_assoc, rest, ← List.append_assoc, ← List.flatten_append, ← cut,
        List.flatten_append]
    refine ⟨taken, s', run, List.prefix_append taken left, List.append_cancel_right whole, same, ?_⟩
    · intro all
      obtain rfl : later = [] := List.self_eq_append_right.mp all
      rw [List.flatten_nil] at rest
      have arrived : s'.inbound = left.flatten ++ trailing := by rw [← rest, List.append_nil]
      constructor
      · intro idle
        rcases Session.nextFrame_of_stream others unfinished rest with
          ⟨_, none⟩ | ⟨_, _, _, next, _⟩
        · obtain rfl := none rfl
          exact ⟨(List.append_nil taken).symm, arrived⟩
        · cases idle.symm.trans next
      · refine ⟨left, ?_, rfl⟩
        rw [Session.pollAll_of_stream others unfinished arrived, same]
  · intro c fields small
    have length := Frame.length_build c fields
    refine ⟨Frame.build c fields, Frame.build?_eq c fields, fun limit most => ?_⟩
    have ok : Frame.Announced limit (Frame.build c fields).bytes :=
      Frame.announced_build (by rw [length]; exact small) most
    refine ⟨ok, fun more => ?_⟩
    rw [ok.inspect, Frame.codeWord_build]
    rfl
  · intro told short
    induction told with
    | nil => exact Framing.split_of_incomplete unfinished
    | cons n rest ih =>
        have later := ih fun m member => short m (List.mem_cons_of_mem _ member)
        obtain ⟨small, most⟩ := short n List.mem_cons_self
        have ok : Frame.Announced maxSize n.toFrame.bytes := Frame.announced_build small most
        rw [List.map_cons, List.flatten_cons, List.append_assoc,
          Framing.split_of_complete (ok.inspect _), List.drop_left, List.take_left, later]
        rfl

/-- Two frames and the beginning of a third one, cut within a header and within a payload, with polls
in between. -/
theorem frames_of_polled_stream_cutTwice :
    let first := (Frame.build .openMap [.signed 7]).bytes
    let second := (Frame.build .login [.text "ann", .text ""]).bytes
    let pieces := [first.take 5, first.drop 5 ++ second.take 13, second.drop 13 ++ [0, 0, 0]]
    let s : Session := { id := ⟨1⟩, host := "a" }
    pieces.flatten = [first, second].flatten ++ [0, 0, 0] ∧
      (∃ taken s',
        s.takeIn 1000 [.push (first.take 5), .poll, .push (first.drop 5 ++ second.take 13), .poll,
          .poll] = .ok (taken, s') ∧ taken <+: [first, second]) ∧
      ∃ taken s', s.takeIn 1000 (.poll :: pieces.map .push) = .ok (taken, s') ∧
        ∃ left, s'.pollAll 1000 = .ok (left, { s with inbound := [0, 0, 0] }) ∧
          taken ++ left = [first, second] := by
  intro first second pieces s
  have announced : ∀ f ∈ [first, second], Frame.Announced 1000 f := by
    intro f member
    rcases List.mem_cons.mp member with rfl | member
    · exact Frame.announced_build (by decide) (by decide)
    · obtain rfl := List.mem_singleton.mp member
      have length : (Frame.build .login [.text "ann", .text ""]).length = 19 := by decide_cbv
      exact Frame.announced_build (by rw [length]; decide) (by rw [length]; decide)
  have cut : pieces.flatten = [first, second].flatten ++ [0, 0, 0] := by decide_cbv
  obtain ⟨run, _⟩ := frames_of_polled_stream announced
    (show Frame.inspect [0, 0, 0] 1000 = .incomplete 5 by decide_cbv) s rfl pieces cut
  refine ⟨cut, ?_, ?_⟩
  · obtain ⟨taken, s', returned, first, _⟩ := run
      [.push (first.take 5), .poll, .push (first.drop 5 ++ second.take 13), .poll, .poll]
      ⟨[second.drop 13 ++ [0, 0, 0]], rfl⟩
    exact ⟨taken, s', returned, first⟩
  · obtain ⟨taken, s', returned, _, _, _, all⟩ := run (.poll :: pieces.map .push)
      ⟨[], List.append_nil _⟩
    exact ⟨taken, s', returned, (all rfl).2⟩

end TopoSync
