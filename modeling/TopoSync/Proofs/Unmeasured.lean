import Mathlib.Data.List.Basic
import TopoSync.Proofs.Acts
import TopoSync.Proofs.Wire.Sizes

/-!
# Frames that are not measured

Before the payload of a frame is read, the frame is measured against the least size of its command.
An engine that leaves this out does the same in every run: what is too short could not be read either,
and is rejected for another reason.
-/

namespace TopoSync

/-- Frames are cut off whole, so each of them has a header. -/
theorem Framing.headerSize_le_of_mem {maxSize : Nat} {buffer frame : Bytes}
    (member : frame ∈ (split maxSize buffer).frames) : Frame.headerSize ≤ frame.length := by
  induction buffer using split.induct maxSize with
  | case1 buffer missing head =>
      rw [split_of_incomplete head] at member
      exact absurd member List.not_mem_nil
  | case2 buffer length head =>
      rw [split_of_invalid head] at member
      exact absurd member List.not_mem_nil
  | case3 buffer length code head ih =>
      rw [split_of_complete head] at member
      rcases List.mem_cons.mp member with rfl | later
      · obtain ⟨least, -, within⟩ := Frame.bounds_of_inspect_complete head
        rwa [List.length_take_of_le within]
      · exact ih later

namespace Hub

variable {σ : Type} [Store σ] (h : Hub σ) (session : SessionId) (now : UInt32) {frame : Bytes}

/-- Answers a complete frame of a session, whatever its size. -/
def answerUnmeasured (frame : Bytes) : Except Rejection Unit × Hub σ :=
  match Command.ofCode? (Frame.codeWord frame) with
  | none => (.error (.unknownCommand (Frame.codeWord frame)), h)
  | some command =>
      match Request.decode command frame with
      | .error reason => (.error (.malformed command reason), h)
      | .ok request =>
          match h.apply session now request with
          | (.error reason, h) => (.error (.refused command reason), h)
          | (.ok (), h) => (.ok (), h)

/-- The answer is the same, or the frame is too short and could not be read. -/
theorem answerUnmeasured_cases (header : Frame.headerSize ≤ frame.length) :
    h.answerUnmeasured session now frame = h.answerFrame session now frame ∨
      ∃ c reason, Request.decode c frame = .error reason ∧
        h.answerFrame session now frame = (.error (.tooShort c frame.length), h) ∧
        h.answerUnmeasured session now frame = (.error (.malformed c reason), h) := by
  rw [answerUnmeasured, answerFrame]
  cases Command.ofCode? (Frame.codeWord frame) with
  | none => exact .inl rfl
  | some c =>
      dsimp only
      by_cases short : frame.length < c.minFrameSize
      · cases read : Request.decode c frame with
        | ok r => exact absurd (Request.minFrameSize_le_of_decode header read) (Nat.not_le.mpr short)
        | error reason => exact .inr ⟨c, reason, read, if_pos short, rfl⟩
      · rw [if_neg short]
        exact .inl rfl

theorem snd_answerUnmeasured (header : Frame.headerSize ≤ frame.length) :
    (h.answerUnmeasured session now frame).2 = (h.answerFrame session now frame).2 := by
  rcases h.answerUnmeasured_cases session now header with same | ⟨c, reason, -, short, unread⟩
  · rw [same]
  · rw [short, unread]

/-- Of the frames that are long enough, only those with texts can be malformed. -/
theorem texts_of_malformed {c : Command} {reason : Truncated}
    (rejected : (h.answerFrame session now frame).1 = .error (.malformed c reason)) :
    c = .login ∨ c = .setNode := by
  rw [answerFrame] at rejected
  split at rejected
  · cases rejected
  · rename_i command _
    split at rejected
    · cases rejected
    · rename_i long
      split at rejected
      · rename_i reason' unread
        cases rejected
        refine Classical.byContradiction fun plain => ?_
        obtain ⟨r, read⟩ := Request.decode_of_minFrameSize_le
          (mt Command.block_mem_layout_iff.mp plain) (Nat.not_lt.mp long)
        rw [read] at unread
        cases unread
      · split at rejected <;> cases rejected

end Hub

namespace Engine

variable {σ : Type} [Store σ]

/-- A way of answering a frame of a session, at a given time. -/
abbrev Answerer (σ : Type) : Type :=
  Hub σ → SessionId → UInt32 → Bytes → Hub σ

/-- Takes bytes from a session and answers the frames that they complete in some way. -/
def receiveBy (answer : Answerer σ) (e : Engine σ) (id : SessionId) (bytes : Bytes)
    (clock : Clock) : Engine σ :=
  match e.hub.router.session? id with
  | none => e
  | some s =>
      let cut := Framing.split e.maxFrameSize (s.pushBytes bytes).inbound
      let router := e.hub.router.updateSession id fun s => { s with inbound := cut.rest }
      let h := (clock.stamp cut.frames).foldl (fun h timed => answer h id timed.1 timed.2)
        { e.hub with router }
      let h := match cut.stop with
        | .wantsMore => h
        | .badLength _ => h.disconnect id
      { e with hub := h.reapFailed }

/-- The engine after a move, with frames answered in some way. -/
def moveBy (answer : Answerer σ) (e : Engine σ) : Move → Engine σ
  | .event (.data id bytes clock) => e.receiveBy answer id bytes clock
  | .event event => e.step event
  | .retire id after => e.retireReader id after

/-- The engine after a run, with frames answered in some way. -/
def afterBy (answer : Answerer σ) (e : Engine σ) (moves : List Move) : Engine σ :=
  moves.foldl (moveBy answer) e

/-- The engine itself answers them as the hub does. -/
theorem afterBy_answerFrame (e : Engine σ) (moves : List Move) :
    e.afterBy (fun h id now frame => (h.answerFrame id now frame).2) moves = e.after moves := by
  have move : moveBy (fun h id now frame => (h.answerFrame id now frame).2) = Engine.move (σ := σ) := by
    funext e m
    cases m with
    | retire id after => rfl
    | event event => cases event <;> rfl
  rw [afterBy, after, move]

variable {answer answer' : Answerer σ}

/-- Only the answers to frames with a header matter, since there are no others. -/
theorem receiveBy_congr
    (same : ∀ h id now frame, Frame.headerSize ≤ frame.length →
      answer h id now frame = answer' h id now frame)
    (e : Engine σ) (id : SessionId) (bytes : Bytes) (clock : Clock) :
    e.receiveBy answer id bytes clock = e.receiveBy answer' id bytes clock := by
  rw [receiveBy, receiveBy]
  split
  · rfl
  · rename_i s _
    let frames := (Framing.split e.maxFrameSize (s.pushBytes bytes).inbound).frames
    have whole : ∀ timed ∈ clock.stamp frames, Frame.headerSize ≤ timed.2.length := by
      intro timed member
      have among := List.mem_map_of_mem (f := Prod.snd) member
      rw [Clock.map_snd_stamp] at among
      exact Framing.headerSize_le_of_mem among
    have answers := fun h : Hub σ =>
      List.foldl_ext (fun h timed => answer h id timed.1 timed.2)
        (fun h timed => answer' h id timed.1 timed.2) h
        fun h timed member => same h id timed.1 timed.2 (whole timed member)
    simp only [answers, frames]

theorem afterBy_congr
    (same : ∀ h id now frame, Frame.headerSize ≤ frame.length →
      answer h id now frame = answer' h id now frame)
    (e : Engine σ) (moves : List Move) : e.afterBy answer moves = e.afterBy answer' moves := by
  have move : moveBy answer = moveBy answer' := by
    funext e m
    cases m with
    | retire id after => rfl
    | event event =>
        cases event with
        | data id bytes clock => exact receiveBy_congr same e id bytes clock
        | _ => rfl
  rw [afterBy, afterBy, move]

end Engine

/-- The least sizes of commands agree with the reader of requests.  A frame with a header that can be
read is long enough.  Long enough is all that a frame must be exactly for the commands without texts,
all but two.  So nothing that could be read is rejected as too short: without the check every frame
gets the same answer, or is rejected as malformed instead of too short, both without effect, and every
run leaves the engine that it leaves.  And with the check only the two commands with texts are ever
rejected as malformed. -/
theorem measuring_changes_nothing :
    (∀ c frame, 8 ≤ frame.length → (∃ r, Request.decode c frame = .ok r) →
      c.minFrameSize ≤ frame.length) ∧
    (∀ c, (∀ frame, 8 ≤ frame.length → c.minFrameSize ≤ frame.length →
      ∃ r, Request.decode c frame = .ok r) ↔ c ≠ .login ∧ c ≠ .setNode) ∧
    ∀ (σ : Type) [Store σ],
      (∀ (h : Hub σ) session now frame, 8 ≤ frame.length →
        h.answerUnmeasured session now frame = h.answerFrame session now frame ∨
          ∃ c reason, Request.decode c frame = .error reason ∧
            h.answerFrame session now frame = (.error (.tooShort c frame.length), h) ∧
            h.answerUnmeasured session now frame = (.error (.malformed c reason), h)) ∧
      (∀ (e : Engine σ) moves,
        e.afterBy (fun h session now frame => (h.answerUnmeasured session now frame).2) moves =
          e.after moves) ∧
      ∀ (h : Hub σ) session now frame c reason,
        (h.answerFrame session now frame).1 = .error (.malformed c reason) →
          c = .login ∨ c = .setNode := by
  refine ⟨fun c frame header ⟨r, read⟩ => Request.minFrameSize_le_of_decode header read,
    fun c => ⟨fun readable => ?_, fun ⟨login, setNode⟩ frame _ long => ?_⟩, fun σ _ => ⟨?_, ?_, ?_⟩⟩
  · refine not_or.mp fun texts => ?_
    obtain ⟨e, unread⟩ := Request.decode_zeros texts
    have header : 8 ≤ (List.replicate c.minFrameSize (0 : UInt8)).length := by
      rcases texts with rfl | rfl <;> decide
    obtain ⟨r, read⟩ := readable _ header (Nat.le_of_eq List.length_replicate.symm)
    cases unread.symm.trans read
  · refine Request.decode_of_minFrameSize_le ?_ long
    exact mt Command.block_mem_layout_iff.mp (not_or.mpr ⟨login, setNode⟩)
  · exact fun h session now frame header => h.answerUnmeasured_cases session now header
  · intro e moves
    rw [← e.afterBy_answerFrame moves]
    exact e.afterBy_congr (fun h id now frame header => h.snd_answerUnmeasured id now header) moves
  · exact fun h session now frame c reason => h.texts_of_malformed session now

end TopoSync
