import TopoSync.Checked.Operations
import TopoSync.Proofs.Hub.Rebuffering
import TopoSync.Proofs.Lifecycle

/-!
# The engine step by step

Sessions are ended and events dealt with by the operations that are written with steps that can fail.
The frames of a session are taken off its receive buffer one by one, each just before it is answered,
while the bytes after it stay in the buffer.  None of the steps fails: the only frames that are answered
are those that were taken off a receive buffer, and these have a header.
-/

namespace TopoSync

namespace Hub

variable {σ : Type} [Store σ]

/-- Ends one session: its subscriptions first, then the session itself. -/
def endSession? (h : Hub σ) (session : SessionId) : Option (Hub σ) := do
  let h := (h.releaseMaps session).2
  let released ← h.releaseNodes? session
  return { released.2 with router := released.2.router.unregister session }

theorem endSession?_eq (h : Hub σ) (session : SessionId) :
    h.endSession? session = some (h.endSession session) := by
  rw [endSession?, releaseNodes?_eq]
  rfl

/-- Ends some sessions one after the other.  Sessions that fail meanwhile are ended before the next
one on the list. -/
def endSessions? (h : Hub σ) : List SessionId → Option (Hub σ)
  | [] => some h
  | id :: rest =>
      if h.router.isRegistered id then
        match _ended : h.endSession? id with
        | none => none
        | some ended => endSessions? ended.takeFailed.2 (ended.takeFailed.1 ++ rest)
      else endSessions? h rest
termination_by pending => (h.sessionIds.length, pending.length)
decreasing_by
  · rename_i registered
    apply Prod.Lex.left
    have same : h.endSession id = ended := Option.some.inj ((h.endSession?_eq id).symm.trans _ended)
    have keys : ended.takeFailed.2.sessionIds = h.sessionIds.filter fun other => other ≠ id :=
      same ▸ sessionIds_endSession h id
    rw [keys]
    exact List.length_filter_lt_length_iff_exists.mpr
      ⟨id, Router.isRegistered_iff.mp registered, by simp⟩
  · apply Prod.Lex.right
    simp

theorem endSessions?_eq (h : Hub σ) (pending : List SessionId) :
    h.endSessions? pending = some (h.endSessions pending) := by
  induction h, pending using endSessions.induct with
  | case1 h => rw [endSessions?, endSessions_nil]
  | case2 h id rest registered ended ih =>
      rw [endSessions?, if_pos registered, endSessions_of_registered registered]
      split
      · next failed => cases (h.endSession?_eq id).symm.trans failed
      · next done =>
          cases (h.endSession?_eq id).symm.trans done
          exact ih
  | case3 h id rest unknown ih =>
      rw [endSessions?, if_neg unknown, endSessions_of_not_registered (by simpa using unknown)]
      exact ih

/-- Ends a session and every session that fails on the way. -/
def disconnect? (h : Hub σ) (session : SessionId) : Option (Hub σ) :=
  h.endSessions? [session]

/-- Ends every session that has failed. -/
def reapFailed? (h : Hub σ) : Option (Hub σ) :=
  h.takeFailed.2.endSessions? h.takeFailed.1

section Buffered

variable {h : Hub σ} {id : SessionId} {s : Session} (known : h.router.session? id = some s)

/-- How many bytes are kept as received from a session. -/
def pending (h : Hub σ) (id : SessionId) : Nat :=
  ((h.router.session? id).map Session.buffered).getD 0

include known

omit [Store σ] in
theorem pending_of_known : h.pending id = s.inbound.length := by
  rw [pending, known]
  rfl

/-- While a frame is answered, the bytes after it stay in the buffer. -/
theorem session?_answerFrame_rebuffer (rest : Bytes) (now : UInt32) (frame : Bytes) :
    ∃ t, ((h.rebuffer id rest).answerFrame id now frame).2.router.session? id = some t ∧
      t.inbound = rest := by
  have taken : (h.rebuffer id rest).router.session? id = some (s.withInbound rest) := by
    rw [session?_rebuffer_self, known, Option.map_some]
  have registered := Router.isRegistered_iff_exists.mpr ⟨_, taken⟩
  have still := (isRegistered_answerFrame registered now frame id).trans registered
  obtain ⟨t, found⟩ := Router.isRegistered_iff_exists.mp still
  exact ⟨t, found, inbound_answerFrames _ id taken id (.still now) [frame] found⟩

end Buffered

/-- Answers the frames of a session, each taken off the receive buffer when its turn comes.  A length
word that cannot be accepted ends the session. -/
def answerBuffered? (h : Hub σ) (id : SessionId) (maxSize : Nat) (clock : Clock) :
    Option (Hub σ) :=
  match _known : h.router.session? id with
  | none => some h
  | some s =>
      match _next : s.nextFrame? maxSize with
      | none => none
      | some (.error _) => h.disconnect? id
      | some (.ok none) => some h
      | some (.ok (some (frame, left))) =>
          match _answered : (h.rebuffer id left.inbound).answerFrame? id clock.now frame with
          | none => none
          | some (_, later) => later.answerBuffered? id maxSize (clock.after 1)
termination_by h.pending id
decreasing_by
  have taken := Option.some.inj ((s.nextFrame?_eq maxSize).symm.trans _next)
  obtain ⟨header, short, fewer⟩ := Session.bounds_of_nextFrame taken
  have small : frame.length ≤ Checked.maxCount := Nat.le_of_lt (Nat.lt_trans short (by decide))
  have done := (answerFrame?_of_header _ id clock.now header small).symm.trans _answered
  obtain ⟨t, found, kept⟩ := session?_answerFrame_rebuffer _known left.inbound clock.now frame
  rw [Option.some.inj done] at found
  rw [pending_of_known found, pending_of_known _known, kept]
  exact fewer

section Turns

variable {h : Hub σ} {id : SessionId} {s : Session} {maxSize : Nat} {clock : Clock}
  (known : h.router.session? id = some s)

include known

theorem answerBuffered?_of_incomplete (next : s.nextFrame maxSize = .ok none) :
    h.answerBuffered? id maxSize clock = some h := by
  have read := (s.nextFrame?_eq maxSize).trans (congrArg some next)
  rw [answerBuffered?]
  split
  · rfl
  · next t found =>
      cases known.symm.trans found
      split
      · next failed => cases read.symm.trans failed
      · next other => cases read.symm.trans other
      · rfl
      · next other => cases read.symm.trans other

theorem answerBuffered?_of_invalid {reason : FramingError}
    (next : s.nextFrame maxSize = .error reason) :
    h.answerBuffered? id maxSize clock = some (h.disconnect id) := by
  have read := (s.nextFrame?_eq maxSize).trans (congrArg some next)
  rw [answerBuffered?]
  split
  · next unknown => cases known.symm.trans unknown
  · next t found =>
      cases known.symm.trans found
      split
      · next failed => cases read.symm.trans failed
      · exact h.endSessions?_eq [id]
      · next other => cases read.symm.trans other
      · next other => cases read.symm.trans other

/-- A frame that has been taken can be answered. -/
theorem answerBuffered?_of_frame {frame : Bytes} {left : Session}
    (next : s.nextFrame maxSize = .ok (some (frame, left))) :
    h.answerBuffered? id maxSize clock =
      ((h.rebuffer id left.inbound).answerFrame id clock.now frame).2.answerBuffered? id maxSize
        (clock.after 1) := by
  obtain ⟨header, short, _⟩ := Session.bounds_of_nextFrame next
  have small : frame.length ≤ Checked.maxCount := Nat.le_of_lt (Nat.lt_trans short (by decide))
  have done := (h.rebuffer id left.inbound).answerFrame?_of_header id clock.now header small
  have read := (s.nextFrame?_eq maxSize).trans (congrArg some next)
  rw [answerBuffered?]
  split
  · next unknown => cases known.symm.trans unknown
  · next t found =>
      cases known.symm.trans found
      split
      · next failed => cases read.symm.trans failed
      · next other => cases read.symm.trans other
      · next other => cases read.symm.trans other
      · next taken =>
          cases read.symm.trans taken
          split
          · next failed => cases done.symm.trans failed
          · next answered =>
              have same := Option.some.inj (done.symm.trans answered)
              rw [same]

/-- The frames that are taken one by one are those that the buffer is cut into. -/
theorem answerBuffered?_eq :
    h.answerBuffered? id maxSize clock =
      let cut := Framing.split maxSize s.inbound
      some (((h.answerFrames id clock cut.frames).rebuffer id cut.rest).settle id cut.stop) := by
  generalize buffer : s.inbound = bytes
  induction bytes using Framing.split.induct maxSize generalizing h s clock with
  | case1 bytes missing head =>
      subst buffer
      have next : s.nextFrame maxSize = .ok none := by rw [Session.nextFrame, head]
      rw [answerBuffered?_of_incomplete known next, Framing.split_of_incomplete head]
      exact congrArg some (rebuffer_inbound known).symm
  | case2 bytes length head =>
      subst buffer
      have next : s.nextFrame maxSize = .error ⟨length, maxSize⟩ := by
        rw [Session.nextFrame, head]
      rw [answerBuffered?_of_invalid known next, Framing.split_of_invalid head]
      exact congrArg (fun g : Hub σ => some (g.disconnect id)) (rebuffer_inbound known).symm
  | case3 bytes length code head ih =>
      subst buffer
      have next : s.nextFrame maxSize = .ok (some (s.inbound.take length,
          s.withInbound (s.inbound.drop length))) := by
        rw [Session.nextFrame, head]
        rfl
      obtain ⟨t, found, rest⟩ :=
        session?_answerFrame_rebuffer known (s.inbound.drop length) clock.now
          (s.inbound.take length)
      rw [answerBuffered?_of_frame known next, Framing.split_of_complete head]
      refine (ih found rest).trans ?_
      generalize Framing.split maxSize (s.inbound.drop length) = cut
      have all : ((h.rebuffer id (s.inbound.drop length)).answerFrame id clock.now
          (s.inbound.take length)).2.answerFrames id (clock.after 1) cut.frames =
            (h.answerFrames id clock (s.inbound.take length :: cut.frames)).rebuffer id
              (s.inbound.drop length) := h.answerFrames_rebuffer id _ id clock (_ :: cut.frames)
      dsimp only
      rw [all, rebuffer_rebuffer]
      rfl

end Turns

end Hub

namespace Engine

variable {σ : Type} [Store σ]

/-- Takes bytes from a session and answers every frame that they complete. -/
def receive? (e : Engine σ) (id : SessionId) (bytes : Bytes) (clock : Clock) :
    Option (Engine σ) := do
  match e.hub.router.session? id with
  | none => return e
  | some s =>
      let h := e.hub.rebuffer id (s.pushBytes bytes).inbound
      let h ← h.answerBuffered? id e.maxFrameSize clock
      let h ← h.reapFailed?
      return { e with hub := h }

/-- Deals with one event. -/
def step? (e : Engine σ) : Event → Option (Engine σ)
  | .connected id host reader => some (e.connect id host reader)
  | .data id bytes clock => e.receive? id bytes clock
  | .disconnected id => (e.hub.disconnect? id).map fun hub => { e with hub }
  | .shutdown => some e.shutdown

/-- Deals with events up to the first shutdown, or all of them, and shuts down. -/
def run? (e : Engine σ) : List Event → Option (Engine σ)
  | [] => some e.shutdown
  | .shutdown :: _ => some e.shutdown
  | event :: rest => (e.step? event).bind fun e => e.run? rest

/-- Bytes are dealt with whatever they are: whatever is taken off them can be answered. -/
theorem receive?_eq (e : Engine σ) (id : SessionId) (bytes : Bytes) (clock : Clock) :
    e.receive? id bytes clock = some (e.receive id bytes clock) := by
  rw [receive?]
  cases known : e.hub.router.session? id with
  | none =>
      rw [receive_of_unknown known]
      rfl
  | some s =>
      have pushed : (e.hub.rebuffer id (s.inbound ++ bytes)).router.session? id =
          some (s.withInbound (s.inbound ++ bytes)) := by
        rw [Hub.session?_rebuffer_self, known, Option.map_some]
      rw [receive_of_known known]
      dsimp only [Session.pushBytes]
      rw [Hub.answerBuffered?_eq pushed]
      simp only [Option.bind_eq_bind, Option.bind_some, Hub.reapFailed?, Hub.endSessions?_eq,
        Hub.answerFrames_rebuffer, Hub.rebuffer_rebuffer]
      rfl

theorem step?_eq (e : Engine σ) (event : Event) : e.step? event = some (e.step event) := by
  cases event with
  | connected id host reader => rfl
  | data id bytes clock => exact e.receive?_eq id bytes clock
  | disconnected id =>
      rw [step?, Hub.disconnect?, Hub.endSessions?_eq]
      rfl
  | shutdown => rfl

theorem run?_eq (e : Engine σ) (events : List Event) : e.run? events = some (e.run events) := by
  induction events generalizing e with
  | nil => rfl
  | cons event rest ih =>
      cases event with
      | shutdown => rfl
      | connected id host reader => exact ih _
      | data id bytes clock =>
          rw [run?, step?_eq]
          · exact ih _
          · rintro ⟨⟩
      | disconnected id =>
          rw [run?, step?_eq]
          · exact ih _
          · rintro ⟨⟩

end Engine

end TopoSync
