import TopoSync.Engine
import TopoSync.Proofs.Hub.Sweeps

/-!
# Acts and runs

An engine deals with an event in acts: it answers one frame, ends one session, and so on.  A run is
a row of moves, each an event or a queue whose reader goes away; it performs the acts of its moves one
after the other.  Between any two acts the hub is in a state of its own, and what has to hold at every
moment of a run is stated about those states.
-/

namespace TopoSync

/-- The request that a frame makes, if it makes one. -/
def Request.ofFrame? (frame : Bytes) : Option Request :=
  match Command.ofCode? (Frame.codeWord frame) with
  | none => none
  | some command =>
      if frame.length < command.minFrameSize then none
      else (Request.decode command frame).toOption

/-- One thing that an engine does to its hub. -/
inductive Act
  | connect (id : SessionId) (host : String) (reader : QueueReader)
  /-- The reader of a queue will go away after some more frames. -/
  | retire (id : SessionId) (after : Nat)
  /-- What is left of the bytes received from a session is kept. -/
  | buffer (id : SessionId) (rest : Bytes)
  | answer (id : SessionId) (now : UInt32) (frame : Bytes)
  /-- A session is ended and the marks of those that failed meanwhile are taken away. -/
  | finish (id : SessionId)
  | clearMarks
  | flush
deriving DecidableEq, Repr

namespace Act

/-- The session that an act connects. -/
def connected? : Act → Option SessionId
  | connect id _ _ => some id
  | retire .. | buffer .. | answer .. | finish _ | clearMarks | flush => none

/-- The answers to frames of a session, one after the other, each at its own time. -/
def answers (id : SessionId) (clock : Clock) (frames : List Bytes) : List Act :=
  (clock.stamp frames).map fun timed => .answer id timed.1 timed.2

@[simp] theorem answers_nil (id : SessionId) (clock : Clock) : answers id clock [] = [] := rfl

theorem answers_cons (id : SessionId) (clock : Clock) (frame : Bytes) (rest : List Bytes) :
    answers id clock (frame :: rest) =
      .answer id clock.now frame :: answers id (clock.after 1) rest := rfl

end Act

/-- The session with other bytes received and not yet understood. -/
def Session.withInbound (s : Session) (bytes : Bytes) : Session :=
  { s with inbound := bytes }

namespace Hub

variable {σ : Type}

/-- Keeps other bytes as received from a session. -/
def rebuffer (h : Hub σ) (id : SessionId) (bytes : Bytes) : Hub σ :=
  h.amend id fun s => s.withInbound bytes

variable [Store σ]

/-- Answering a frame does what its request does, if it makes one. -/
theorem answerFrame_eq (h : Hub σ) (session : SessionId) (now : UInt32) (frame : Bytes) :
    (h.answerFrame session now frame).2 =
      match Request.ofFrame? frame with
      | none => h
      | some request => (h.apply session now request).2 := by
  rw [answerFrame, Request.ofFrame?]
  cases Command.ofCode? (Frame.codeWord frame) with
  | none => rfl
  | some command =>
      dsimp only
      split
      · rfl
      · cases Request.decode command frame with
        | error reason => rfl
        | ok request =>
            dsimp only [Except.toOption]
            rcases h.apply session now request with ⟨_ | _, _⟩ <;> rfl

/-- A frame that makes a request gets the answer to the request. -/
theorem answerFrame_of_ofFrame? {frame : Bytes} {request : Request}
    (asked : Request.ofFrame? frame = some request) :
    ∃ command, ∀ (h : Hub σ) session now,
      h.answerFrame session now frame =
        ((h.apply session now request).1.mapError (.refused command),
          (h.apply session now request).2) := by
  rw [Request.ofFrame?] at asked
  cases found : Command.ofCode? (Frame.codeWord frame) with
  | none => rw [found] at asked; cases asked
  | some command =>
      rw [found] at asked
      dsimp only at asked
      split at asked
      · cases asked
      · rename_i long
        cases decoded : Request.decode command frame with
        | error reason => rw [decoded] at asked; cases asked
        | ok read =>
            rw [decoded] at asked
            obtain rfl : read = request := Option.some.inj asked
            refine ⟨command, fun h session now => ?_⟩
            rw [answerFrame, found]
            dsimp only
            rw [if_neg long, decoded]
            dsimp only
            rcases h.apply session now read with ⟨_ | _, _⟩ <;> rfl

/-- Whether a frame of a session would be rejected and change nothing. -/
def Rejects (h : Hub σ) (session : SessionId) (now : UInt32) (frame : Bytes) : Prop :=
  ∃ reason, h.answerFrame session now frame = (.error reason, h)

theorem rejects_of_apply {h : Hub σ} {session : SessionId} {now : UInt32} {frame : Bytes}
    {request : Request} {reason : Refusal} (asked : Request.ofFrame? frame = some request)
    (refused : h.apply session now request = (.error reason, h)) : h.Rejects session now frame := by
  obtain ⟨command, answer⟩ := answerFrame_of_ofFrame? (σ := σ) asked
  refine ⟨.refused command reason, ?_⟩
  rw [answer, refused]
  rfl

/-- The hub after an act. -/
def perform (h : Hub σ) : Act → Hub σ
  | .connect id host reader => { h with router := h.router.register { id, host, reader } }
  | .retire id after => { h with router := h.router.retireReader id after }
  | .buffer id rest => h.rebuffer id rest
  | .answer id now frame => (h.answerFrame id now frame).2
  | .finish id => (h.endSession id).takeFailed.2
  | .clearMarks => h.takeFailed.2
  | .flush => h.flushMaps.2.flushNodes.2

/-- The hub after some acts, one after the other. -/
def performAll (h : Hub σ) (acts : List Act) : Hub σ :=
  acts.foldl perform h

/-- The sessions that end when some sessions are to be ended, in order: those that fail meanwhile end
before the next one on the list. -/
def endings (h : Hub σ) : List SessionId → List SessionId
  | [] => []
  | id :: rest =>
      if h.router.isRegistered id then
        let ended := (h.endSession id).takeFailed
        id :: endings ended.2 (ended.1 ++ rest)
      else endings h rest
termination_by pending => (h.sessionIds.length, pending.length)
decreasing_by
  · rename_i registered
    apply Prod.Lex.left
    have keys : (h.endSession id).takeFailed.2.sessionIds =
        h.sessionIds.filter fun other => other ≠ id := sessionIds_endSession h id
    rw [keys]
    exact List.length_filter_lt_length_iff_exists.mpr
      ⟨id, Router.isRegistered_iff.mp registered, by simp⟩
  · apply Prod.Lex.right
    simp

/-- Ending sessions, as acts. -/
def finishes (h : Hub σ) (pending : List SessionId) : List Act :=
  (h.endings pending).map .finish

/-- Ending the sessions that have failed, as acts. -/
def reaping (h : Hub σ) : List Act :=
  .clearMarks :: h.takeFailed.2.finishes h.takeFailed.1

@[simp] theorem performAll_nil (h : Hub σ) : h.performAll [] = h := rfl

@[simp] theorem performAll_cons (h : Hub σ) (a : Act) (rest : List Act) :
    h.performAll (a :: rest) = (h.perform a).performAll rest := rfl

@[simp] theorem performAll_append (h : Hub σ) (first rest : List Act) :
    h.performAll (first ++ rest) = (h.performAll first).performAll rest :=
  List.foldl_append

theorem finishes_nil (h : Hub σ) : h.finishes [] = [] := by
  rw [finishes, endings, List.map_nil]

theorem finishes_of_registered {h : Hub σ} {id : SessionId}
    (registered : h.router.isRegistered id = true) (rest : List SessionId) :
    h.finishes (id :: rest) =
      .finish id :: (h.endSession id).takeFailed.2.finishes
        ((h.endSession id).takeFailed.1 ++ rest) := by
  rw [finishes, endings, if_pos registered]
  rfl

theorem finishes_of_not_registered {h : Hub σ} {id : SessionId}
    (unknown : h.router.isRegistered id = false) (rest : List SessionId) :
    h.finishes (id :: rest) = h.finishes rest := by
  rw [finishes, endings, if_neg (by simp [unknown])]
  rfl

/-- Ending sessions performs the acts that say so. -/
theorem endSessions_eq_performAll (h : Hub σ) (pending : List SessionId) :
    h.endSessions pending = h.performAll (h.finishes pending) := by
  induction h, pending using endSessions.induct with
  | case1 h => rw [endSessions_nil, finishes_nil, performAll_nil]
  | case2 h id rest registered ended ih =>
      rw [endSessions_of_registered registered, finishes_of_registered registered, performAll_cons]
      exact ih
  | case3 h id rest unknown ih =>
      have unknown : h.router.isRegistered id = false := by simpa using unknown
      rw [endSessions_of_not_registered unknown, finishes_of_not_registered unknown]
      exact ih

theorem reapFailed_eq_performAll (h : Hub σ) : h.reapFailed = h.performAll h.reaping :=
  endSessions_eq_performAll _ _

theorem answerFrames_eq_performAll (h : Hub σ) (session : SessionId) (clock : Clock)
    (frames : List Bytes) :
    h.answerFrames session clock frames = h.performAll (Act.answers session clock frames) := by
  rw [answerFrames, performAll, Act.answers, List.foldl_map]
  rfl

/-- Whether something holds of every act in a row and of the hub that the act is performed on. -/
def Along (P : Hub σ → Act → Prop) : Hub σ → List Act → Prop
  | _, [] => True
  | h, a :: rest => P h a ∧ Along P (h.perform a) rest

theorem along_append {P : Hub σ → Act → Prop} {h : Hub σ} {first rest : List Act} :
    Along P h (first ++ rest) ↔ Along P h first ∧ Along P (h.performAll first) rest := by
  induction first generalizing h with
  | nil => simp [Along]
  | cons a first ih => rw [List.cons_append, Along, Along, ih, performAll_cons, and_assoc]

theorem along_iff {P : Hub σ → Act → Prop} {h : Hub σ} {acts : List Act} :
    Along P h acts ↔
      ∀ before a after, acts = before ++ a :: after → P (h.performAll before) a := by
  constructor
  · rintro along before a after rfl
    exact (along_append.mp along).2.1
  · intro each
    induction acts generalizing h with
    | nil => trivial
    | cons a rest ih =>
        refine ⟨each [] a rest rfl, ih fun before b after split => ?_⟩
        exact each (a :: before) b after (congrArg (a :: ·) split)

/-- What every act keeps is kept by a row of acts. -/
theorem performAll_keeps {P : Hub σ → Act → Prop} {Q : Hub σ → Prop}
    (act : ∀ h a, P h a → Q h → Q (h.perform a)) {h : Hub σ} {acts : List Act}
    (along : Along P h acts) (start : Q h) : Q (h.performAll acts) := by
  induction acts generalizing h with
  | nil => exact start
  | cons a rest ih => exact ih along.2 (act h a along.1 start)

end Hub

/-- Whether an act makes sense: only connected sessions are answered and ended. -/
def Act.Enabled {σ : Type} (h : Hub σ) : Act → Prop
  | answer id _ _ | finish id | buffer id _ => h.router.isRegistered id = true
  | connect .. | retire .. | clearMarks | flush => True

/-- A move of the world: an event, or the reader of a queue that will go away. -/
inductive Move
  | event (e : Event)
  | retire (id : SessionId) (after : Nat)
deriving DecidableEq, Repr

namespace Engine

variable {σ : Type} [Store σ]

/-- The engine after a move. -/
def move (e : Engine σ) : Move → Engine σ
  | .event event => e.step event
  | .retire id after => e.retireReader id after

/-- The engine after a run. -/
def after (e : Engine σ) (moves : List Move) : Engine σ :=
  moves.foldl move e

/-- The acts by which bytes are dealt with: what is left of them is kept, their frames are answered,
a length word that cannot be accepted ends the session, and failed sessions are ended. -/
def receiveActs (e : Engine σ) (id : SessionId) (bytes : Bytes) (clock : Clock) : List Act :=
  match e.hub.router.session? id with
  | none => []
  | some s =>
      let cut := Framing.split e.maxFrameSize (s.pushBytes bytes).inbound
      let answers := .buffer id cut.rest :: Act.answers id clock cut.frames
      let h := e.hub.performAll answers
      let closing := match cut.stop with
        | .wantsMore => []
        | .badLength _ => h.finishes [id]
      answers ++ closing ++ (h.performAll closing).reaping

/-- The acts of a move. -/
def actsOf (e : Engine σ) : Move → List Act
  | .event (.connected id host reader) => [.connect id host reader]
  | .event (.data id bytes clock) => e.receiveActs id bytes clock
  | .event (.disconnected id) => e.hub.finishes [id]
  | .event .shutdown => [.flush]
  | .retire id after => [.retire id after]

/-- The acts of a run. -/
def acts (e : Engine σ) : List Move → List Act
  | [] => []
  | m :: rest => e.actsOf m ++ (e.move m).acts rest

theorem hub_receive (e : Engine σ) (id : SessionId) (bytes : Bytes) (clock : Clock) :
    (e.receive id bytes clock).hub = e.hub.performAll (e.receiveActs id bytes clock) := by
  rw [receive, receiveActs]
  cases e.hub.router.session? id with
  | none => rfl
  | some s =>
      dsimp only
      have answers : ∀ frames rest,
          Hub.answerFrames { e.hub with router := e.hub.router.updateSession id fun s =>
            { s with inbound := rest } } id clock frames =
          e.hub.performAll (.buffer id rest :: Act.answers id clock frames) := by
        intro frames rest
        rw [Hub.answerFrames_eq_performAll]
        rfl
      rw [answers, Hub.performAll_append, Hub.performAll_append, Hub.reapFailed_eq_performAll]
      cases (Framing.split e.maxFrameSize (s.pushBytes bytes).inbound).stop with
      | wantsMore => rfl
      | badLength length =>
          dsimp only
          rw [Hub.disconnect, Hub.endSessions_eq_performAll]

theorem hub_move (e : Engine σ) (m : Move) : (e.move m).hub = e.hub.performAll (e.actsOf m) := by
  cases m with
  | retire id after => rfl
  | event event =>
      cases event with
      | connected id host reader => rfl
      | data id bytes clock => exact e.hub_receive id bytes clock
      | disconnected id => exact Hub.endSessions_eq_performAll _ _
      | shutdown => rfl

/-- A run performs the acts of its moves. -/
theorem hub_after (e : Engine σ) (moves : List Move) :
    (e.after moves).hub = e.hub.performAll (e.acts moves) := by
  induction moves generalizing e with
  | nil => rfl
  | cons m rest ih =>
      rw [acts, Hub.performAll_append, ← hub_move]
      exact ih (e.move m)

theorem maxFrameSize_move (e : Engine σ) (m : Move) : (e.move m).maxFrameSize = e.maxFrameSize := by
  cases m with
  | retire id after => rfl
  | event event =>
      cases event with
      | data id bytes clock =>
          rw [move, step, receive]
          cases e.hub.router.session? id <;> rfl
      | _ => rfl

theorem maxFrameSize_after (e : Engine σ) (moves : List Move) :
    (e.after moves).maxFrameSize = e.maxFrameSize := by
  induction moves generalizing e with
  | nil => rfl
  | cons m rest ih => exact (ih (e.move m)).trans (e.maxFrameSize_move m)

end Engine

end TopoSync
