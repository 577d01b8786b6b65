import Mathlib
import TopoSync.Proofs.Chunks
import TopoSync.Proofs.Reaping
import TopoSync.Proofs.Wire.Polling

/-!
# What has come from a session

The bytes that a session has sent since it connected form one stream.  Between two moves the frames at
the head of the stream have been answered, each once and in order, and the receive buffer holds what is
left of it, which is the beginning of a frame that can be accepted.  So the buffer stays short, whatever
comes and however it is cut.
-/

namespace TopoSync

namespace Frame

variable {buffer : Bytes} {maxSize : Nat}

/-- A whole frame at the head of a buffer announces its length. -/
theorem announced_of_inspect_complete {length : Nat} {code : UInt32}
    (whole : inspect buffer maxSize = .complete length code) :
    Announced maxSize (buffer.take length) := by
  obtain ⟨⟨least, most, within⟩, announced, -⟩ := inspect_eq_complete_iff.mp whole
  have size : (buffer.take length).length = length := List.length_take_of_le within
  have word : lengthWord buffer = lengthWord (buffer.take length) := by
    calc
      lengthWord buffer = lengthWord (buffer.take length ++ buffer.drop length) := by
        rw [List.take_append_drop]
      _ = lengthWord (buffer.take length) := lengthWord_append _ (by rwa [size])
  exact ⟨by rw [← word, announced, size], by rwa [size], by rwa [size]⟩

/-- A buffer with bytes missing is shorter than a header or than the longest frame. -/
theorem length_lt_of_inspect_incomplete {missing : Nat}
    (waiting : inspect buffer maxSize = .incomplete missing) :
    buffer.length < max headerSize maxSize := by
  obtain ⟨some, partly⟩ := inspect_eq_incomplete_iff.mp waiting
  omega

end Frame

namespace Framing

variable {maxSize : Nat} {stream more left rest : Bytes} {taken frames : List Bytes}

/-- Some frames and the bytes left after them make up a stream: every frame announces its length, and
what is left is the beginning of a frame. -/
structure Consumed (maxSize : Nat) (stream : Bytes) (taken : List Bytes) (left : Bytes) : Prop where
  announced : ∀ f ∈ taken, Frame.Announced maxSize f
  whole : taken.flatten ++ left = stream
  waiting : ∃ missing, Frame.inspect left maxSize = .incomplete missing

/-- There is one way to consume a stream, and cutting finds it. -/
theorem consumed_iff_split :
    Consumed maxSize stream taken left ↔ split maxSize stream = ⟨taken, left, .wantsMore⟩ := by
  constructor
  · rintro ⟨announced, rfl, missing, waiting⟩
    induction taken with
    | nil => exact split_of_incomplete waiting
    | cons frame others ih =>
        have ok := announced frame List.mem_cons_self
        have later := ih fun f member => announced f (List.mem_cons_of_mem _ member)
        rw [List.flatten_cons, List.append_assoc, split_of_complete (ok.inspect _), List.drop_left,
          List.take_left, later]
        rfl
  · intro cut
    induction stream using split.induct maxSize generalizing taken with
    | case1 buffer missing head =>
        rw [split_of_incomplete head] at cut
        cases cut
        exact ⟨fun _ member => absurd member List.not_mem_nil, rfl, missing, head⟩
    | case2 buffer length head =>
        rw [split_of_invalid head] at cut
        cases cut
    | case3 buffer length code head ih =>
        rw [split_of_complete head] at cut
        rcases later : split maxSize (buffer.drop length) with ⟨others, after, stop⟩
        rw [later] at cut
        cases cut
        obtain ⟨announced, whole, waiting⟩ := ih later
        refine ⟨?_, ?_, waiting⟩
        · intro f member
          rcases List.mem_cons.mp member with rfl | member
          · exact Frame.announced_of_inspect_complete head
          · exact announced f member
        · rw [List.flatten_cons, List.append_assoc, whole, List.take_append_drop]

theorem consumed_nil (maxSize : Nat) : Consumed maxSize [] [] [] :=
  consumed_iff_split.mpr (split_nil maxSize)

/-- A stream that goes on is consumed by cutting what was left together with what comes. -/
theorem Consumed.append (consumed : Consumed maxSize stream taken left)
    (cut : split maxSize (left ++ more) = ⟨frames, rest, .wantsMore⟩) :
    Consumed maxSize (stream ++ more) (taken ++ frames) rest := by
  have first := consumed_iff_split.mp consumed
  rw [consumed_iff_split, split_append, first, cut]

end Framing

/-- The bytes that a move brings from a session. -/
def Move.bytesFrom (id : SessionId) : Move → Bytes
  | .event (.data q bytes _) => if q = id then bytes else []
  | .event (.connected ..) | .event (.disconnected _) | .event .shutdown | .retire .. => []

/-- The frame of a session that an act answers. -/
def Act.answered? (id : SessionId) : Act → Option Bytes
  | answer q _ frame => if q = id then some frame else none
  | connect .. | retire .. | buffer .. | finish _ | clearMarks | flush => none

/-- The bytes that moves bring from a session, in order. -/
def received (id : SessionId) (moves : List Move) : Bytes :=
  moves.flatMap (Move.bytesFrom id)

/-- The frames of a session that acts answer, in order. -/
def answered (id : SessionId) (acts : List Act) : List Bytes :=
  acts.filterMap (Act.answered? id)

theorem answered_append (id : SessionId) (first rest : List Act) :
    answered id (first ++ rest) = answered id first ++ answered id rest :=
  List.filterMap_append

/-- Answering the frames of a session answers these. -/
theorem answered_answers (id : SessionId) (clock : Clock) (frames : List Bytes) :
    answered id (Act.answers id clock frames) = frames := by
  have each : (Act.answered? id ∘ fun timed => Act.answer id timed.1 timed.2) =
      some ∘ Prod.snd := by
    ext timed
    simp [Act.answered?]
  rw [answered, Act.answers, List.filterMap_map, each, List.filterMap_eq_map, Clock.map_snd_stamp]

/-- Answering the frames of another session answers none of this one. -/
theorem answered_answers_of_ne {id q : SessionId} (other : q ≠ id) (clock : Clock)
    (frames : List Bytes) : answered id (Act.answers q clock frames) = [] := by
  have none : ∀ timed ∈ clock.stamp frames,
      (Act.answered? id ∘ fun timed => Act.answer q timed.1 timed.2) timed = none :=
    fun timed _ => if_neg other
  rw [answered, Act.answers, List.filterMap_map]
  exact List.filterMap_eq_nil_iff.mpr none

namespace Hub

variable {σ : Type} [Store σ] (h : Hub σ) (id : SessionId)

theorem answered_finishes (pending : List SessionId) : answered id (h.finishes pending) = [] := by
  rw [answered, finishes, List.filterMap_map]
  exact List.filterMap_eq_nil_iff.mpr fun _ _ => rfl

theorem answered_reaping : answered id h.reaping = [] :=
  h.takeFailed.2.answered_finishes id h.takeFailed.1

end Hub

namespace Engine

variable {σ : Type} [Store σ]

theorem after_append (e : Engine σ) (first rest : List Move) :
    e.after (first ++ rest) = (e.after first).after rest :=
  List.foldl_append

theorem bytesFrom_of_not_feeds {id : SessionId} {m : Move} (other : feeds id m = false) :
    m.bytesFrom id = [] := by
  cases m with
  | retire q after => rfl
  | event event =>
      cases event with
      | data q bytes clock => exact if_neg (by simpa [feeds] using other)
      | connected | disconnected | shutdown => rfl

/-- A move that brings nothing from a session answers none of its frames. -/
theorem answered_actsOf {e : Engine σ} {id : SessionId} {m : Move} (other : feeds id m = false) :
    answered id (e.actsOf m) = [] := by
  cases m with
  | retire q after => rfl
  | event event =>
      cases event with
      | connected q host reader => rfl
      | shutdown => rfl
      | disconnected q => exact e.hub.answered_finishes id [q]
      | data q bytes clock =>
          have apart : q ≠ id := by simpa [feeds] using other
          rw [actsOf, receiveActs]
          cases e.hub.router.session? q with
          | none => rfl
          | some s =>
              dsimp only
              rw [answered_append, answered_append, Hub.answered_reaping, List.append_nil]
              rw [List.append_eq_nil_iff]
              refine ⟨answered_answers_of_ne apart clock _, ?_⟩
              split
              · rfl
              · exact Hub.answered_finishes _ id [q]

section Steps

variable {e : Engine σ} {id : SessionId} {s t : Session} {stream : Bytes} {taken : List Bytes}
  (known : e.hub.router.session? id = some s)
  (consumed : Framing.Consumed e.maxFrameSize stream taken s.inbound)

include known consumed

/-- A session that is still there after its bytes were dealt with has its stream consumed. -/
theorem consumed_receive {bytes : Bytes} {clock : Clock}
    (found : (e.receive id bytes clock).hub.router.session? id = some t) :
    Framing.Consumed e.maxFrameSize (stream ++ bytes)
      (taken ++ answered id (e.receiveActs id bytes clock)) t.inbound := by
  rcases cut : Framing.split e.maxFrameSize (s.inbound ++ bytes) with ⟨frames, rest, stop⟩
  cases stop with
  | badLength length =>
      -- A length word that cannot be accepted would have ended the session.
      rw [receive_of_badLength known cut] at found
      have still := Hub.isRegistered_of_reapFailed (Router.isRegistered_iff_exists.mpr ⟨t, found⟩)
      cases (Hub.isRegistered_disconnect _ id).symm.trans still
  | wantsMore =>
      have kept : t.inbound = rest := by
        rw [receive_of_known known, cut] at found
        dsimp only [Hub.settle] at found
        rw [Hub.reapFailed_rebuffer, Hub.session?_rebuffer_self] at found
        obtain ⟨u, -, rfl⟩ := Option.map_eq_some_iff.mp found
        rfl
      have frames : answered id (e.receiveActs id bytes clock) = frames := by
        rw [receiveActs_of_wantsMore known cut]
        calc
          answered id (Act.answers id clock frames ++ Hub.reaping _) =
              answered id (Act.answers id clock frames) ++ answered id (Hub.reaping _) :=
            answered_append _ _ _
          _ = frames := by rw [answered_answers, Hub.answered_reaping, List.append_nil]
      rw [frames, kept]
      exact consumed.append cut

/-- A session that is there before and after a move, and does not connect in it, has its stream
consumed. -/
theorem consumed_move {m : Move} (stays : ∀ host reader, m ≠ .event (.connected id host reader))
    (found : (e.move m).hub.router.session? id = some t) :
    Framing.Consumed e.maxFrameSize (stream ++ m.bytesFrom id)
      (taken ++ answered id (e.actsOf m)) t.inbound := by
  cases fed : feeds id m with
  | false =>
      have quiet : ∀ m' ∈ [m], feeds id m' = false := by simpa using fed
      have kept : t.inbound = s.inbound := inbound_after known quiet found
      rw [bytesFrom_of_not_feeds fed, answered_actsOf fed, kept, List.append_nil, List.append_nil]
      exact consumed
  | true =>
      cases m with
      | retire q after => cases fed
      | event event =>
          cases event with
          | disconnected q => cases fed
          | shutdown => cases fed
          | connected q host reader =>
              obtain rfl : q = id := by simpa [feeds] using fed
              exact absurd rfl (stays host reader)
          | data q bytes clock =>
              obtain rfl : q = id := by simpa [feeds] using fed
              have brought : Move.bytesFrom q (.event (.data q bytes clock)) = bytes := if_pos rfl
              rw [brought]
              exact consumed_receive known consumed found

end Steps

/-- A session that is there after moves in which it did not connect was there before. -/
theorem known_of_known_after {e : Engine σ} (clear : e.hub.router.failed = []) {id : SessionId}
    {t : Session} {moves : List Move}
    (stays : ∀ host reader, .event (.connected id host reader) ∉ moves)
    (found : (e.after moves).hub.router.session? id = some t) :
    ∃ s, e.hub.router.session? id = some s := by
  induction moves generalizing e with
  | nil => exact ⟨t, found⟩
  | cons m rest ih =>
      obtain ⟨s, between⟩ := ih (failed_after clear [m])
        (fun host reader member => stays host reader (List.mem_cons_of_mem _ member)) found
      have registered := Router.isRegistered_iff_exists.mpr ⟨s, between⟩
      rcases ((isRegistered_move_iff clear m id).mp registered).1 with before | ⟨host, reader, rfl⟩
      · exact Router.isRegistered_iff_exists.mp before
      · exact absurd List.mem_cons_self (stays host reader)

/-- The stream of a session stays consumed as long as the session is there and does not connect
again. -/
theorem consumed_after {e : Engine σ} (clear : e.hub.router.failed = []) {id : SessionId}
    {s t : Session} {stream : Bytes} {taken : List Bytes} {moves : List Move}
    (known : e.hub.router.session? id = some s)
    (consumed : Framing.Consumed e.maxFrameSize stream taken s.inbound)
    (stays : ∀ host reader, .event (.connected id host reader) ∉ moves)
    (found : (e.after moves).hub.router.session? id = some t) :
    Framing.Consumed e.maxFrameSize (stream ++ received id moves)
      (taken ++ answered id (e.acts moves)) t.inbound := by
  induction moves generalizing e s stream taken with
  | nil =>
      obtain rfl : s = t := Option.some.inj (known.symm.trans found)
      simpa [received, answered, acts] using consumed
  | cons m rest ih =>
      have clearThen : (e.move m).hub.router.failed = [] := failed_after clear [m]
      have later : ∀ host reader, .event (.connected id host reader) ∉ rest :=
        fun host reader member => stays host reader (List.mem_cons_of_mem _ member)
      have now : ∀ host reader, m ≠ .event (.connected id host reader) := by
        rintro host reader rfl
        exact stays host reader List.mem_cons_self
      obtain ⟨u, between⟩ := known_of_known_after clearThen later found
      have step := consumed_move known consumed now between
      rw [← e.maxFrameSize_move m] at step
      have run := ih clearThen between step later found
      rw [e.maxFrameSize_move m] at run
      rw [acts, answered_append, ← List.append_assoc]
      rwa [List.append_assoc] at run

end Engine

/-- A session that connects does so for the last time at some move. -/
theorem exists_last_connected {id : SessionId} {moves : List Move}
    (joined : ∃ host reader, .event (.connected id host reader) ∈ moves) :
    ∃ before host reader since, moves = before ++ .event (.connected id host reader) :: since ∧
      ∀ host reader, .event (.connected id host reader) ∉ since := by
  induction moves with
  | nil => simp at joined
  | cons m rest ih =>
      by_cases again : ∃ host reader, .event (.connected id host reader) ∈ rest
      · obtain ⟨before, host, reader, since, rfl, last⟩ := ih again
        exact ⟨m :: before, host, reader, since, rfl, last⟩
      · obtain ⟨host, reader, member⟩ := joined
        have none : ∀ host reader, .event (.connected id host reader) ∉ rest :=
          fun host reader later => again ⟨host, reader, later⟩
        rcases List.mem_cons.mp member with rfl | later
        · exact ⟨[], host, reader, rest, rfl, none⟩
        · exact absurd later (none host reader)

/-- Between the moves of every run, the receive buffer of every session that is connected is one that
lacks bytes for a frame that can be accepted, so it is shorter than a header or than the longest frame,
whatever came and however it was cut.  Since the session connected for the last time, the frames that it
sent have been answered, each once and in the order in which they came: the frames that were answered and
the buffer make up what came, every one of them announces its own length, and there is no other way to
take frames off what came until bytes are missing. -/
theorem stream_consumed_in_every_run {σ : Type} [Store σ] (store : σ) (maxFrameSize : Nat)
    (moves : List Move) (id : SessionId) (s : Session)
    (known : ((Engine.start store maxFrameSize).after moves).hub.router.session? id = some s) :
    (∃ missing, Frame.inspect s.inbound maxFrameSize = .incomplete missing) ∧
    s.inbound.length < max Frame.headerSize maxFrameSize ∧
    ∃ before host reader since,
      moves = before ++ .event (.connected id host reader) :: since ∧
      (∀ host reader, .event (.connected id host reader) ∉ since) ∧
      let joined := ((Engine.start store maxFrameSize).after before).connect id host reader
      let done := answered id (joined.acts since)
      ((Engine.start store maxFrameSize).after moves).hub =
        joined.hub.performAll (joined.acts since) ∧
      (∀ f ∈ done, Frame.Announced maxFrameSize f) ∧
      done.flatten ++ s.inbound = received id since ∧
      ∀ frames rest missing, (∀ f ∈ frames, Frame.Announced maxFrameSize f) →
        Frame.inspect rest maxFrameSize = .incomplete missing →
        frames.flatten ++ rest = received id since → frames = done ∧ rest = s.inbound := by
  let e := Engine.start store maxFrameSize
  have clear : ∀ moves, (e.after moves).hub.router.failed = [] := Engine.failed_after rfl
  have absent : e.hub.router.session? id = none := rfl
  have joins : ∃ host reader, .event (.connected id host reader) ∈ moves := by
    by_contra stays
    push Not at stays
    obtain ⟨t, there⟩ := Engine.known_of_known_after (clear []) stays known
    cases absent.symm.trans there
  obtain ⟨before, host, reader, since, rfl, last⟩ := exists_last_connected joins
  let joined := (e.after before).connect id host reader
  have run : e.after (before ++ .event (.connected id host reader) :: since) =
      joined.after since := Engine.after_append e before _
  have limit : joined.maxFrameSize = maxFrameSize := e.maxFrameSize_after before
  have fresh : joined.hub.router.session? id = some { id, host, reader } := by
    have there := (e.after before).hub.router.session?_register { id, host, reader } id
    rwa [if_pos rfl] at there
  have clearThen : joined.hub.router.failed = [] := clear before
  have consumed := Engine.consumed_after clearThen fresh
    (Framing.consumed_nil joined.maxFrameSize) last (by rwa [← run])
  rw [limit, List.nil_append, List.nil_append] at consumed
  obtain ⟨announced, whole, missing, waiting⟩ := consumed
  refine ⟨⟨missing, waiting⟩, Frame.length_lt_of_inspect_incomplete waiting, before, host, reader,
    since, rfl, last, ?_, announced, whole, ?_⟩
  · rw [run, Engine.hub_after]
  · intro frames rest missing' announced' waiting' whole'
    have one := Framing.consumed_iff_split.mp ⟨announced, whole, missing, waiting⟩
    have other := Framing.consumed_iff_split.mp ⟨announced', whole', missing', waiting'⟩
    cases one.symm.trans other
    exact ⟨rfl, rfl⟩

/-- Two sessions are connected; the first sends a request to open a map with the beginning of a second
one, and then the end of that and half a length word. -/
def twoAndAHalf : List Move :=
  let opening := (Frame.build .openMap [.signed 1]).bytes
  let closing := (Frame.build .closeMap [.signed 1]).bytes
  [.event (.connected ⟨1⟩ "a" .staying),
    .event (.data ⟨1⟩ (opening ++ closing.take 5) 0),
    .event (.connected ⟨2⟩ "b" .staying),
    .event (.data ⟨2⟩ (closing.take 9) 0),
    .event (.data ⟨1⟩ (closing.drop 5 ++ [0, 0]) 0)]

/-- Half a length word is left once the two requests of the first session were answered. -/
theorem stream_consumed_in_every_run_twoAndAHalf :
    ∃ s, ((Engine.start (MemoryStore.insertMap {} 1 "plan" {}) 12).after
        twoAndAHalf).hub.router.session? ⟨1⟩ = some s ∧
      (∃ missing, Frame.inspect [0, 0] 12 = .incomplete missing) ∧
      ∃ before host reader since, ∃ done : List Bytes,
        twoAndAHalf = before ++ .event (.connected ⟨1⟩ host reader) :: since ∧
        (∀ f ∈ done, Frame.Announced 12 f) ∧ done.flatten ++ [0, 0] = received ⟨1⟩ since := by
  have left : (((Engine.start (MemoryStore.insertMap {} 1 "plan" {}) 12).after
      twoAndAHalf).hub.router.session? ⟨1⟩).map Session.inbound = some [0, 0] := by decide_cbv
  obtain ⟨s, known, inbound⟩ := Option.map_eq_some_iff.mp left
  obtain ⟨waiting, -, before, host, reader, since, run, -, -, announced, whole, -⟩ :=
    stream_consumed_in_every_run (MemoryStore.insertMap {} 1 "plan" {}) 12 twoAndAHalf ⟨1⟩ s known
  rw [inbound] at waiting whole
  exact ⟨s, known, waiting, before, host, reader, since, _, run, announced, whole⟩

end TopoSync
