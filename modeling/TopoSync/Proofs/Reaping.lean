import TopoSync.Proofs.Farewells
import TopoSync.Proofs.Hub.Postings

/-!
# Who is ended because of a queue

A frame that cannot be queued costs its recipient the connection, and nobody else.  For every event
the frames that are sent on the way are known, those of the sessions that end in it included, and
with them the sessions that miss one: when the event has been dealt with, exactly these are gone,
apart from a session that is ended by name or sends a length that cannot be accepted.
-/

namespace TopoSync

namespace Hub

variable {σ : Type} [Store σ]

/-- The letters that an act gives rise to. -/
def offered (h : Hub σ) : Act → List Letter
  | .answer id now frame =>
      match Request.ofFrame? frame with
      | none => []
      | some request => h.lettersOf id now request
  | .finish id => h.farewell id
  | .connect .. | .retire .. | .buffer .. | .clearMarks | .flush => []

/-- The sessions that miss a frame in an act, one for each frame. -/
def missedBy (h : Hub σ) (a : Act) : List SessionId :=
  h.router.missed ((h.offered a).map Letter.toFrame)

/-- The sessions that miss a frame in a row of acts, one for each frame. -/
def missedIn : Hub σ → List Act → List SessionId
  | _, [] => []
  | h, a :: rest => h.missedBy a ++ (h.perform a).missedIn rest

theorem missedIn_append (h : Hub σ) (first rest : List Act) :
    h.missedIn (first ++ rest) = h.missedIn first ++ (h.performAll first).missedIn rest := by
  induction first generalizing h with
  | nil => rfl
  | cons a first ih =>
      rw [List.cons_append, missedIn, ih, missedIn, performAll_cons, List.append_assoc]

section Counting

variable (h : Hub σ)

theorem posts_answer (id : SessionId) (now : UInt32) (frame : Bytes) :
    h.Posts (h.offered (.answer id now frame)) (h.perform (.answer id now frame)) := by
  rw [perform, answerFrame_eq, offered]
  cases Request.ofFrame? frame with
  | none => exact posts_nothing rfl
  | some request => exact h.posts_apply id now request

/-- Every frame that an act fails to queue is counted, and no other one. -/
theorem failedDeliveries_perform (a : Act) :
    (h.perform a).router.stats.failedDeliveries =
      h.router.stats.failedDeliveries + (h.missedBy a).length := by
  cases a with
  | answer id now frame =>
      rw [(h.posts_answer id now frame).stats]
      exact h.router.failedDeliveries_deliver _
  | finish id =>
      have same : (h.perform (.finish id)).router.stats = (h.endSession id).router.stats := rfl
      rw [same, router_endSession]
      exact h.router.failedDeliveries_deliver _
  | flush =>
      have same : (h.perform .flush).router = h.router := h.router_flush
      rw [same]
      rfl
  | connect id host reader => rfl
  | retire id after => rfl
  | buffer id rest => rfl
  | clearMarks => rfl

theorem failedDeliveries_performAll (acts : List Act) :
    (h.performAll acts).router.stats.failedDeliveries =
      h.router.stats.failedDeliveries + (h.missedIn acts).length := by
  induction acts generalizing h with
  | nil => rfl
  | cons a rest ih =>
      rw [performAll_cons, ih, failedDeliveries_perform, missedIn, List.length_append,
        Nat.add_assoc]

end Counting

section Answers

variable (h : Hub σ) (id : SessionId) (clock : Clock)

theorem isRegistered_answers (frames : List Bytes) (q : SessionId) :
    (h.performAll (Act.answers id clock frames)).router.isRegistered q =
      h.router.isRegistered q := by
  induction frames generalizing h clock with
  | nil => rfl
  | cons frame rest ih =>
      have first := (h.posts_answer id clock.now frame).isRegistered q
      exact (ih _ _).trans (first.trans (isRegistered_post h _ q))

/-- Answering marks exactly the connected sessions that miss a frame. -/
theorem mem_failed_answers (frames : List Bytes) (q : SessionId) :
    q ∈ (h.performAll (Act.answers id clock frames)).router.failed ↔
      q ∈ h.router.failed ∨
        q ∈ h.missedIn (Act.answers id clock frames) ∧ h.router.isRegistered q = true := by
  induction frames generalizing h clock with
  | nil => simp [missedIn]
  | cons frame rest ih =>
      have posts := h.posts_answer id clock.now frame
      have known : (h.perform (.answer id clock.now frame)).router.isRegistered q =
          h.router.isRegistered q := (posts.isRegistered q).trans (isRegistered_post h _ q)
      have first : q ∈ (h.perform (.answer id clock.now frame)).router.failed ↔
          q ∈ h.router.failed ∨
            q ∈ h.missedBy (.answer id clock.now frame) ∧ h.router.isRegistered q = true := by
        rw [posts.failed]
        exact Router.mem_failed_deliver
      rw [Act.answers_cons, performAll_cons, ih, first, known, missedIn, List.mem_append]
      tauto

end Answers

section Endings

variable {h : Hub σ} {q : SessionId}

/-- The end of a session marks exactly the others that miss a frame by it. -/
theorem mem_takeFailed_endSession (id : SessionId) :
    q ∈ (h.endSession id).takeFailed.1 ↔
      q ≠ id ∧ (q ∈ h.router.failed ∨
        q ∈ h.missedBy (.finish id) ∧ h.router.isRegistered q = true) := by
  have marks : (h.endSession id).takeFailed.1 = (h.endSession id).router.failed := rfl
  rw [marks, router_endSession, Router.unregister, List.mem_filter, and_comm]
  refine and_congr (by simp) ?_
  exact Router.mem_failed_deliver

/-- When some sessions are to be ended, exactly these end, those that miss a frame meanwhile and, if
anybody ends at all, those that are marked already. -/
theorem mem_endings_iff {pending : List SessionId} :
    q ∈ h.endings pending ↔
      h.router.isRegistered q = true ∧
        (q ∈ pending ∨ q ∈ h.missedIn (h.finishes pending) ∨
          q ∈ h.router.failed ∧ ∃ id ∈ pending, h.router.isRegistered id = true) := by
  induction h, pending using endSessions.induct with
  | case1 h => simp [endings_nil, finishes_nil, missedIn]
  | case2 h id rest registered ended ih =>
      have later : ended.2.router.isRegistered q = true ↔
          h.router.isRegistered q = true ∧ q ≠ id := isRegistered_endSession_iff
      have marked : q ∈ ended.1 ↔ q ≠ id ∧ (q ∈ h.router.failed ∨
          q ∈ h.missedBy (.finish id) ∧ h.router.isRegistered q = true) :=
        mem_takeFailed_endSession id
      have clear : ended.2.router.failed = [] := rfl
      have missed : h.missedIn (h.finishes (id :: rest)) =
          h.missedBy (.finish id) ++ ended.2.missedIn (ended.2.finishes (ended.1 ++ rest)) := by
        rw [finishes_of_registered registered]
        rfl
      have someone : ∃ other ∈ id :: rest, h.router.isRegistered other = true :=
        ⟨id, List.mem_cons_self, registered⟩
      rw [endings_of_registered registered, List.mem_cons, ih, later, missed, clear,
        List.mem_append, List.mem_append, marked, List.mem_cons]
      by_cases same : q = id
      · subst same
        simp [registered]
      · have marks : (q ∈ h.router.failed ∧ ∃ other ∈ id :: rest,
            h.router.isRegistered other = true) ↔ q ∈ h.router.failed := and_iff_left someone
        rw [marks]
        simp only [same, List.not_mem_nil, false_and, or_false, false_or, ne_eq, not_false_eq_true,
          true_and, and_true]
        refine and_congr_right fun known => ?_
        simp only [known, and_true]
        grind
  | case3 h id rest unknown ih =>
      have unknown : h.router.isRegistered id = false := by simpa using unknown
      rw [endings_of_not_registered unknown, finishes_of_not_registered unknown, ih]
      refine and_congr_right fun known => ?_
      have other : q ≠ id := by
        rintro rfl
        cases unknown.symm.trans known
      simp [other, unknown]

theorem isRegistered_finishes_iff (pending : List SessionId) :
    (h.performAll (h.finishes pending)).router.isRegistered q = true ↔
      h.router.isRegistered q = true ∧ q ∉ h.endings pending := by
  rw [← endSessions_eq_performAll]
  exact isRegistered_endSessions_iff

/-- Reaping ends exactly those that are marked and those that miss a frame meanwhile. -/
theorem isRegistered_reaping_iff :
    (h.performAll h.reaping).router.isRegistered q = true ↔
      h.router.isRegistered q = true ∧ q ∉ h.router.failed ∧ q ∉ h.missedIn h.reaping := by
  let g := h.takeFailed.2
  have known : g.router.isRegistered q = h.router.isRegistered q := rfl
  have clear : g.router.failed = [] := rfl
  calc (h.performAll h.reaping).router.isRegistered q = true
      ↔ h.router.isRegistered q = true ∧ q ∉ g.endings h.router.failed :=
        isRegistered_finishes_iff (h := g) h.router.failed
    _ ↔ h.router.isRegistered q = true ∧
          ¬ (q ∈ h.router.failed ∨ q ∈ g.missedIn (g.finishes h.router.failed)) := by
        refine and_congr_right fun registered => not_congr ?_
        rw [mem_endings_iff, known, clear]
        simp [registered]
    _ ↔ h.router.isRegistered q = true ∧ q ∉ h.router.failed ∧ q ∉ h.missedIn h.reaping :=
        and_congr_right' not_or

/-- The end of a connected session ends also those that are marked and those that miss a frame. -/
theorem isRegistered_finish_iff {id : SessionId} (registered : h.router.isRegistered id = true) :
    (h.performAll (h.finishes [id])).router.isRegistered q = true ↔
      h.router.isRegistered q = true ∧ q ≠ id ∧ q ∉ h.router.failed ∧
        q ∉ h.missedIn (h.finishes [id]) := by
  calc (h.performAll (h.finishes [id])).router.isRegistered q = true
      ↔ h.router.isRegistered q = true ∧ q ∉ h.endings [id] := isRegistered_finishes_iff [id]
    _ ↔ h.router.isRegistered q = true ∧
          ¬ (q = id ∨ q ∈ h.missedIn (h.finishes [id]) ∨ q ∈ h.router.failed) := by
        refine and_congr_right fun known => not_congr ?_
        simp [mem_endings_iff, known, registered]
    _ ↔ h.router.isRegistered q = true ∧ q ≠ id ∧ q ∉ h.router.failed ∧
          q ∉ h.missedIn (h.finishes [id]) := by
        rw [not_or, not_or, and_comm (a := q ∉ h.missedIn _)]

theorem failed_finish (h : Hub σ) {id : SessionId} (registered : h.router.isRegistered id = true) :
    (h.performAll (h.finishes [id])).router.failed = [] := by
  rw [finishes_of_registered registered]
  exact failed_performAll_finishes (h.endSession id).takeFailed.2 _ rfl

end Endings

section Readers

variable {h : Hub σ} {q : SessionId}

theorem not_mem_missedBy {s : Session} (known : h.router.session? q = some s)
    (staying : s.reader = .staying) (a : Act) : q ∉ h.missedBy a := by
  rw [missedBy, Router.mem_missed_iff known, staying]
  exact not_not_intro rfl

/-- A session whose reader stays misses nothing while frames are answered. -/
theorem not_mem_missedIn_answers
    (staying : (h.router.session? q).map Session.reader = some .staying) (id : SessionId)
    (clock : Clock) (frames : List Bytes) :
    q ∉ h.missedIn (Act.answers id clock frames) ∧
      ((h.performAll (Act.answers id clock frames)).router.session? q).map Session.reader =
        some .staying := by
  induction frames generalizing h clock with
  | nil => exact ⟨List.not_mem_nil, staying⟩
  | cons frame rest ih =>
      obtain ⟨s, known, reader⟩ := Option.map_eq_some_iff.mp staying
      have later : ((h.perform (.answer id clock.now frame)).router.session? q).map Session.reader =
          some .staying := by
        rw [(h.posts_answer id clock.now frame).readers, post, Router.session?_deliver, known,
          Option.map_some, Option.map_some, Session.reader_spend, reader]
        rfl
      obtain ⟨others, after⟩ := ih later (clock.after 1)
      refine ⟨?_, after⟩
      rw [Act.answers_cons, missedIn, List.mem_append, not_or]
      exact ⟨not_mem_missedBy known reader _, others⟩

/-- A session whose reader stays misses nothing while sessions end. -/
theorem not_mem_missedIn_finishes (ok : h.Orderly)
    (staying : ∀ s, h.router.session? q = some s → s.reader = .staying)
    (pending : List SessionId) : q ∉ h.missedIn (h.finishes pending) := by
  induction h, pending using endSessions.induct with
  | case1 h =>
      rw [finishes_nil]
      exact List.not_mem_nil
  | case2 h id rest registered ended ih =>
      rw [finishes_of_registered registered, missedIn, List.mem_append, not_or]
      constructor
      · cases known : h.router.session? q with
        | some s => exact not_mem_missedBy known (staying s known) _
        | none =>
            -- A session that has ended already is not told of anything.
            refine Router.not_mem_missed ?_
            rw [offered, addressed_farewell ok, unlockFrames_of_not_registered ok known]
      · refine ih (orderly_perform (a := .finish id) registered ok) fun s later => ?_
        have known := (session?_endSession ok id q).symm.trans later
        split at known
        · cases known
        · obtain ⟨t, before, rfl⟩ := Option.map_eq_some_iff.mp known
          rw [Session.reader_spend, staying t before]
          rfl
  | case3 h id rest unknown ih =>
      rw [finishes_of_not_registered (by simpa using unknown)]
      exact ih ok staying

end Readers

end Hub

namespace Engine

variable {σ : Type} [Store σ]

/-- Whether a move brings bytes from a session with which a length that cannot be accepted is
reached. -/
def Misframes (e : Engine σ) (q : SessionId) (m : Move) : Prop :=
  ∃ bytes clock s length, m = .event (.data q bytes clock) ∧ e.hub.router.session? q = some s ∧
    (Framing.split e.maxFrameSize (s.inbound ++ bytes)).stop = .badLength length

section Bytes

variable {e : Engine σ} {id : SessionId} {s : Session} {bytes rest : Bytes} {frames : List Bytes}
  {q : SessionId} (known : e.hub.router.session? id = some s)

include known

/-- Bytes without a length that cannot be accepted: the frames are answered and failed sessions
ended. -/
theorem receiveActs_of_wantsMore
    (cut : Framing.split e.maxFrameSize (s.inbound ++ bytes) = ⟨frames, rest, .wantsMore⟩)
    (clock : Clock) :
    e.receiveActs id bytes clock =
      .buffer id rest :: (Act.answers id clock frames ++
        ((e.hub.rebuffer id rest).performAll (Act.answers id clock frames)).reaping) := by
  rw [receiveActs, known]
  dsimp only [Session.pushBytes]
  rw [cut, List.append_nil]
  rfl

/-- Bytes with a length that cannot be accepted: the frames before it are answered, and the sender is
ended, which leaves nobody marked. -/
theorem receiveActs_of_badLength {length : Nat}
    (cut : Framing.split e.maxFrameSize (s.inbound ++ bytes) = ⟨frames, rest, .badLength length⟩)
    (clock : Clock) :
    e.receiveActs id bytes clock =
      .buffer id rest :: (Act.answers id clock frames ++
        (((e.hub.rebuffer id rest).performAll (Act.answers id clock frames)).finishes [id] ++
          [.clearMarks])) := by
  let h := (e.hub.rebuffer id rest).performAll (Act.answers id clock frames)
  have registered : h.router.isRegistered id = true := by
    refine (Hub.isRegistered_answers _ id clock frames id).trans ?_
    exact (Hub.isRegistered_amend _ _ _ _).trans (Router.isRegistered_iff_exists.mpr ⟨s, known⟩)
  have unmarked : (h.performAll (h.finishes [id])).takeFailed.1 = [] := h.failed_finish registered
  have reaped : (h.performAll (h.finishes [id])).reaping = [.clearMarks] := by
    rw [Hub.reaping, unmarked, Hub.finishes_nil]
  rw [receiveActs, known]
  dsimp only [Session.pushBytes]
  rw [cut]
  refine (List.append_assoc _ _ _).trans ?_
  exact congrArg (fun acts => .buffer id rest :: (Act.answers id clock frames ++ (_ ++ acts))) reaped

/-- Frames are missed while the others are answered, and then while failed sessions are ended. -/
theorem missedIn_receiveActs_of_wantsMore
    (cut : Framing.split e.maxFrameSize (s.inbound ++ bytes) = ⟨frames, rest, .wantsMore⟩)
    (clock : Clock) :
    let h := (e.hub.rebuffer id rest).performAll (Act.answers id clock frames)
    e.hub.missedIn (e.receiveActs id bytes clock) =
      (e.hub.rebuffer id rest).missedIn (Act.answers id clock frames) ++ h.missedIn h.reaping := by
  rw [receiveActs_of_wantsMore known cut clock, Hub.missedIn]
  exact Hub.missedIn_append _ _ _

/-- Frames are missed while the others are answered, and then while the sender is ended. -/
theorem missedIn_receiveActs_of_badLength {length : Nat}
    (cut : Framing.split e.maxFrameSize (s.inbound ++ bytes) = ⟨frames, rest, .badLength length⟩)
    (clock : Clock) :
    let h := (e.hub.rebuffer id rest).performAll (Act.answers id clock frames)
    e.hub.missedIn (e.receiveActs id bytes clock) =
      (e.hub.rebuffer id rest).missedIn (Act.answers id clock frames) ++
        h.missedIn (h.finishes [id]) := by
  intro h
  have last : (h.performAll (h.finishes [id])).missedIn [.clearMarks] = [] := rfl
  have ending : h.missedIn (h.finishes [id] ++ [.clearMarks]) = h.missedIn (h.finishes [id]) := by
    rw [Hub.missedIn_append, last, List.append_nil]
  rw [receiveActs_of_badLength known cut clock, Hub.missedIn, ← ending]
  exact Hub.missedIn_append _ _ _

/-- After bytes have been dealt with, exactly those are gone that missed a frame, and the sender if it
sent a length that cannot be accepted. -/
theorem isRegistered_receive_iff (clear : e.hub.router.failed = []) (clock : Clock) :
    (e.receive id bytes clock).hub.router.isRegistered q = true ↔
      e.hub.router.isRegistered q = true ∧
        ¬ (q = id ∧ ∃ length,
          (Framing.split e.maxFrameSize (s.inbound ++ bytes)).stop = .badLength length) ∧
        q ∉ e.hub.missedIn (e.receiveActs id bytes clock) := by
  rcases cut : Framing.split e.maxFrameSize (s.inbound ++ bytes) with ⟨frames, rest, stop⟩
  let h := e.hub.rebuffer id rest
  let h₁ := h.performAll (Act.answers id clock frames)
  have kept : ∀ q, h₁.router.isRegistered q = e.hub.router.isRegistered q :=
    fun q => (h.isRegistered_answers id clock frames q).trans (Hub.isRegistered_amend e.hub id _ q)
  have marked : q ∈ h₁.router.failed ↔
      q ∈ h.missedIn (Act.answers id clock frames) ∧ e.hub.router.isRegistered q = true := by
    have unmarked : h.router.failed = [] := clear
    have same : h.router.isRegistered q = e.hub.router.isRegistered q :=
      Hub.isRegistered_amend e.hub id _ q
    rw [h.mem_failed_answers id clock frames q, unmarked, same]
    simp
  cases stop with
  | wantsMore =>
      have dealt : (e.receive id bytes clock).hub = h₁.performAll h₁.reaping := by
        rw [hub_receive, receiveActs_of_wantsMore known cut clock, Hub.performAll_cons]
        exact Hub.performAll_append _ _ _
      rw [dealt, Hub.isRegistered_reaping_iff, missedIn_receiveActs_of_wantsMore known cut clock,
        List.mem_append, kept, marked]
      refine and_congr_right fun registered => ?_
      rw [and_iff_left registered, not_or]
      refine (and_iff_right ?_).symm
      rintro ⟨_, _, ⟨⟩⟩
  | badLength length =>
      have registered : h₁.router.isRegistered id = true :=
        (kept id).trans (Router.isRegistered_iff_exists.mpr ⟨s, known⟩)
      have dealt : (e.receive id bytes clock).hub =
          (h₁.performAll (h₁.finishes [id])).performAll [.clearMarks] := by
        rw [hub_receive, receiveActs_of_badLength known cut clock, Hub.performAll_cons,
          ← Hub.performAll_append]
        exact Hub.performAll_append _ _ _
      have ended : (e.receive id bytes clock).hub.router.isRegistered q =
          (h₁.performAll (h₁.finishes [id])).router.isRegistered q := by
        rw [dealt]
        rfl
      rw [ended, Hub.isRegistered_finish_iff registered,
        missedIn_receiveActs_of_badLength known cut clock, List.mem_append, kept, marked]
      refine and_congr_right fun registered => ?_
      rw [and_iff_left registered, not_or]
      exact and_congr_left' (not_congr (and_iff_left ⟨length, rfl⟩).symm)

/-- A session whose reader stays misses nothing when bytes are dealt with. -/
theorem not_mem_missedIn_receiveActs (ok : e.hub.Orderly)
    (staying : (e.hub.router.session? q).map Session.reader = some .staying) (clock : Clock) :
    q ∉ e.hub.missedIn (e.receiveActs id bytes clock) := by
  have enabled := e.enabled_receiveActs id bytes clock
  rcases cut : Framing.split e.maxFrameSize (s.inbound ++ bytes) with ⟨frames, rest, stop⟩
  let h := e.hub.rebuffer id rest
  let h₁ := h.performAll (Act.answers id clock frames)
  have reads : (h.router.session? q).map Session.reader = some .staying := by
    have kept := Router.Agrees.updateSession e.hub.router id (f := fun s => s.withInbound rest)
      fun _ => rfl
    exact (kept.readers q).trans staying
  obtain ⟨answered, readsThen⟩ := Hub.not_mem_missedIn_answers reads id clock frames
  have staysThen : ∀ t, h₁.router.session? q = some t → t.reader = .staying := by
    intro t found
    rw [found, Option.map_some] at readsThen
    exact Option.some.inj readsThen
  have orderly : ∀ rest, Hub.Along Act.Enabled h (Act.answers id clock frames ++ rest) →
      h₁.Orderly := fun rest along =>
    Hub.performAll_keeps (fun h a => Hub.orderly_perform) (Hub.along_append.mp along).1
      (ok.amend id _)
  cases stop with
  | wantsMore =>
      rw [receiveActs_of_wantsMore known cut clock] at enabled
      have okThen := (orderly _ enabled.2).clearMarks
      rw [missedIn_receiveActs_of_wantsMore known cut clock, List.mem_append, not_or]
      exact ⟨answered, Hub.not_mem_missedIn_finishes okThen staysThen h₁.takeFailed.1⟩
  | badLength length =>
      rw [receiveActs_of_badLength known cut clock] at enabled
      have okThen := orderly _ enabled.2
      rw [missedIn_receiveActs_of_badLength known cut clock, List.mem_append, not_or]
      exact ⟨answered, Hub.not_mem_missedIn_finishes okThen staysThen [id]⟩

end Bytes

/-- After a move exactly those are connected that were so before or connect in it, apart from a session
that is ended by name, one that sends a length that cannot be accepted, and those that miss a frame. -/
theorem isRegistered_move_iff {e : Engine σ} (clear : e.hub.router.failed = []) (m : Move)
    (q : SessionId) :
    (e.move m).hub.router.isRegistered q = true ↔
      (e.hub.router.isRegistered q = true ∨ ∃ host reader, m = .event (.connected q host reader)) ∧
        ¬ (m = .event (.disconnected q) ∨ e.Misframes q m ∨
          q ∈ e.hub.missedIn (e.actsOf m)) := by
  cases m with
  | retire id after =>
      have kept : (e.move (.retire id after)).hub.router.isRegistered q =
          e.hub.router.isRegistered q := Router.isRegistered_updateSession _ _ _ _
      have silent : e.hub.missedIn (e.actsOf (.retire id after)) = [] := rfl
      rw [kept, silent]
      simp [Misframes]
  | event event =>
      cases event with
      | connected id host reader =>
          have silent : e.hub.missedIn (e.actsOf (.event (.connected id host reader))) = [] := rfl
          have joined := e.hub.router.session?_register { id, host, reader } q
          have known : (e.move (.event (.connected id host reader))).hub.router.isRegistered q =
              ((e.hub.router.register { id, host, reader }).session? q).isSome := rfl
          rw [known, joined, silent]
          by_cases same : q = id
          · simp [same, Misframes]
          · simp [same, Ne.symm same, Misframes, Router.isRegistered_eq_isSome]
      | data id bytes clock =>
          cases known : e.hub.router.session? id with
          | none =>
              have same : e.move (.event (.data id bytes clock)) = e := by
                rw [move, step, receive, known]
              have silent : e.hub.missedIn (e.actsOf (.event (.data id bytes clock))) = [] := by
                rw [actsOf, receiveActs, known]
                rfl
              have framed : ¬ e.Misframes q (.event (.data id bytes clock)) := by
                rintro ⟨_, _, s, _, same, found, _⟩
                cases same
                cases known.symm.trans found
              rw [same, silent]
              simp [framed]
          | some s =>
              have framing : e.Misframes q (.event (.data id bytes clock)) ↔
                  q = id ∧ ∃ length,
                    (Framing.split e.maxFrameSize (s.inbound ++ bytes)).stop =
                      .badLength length := by
                constructor
                · rintro ⟨_, _, t, length, same, found, stop⟩
                  cases same
                  cases known.symm.trans found
                  exact ⟨rfl, length, stop⟩
                · rintro ⟨rfl, length, stop⟩
                  exact ⟨bytes, clock, s, length, rfl, known, stop⟩
              rw [framing]
              refine (isRegistered_receive_iff known clear clock).trans ?_
              simp [actsOf]
      | disconnected id =>
          have ended : (e.move (.event (.disconnected id))).hub.router.isRegistered q = true ↔
              e.hub.router.isRegistered q = true ∧ q ∉ e.hub.endings [id] :=
            Hub.isRegistered_endSessions_iff
          have framed : ¬ e.Misframes q (.event (.disconnected id)) := by
            rintro ⟨_, _, _, _, same, _⟩
            cases same
          have named : Move.event (.disconnected id) = .event (.disconnected q) ↔ q = id := by
            rw [Move.event.injEq, Event.disconnected.injEq, eq_comm]
          have acts : e.actsOf (.event (.disconnected id)) = e.hub.finishes [id] := rfl
          rw [ended, Hub.mem_endings_iff, clear, named, acts]
          simp only [framed, List.mem_singleton, List.not_mem_nil, reduceCtorEq, Move.event.injEq,
            exists_false, false_and, or_false, false_or]
          refine and_congr_right fun known => ?_
          rw [and_iff_right known]
      | shutdown =>
          have kept : (e.move (.event .shutdown)).hub.router = e.hub.router := e.hub.router_flush
          have silent : e.hub.missedIn (e.actsOf (.event .shutdown)) = [] := rfl
          rw [kept, silent]
          simp [Misframes]

/-- A session whose reader stays misses nothing in a move. -/
theorem not_mem_missedIn_actsOf {e : Engine σ} (ok : e.hub.Orderly) {q : SessionId} {s : Session}
    (known : e.hub.router.session? q = some s) (staying : s.reader = .staying) (m : Move) :
    q ∉ e.hub.missedIn (e.actsOf m) := by
  have reads : ∀ t, e.hub.router.session? q = some t → t.reader = .staying := by
    intro t found
    cases known.symm.trans found
    exact staying
  cases m with
  | retire id after => exact List.not_mem_nil
  | event event =>
      cases event with
      | connected id host reader => exact List.not_mem_nil
      | shutdown => exact List.not_mem_nil
      | disconnected id => exact Hub.not_mem_missedIn_finishes ok reads [id]
      | data id bytes clock =>
          have reader : (e.hub.router.session? q).map Session.reader = some .staying := by
            rw [known, Option.map_some, staying]
          cases sender : e.hub.router.session? id with
          | some _ => exact not_mem_missedIn_receiveActs sender ok reader clock
          | none =>
              rw [actsOf, receiveActs, sender]
              exact List.not_mem_nil

end Engine

/-- In every run, whatever queues have lost their reader, every move deals with the sessions that fail
in it to the end.  Ending a session or those that have failed, each of which may go on to the other,
comes to an end with exactly one outcome, and no session is ended twice.  Every session that misses a
frame in the move, be it one that is sent because another session ends, is gone afterwards, and has
nothing open and no lock; the missed frames are as many as are counted.  And nobody else is gone, apart
from a session that is ended by name or sends a length that cannot be accepted: a session whose reader
stays misses nothing. -/
theorem reaping_in_every_run {σ : Type} [Store σ] (store : σ) (maxFrameSize : Nat)
    (moves : List Move) (m : Move) :
    let e := (Engine.start store maxFrameSize).after moves
    let h' := (e.move m).hub
    let missed := e.hub.missedIn (e.actsOf m)
    (∀ (h h' : Hub σ) t ended,
      (Hub.Cascade t h ended h' ↔ (ended, h') = h.outcomeOf t) ∧ (h.outcomeOf t).1.Nodup) ∧
    h'.router.stats.failedDeliveries = e.hub.router.stats.failedDeliveries + missed.length ∧
    (∀ q ∈ missed, h'.router.isRegistered q = false ∧ (∀ map, ¬ h'.ViewsMap q map) ∧
      (∀ node, ¬ h'.ViewsNode q node) ∧
      ∀ node n, h'.nodes.get? node = some n → n.isHeldBy q = false) ∧
    (∀ q, h'.router.isRegistered q = true ↔
      (e.hub.router.isRegistered q = true ∨ ∃ host reader, m = .event (.connected q host reader)) ∧
        ¬ (m = .event (.disconnected q) ∨ e.Misframes q m ∨ q ∈ missed)) ∧
    ∀ q s, e.hub.router.session? q = some s → s.reader = .staying → q ∉ missed := by
  intro e h' missed
  have ok : e.hub.Orderly := Engine.orderly_after (Hub.Orderly.start store) moves
  have okAfter : h'.Orderly := Engine.orderly_after ok [m]
  have clear : e.hub.router.failed = [] := Engine.failed_after rfl moves
  have connected := Engine.isRegistered_move_iff clear m
  refine ⟨?_, ?_, ?_, connected, ?_⟩
  · intro h h' t ended
    refine ⟨Hub.cascade_iff, ?_⟩
    cases t with
    | disconnect id => exact (h.nodup_endings [id]).1
    | each ids => exact (h.nodup_endings ids).1
    | reap => exact (h.takeFailed.2.nodup_endings h.takeFailed.1).1
  · have counted := e.hub.failedDeliveries_performAll (e.actsOf m)
    rwa [← Engine.hub_move] at counted
  · intro q member
    have unknown : h'.router.isRegistered q = false := by
      rw [← Bool.not_eq_true]
      exact fun still => ((connected q).mp still).2 (.inr (.inr member))
    exact ⟨unknown, okAfter.empty_handed unknown⟩
  · exact fun q s known staying => Engine.not_mem_missedIn_actsOf ok known staying m

end TopoSync
