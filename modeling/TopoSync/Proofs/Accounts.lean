import Mathlib
import TopoSync.Proofs.Attempts

/-!
# What the router keeps count of

Each connected session has a line: the queue that its frames go to and the reader of that queue.  What
becomes of the frames for a session depends on its own line alone, and every frame that was to be sent is
found either in a queue or among the failures.
-/

namespace TopoSync

namespace QueueReader

/-- The reader when it is to go away after some more frames, unless it does so before. -/
def retire (r : QueueReader) (after : Nat) : QueueReader :=
  match r with
  | staying => leaving after
  | leaving left => leaving (min left after)

end QueueReader

/-- What stands behind a connected session: the queue of its frames and the reader of that queue. -/
structure Line where
  queue : Nat
  reader : QueueReader
deriving DecidableEq, Repr

/-- A frame in a queue. -/
structure Posting where
  queue : Nat
  frame : Frame
deriving DecidableEq, Repr

namespace Line

/-- What of some frames gets into the queue behind a session that may be connected. -/
def post (line : Option Line) (frames : List Frame) : List Posting :=
  match line with
  | none => []
  | some l => (l.reader.taken frames).map fun f => ⟨l.queue, f⟩

/-- The line of a session after a call.  The frames that the call has for the session are offered to
its reader; calls that name other sessions, and frames for them, make no difference. -/
def next (id : SessionId) (line : Option Line) (c : RouterCall) : Option Line :=
  match c with
  | .register s queue => if s.id = id then some ⟨queue, s.reader⟩ else line
  | .unregister q => if q = id then none else line
  | .retire q after => if q = id then line.map fun l => { l with reader := l.reader.retire after } else line
  | c => line.map fun l => { l with reader := l.reader.after (addressed id c.attempts).length }

/-- The line of a session after some calls. -/
def after (id : SessionId) (line : Option Line) (calls : List RouterCall) : Option Line :=
  calls.foldl (next id) line

/-- What gets into queues for a session in the course of some calls. -/
def posts (id : SessionId) : Option Line → List RouterCall → List Posting
  | _, [] => []
  | line, c :: rest => post line (addressed id c.attempts) ++ posts id (next id line c) rest

end Line

/-- A router with the queues behind its sessions. -/
structure Switchboard where
  router : Router := {}
  /-- The queues of the connected sessions. -/
  queues : Table SessionId Nat := ∅
  /-- Everything that was put into a queue, with the session that it was for, oldest first. -/
  posted : List (SessionId × Posting) := []

namespace Switchboard

/-- A frame for a session goes into the queue of that session. -/
def address? (w : Switchboard) (e : SessionId × Frame) : Option (SessionId × Posting) :=
  (w.queues.get? e.1).map fun queue => (e.1, ⟨queue, e.2⟩)

/-- What a call puts into queues: the frames that the router then has queued besides those before. -/
def postings (w : Switchboard) (c : RouterCall) : List (SessionId × Posting) :=
  ((w.router.call c).sent.drop w.router.sent.length).filterMap w.address?

/-- The switchboard after a call. -/
def call (w : Switchboard) (c : RouterCall) : Switchboard where
  router := w.router.call c
  queues := c.rewire w.queues
  posted := w.posted ++ w.postings c

/-- The switchboard after some calls. -/
def after (w : Switchboard) (calls : List RouterCall) : Switchboard :=
  calls.foldl call w

/-- The frames in a queue, oldest first. -/
def contents (w : Switchboard) (queue : Nat) : List Frame :=
  (w.posted.filter fun p => p.2.queue = queue).map fun p => p.2.frame

/-- The line of a session. -/
def line (w : Switchboard) (id : SessionId) : Option Line :=
  (w.router.session? id).bind fun s => (w.queues.get? id).map fun queue => ⟨queue, s.reader⟩

/-- What holds of a switchboard at any time: the sessions with a queue are those that are connected,
whatever was put into a queue is counted, and those marked as failed are distinct connected sessions. -/
structure Accounted (w : Switchboard) : Prop where
  wired : ∀ id, (w.queues.get? id).isSome = w.router.isRegistered id
  frames : w.router.stats.framesSent = w.posted.length
  bytes : w.router.stats.bytesSent = (w.posted.map fun p => p.2.frame.length).sum
  distinct : w.router.failed.Nodup
  connected : ∀ id ∈ w.router.failed, w.router.isRegistered id = true

theorem accounted_start : Accounted {} where
  wired _ := rfl
  frames := rfl
  bytes := rfl
  distinct := List.nodup_nil
  connected := by simp

variable {w : Switchboard}

theorem postings_eq (w : Switchboard) (c : RouterCall) :
    w.postings c = (w.router.accepted c.attempts).filterMap w.address? := by
  rw [postings, Router.sent_call, List.drop_left]

section Calls

variable (ok : w.Accounted) (c : RouterCall)

include ok

/-- Every frame that is queued finds a queue behind its session. -/
theorem map_postings :
    (w.postings c).map (fun p => (p.1, p.2.frame)) = w.router.accepted c.attempts := by
  rw [postings_eq, List.map_filterMap]
  calc
    (w.router.accepted c.attempts).filterMap
        (fun e => (w.address? e).map fun p => (p.1, p.2.frame)) =
      (w.router.accepted c.attempts).filterMap some := by
        apply List.filterMap_congr
        intro e queued
        have known := (ok.wired e.1).trans (Router.isRegistered_of_mem_accepted queued)
        obtain ⟨queue, found⟩ := Option.isSome_iff_exists.mp known
        rw [address?, found]
        rfl
    _ = w.router.accepted c.attempts := List.filterMap_some

/-- A session has a queue after a call exactly if it is connected then. -/
theorem wired_call (id : SessionId) :
    ((w.call c).queues.get? id).isSome = (w.call c).router.isRegistered id := by
  have before := ok.wired id
  cases c with
  | register s queue =>
      rw [Router.isRegistered_eq_isSome, call, RouterCall.rewire, Router.call, Table.get?_insert,
        Router.session?_register]
      by_cases same : id = s.id
      · rw [if_pos same, if_pos same]
        rfl
      · rw [if_neg same, if_neg same]
        exact before
  | unregister q =>
      rw [Router.isRegistered_eq_isSome, call, RouterCall.rewire, Router.call, Table.get?_erase,
        Router.session?_unregister]
      by_cases same : id = q
      · rw [if_pos same, if_pos same]
        rfl
      · rw [if_neg same, if_neg same]
        exact before
  | send q f => exact before.trans (w.router.isRegistered_deliver [(q, f)] id).symm
  | broadcast recipients f leftOut => exact before.trans (w.router.isRegistered_deliver _ id).symm
  | takeFailed => exact before
  | retire q after => exact before.trans (w.router.isRegistered_updateSession q _ id).symm

/-- Only connected sessions are marked as failed after a call. -/
theorem connected_call : ∀ id ∈ (w.call c).router.failed, (w.call c).router.isRegistered id = true := by
  intro id marked
  have delivered : ∀ frames : List (SessionId × Frame), id ∈ (w.router.deliver frames).2.failed →
      (w.router.deliver frames).2.isRegistered id = true := by
    intro frames marked
    rw [Router.isRegistered_deliver]
    exact (Router.failed_deliver marked).elim (ok.connected id) fun registered => registered
  cases c with
  | register s queue =>
      have before := ok.connected id marked
      rw [Router.isRegistered_eq_isSome] at before
      rw [call, Router.call, Router.isRegistered_eq_isSome, Router.session?_register]
      split
      · rfl
      · exact before
  | unregister q =>
      obtain ⟨before, other⟩ := List.mem_filter.mp marked
      have kept := ok.connected id before
      rw [Router.isRegistered_eq_isSome] at kept
      rw [call, Router.call, Router.isRegistered_eq_isSome, Router.session?_unregister,
        if_neg (of_decide_eq_true other)]
      exact kept
  | send q f => exact delivered [(q, f)] marked
  | broadcast recipients f leftOut => exact delivered _ marked
  | takeFailed => cases marked
  | retire q after => exact (w.router.isRegistered_updateSession q _ id).trans (ok.connected id marked)

theorem Accounted.call : (w.call c).Accounted := by
  obtain ⟨frames, bytes, _⟩ := w.router.stats_call c
  have same := map_postings ok c
  constructor
  case wired => exact wired_call ok c
  case frames =>
    calc
      (w.router.call c).stats.framesSent =
          w.router.stats.framesSent + (w.router.accepted c.attempts).length := frames
      _ = w.posted.length + (w.postings c).length := by rw [ok.frames, ← same, List.length_map]
      _ = (w.posted ++ w.postings c).length := List.length_append.symm
  case bytes =>
    calc
      (w.router.call c).stats.bytesSent =
          w.router.stats.bytesSent + ((w.router.accepted c.attempts).map fun e => e.2.length).sum :=
        bytes
      _ = (w.posted.map fun p => p.2.frame.length).sum +
          ((w.postings c).map fun p => p.2.frame.length).sum := by
        rw [ok.bytes, ← same, List.map_map]
        rfl
      _ = ((w.posted ++ w.postings c).map fun p => p.2.frame.length).sum := by
        rw [List.map_append, List.sum_append]
  case distinct =>
    cases c with
    | register | retire => exact ok.distinct
    | unregister id => exact ok.distinct.filter _
    | send id f => exact Router.nodup_failed_deliver ok.distinct [(id, f)]
    | broadcast recipients f leftOut => exact Router.nodup_failed_deliver ok.distinct _
    | takeFailed => exact List.nodup_nil
  case connected => exact connected_call ok c

end Calls

/-- The line of a session after a call depends on its line before. -/
theorem line_call (w : Switchboard) (c : RouterCall) (id : SessionId) :
    (w.call c).line id = Line.next id (w.line id) c := by
  have delivered : ∀ frames : List (SessionId × Frame),
      ((w.router.deliver frames).2.session? id).bind
          (fun s => (w.queues.get? id).map fun queue => (⟨queue, s.reader⟩ : Line)) =
        (w.line id).map fun l => { l with reader := l.reader.after (addressed id frames).length } := by
    intro frames
    rw [Router.session?_deliver, line]
    cases w.router.session? id with
    | none => rfl
    | some s => cases w.queues.get? id <;> rfl
  cases c with
  | register s queue =>
      rw [line, call, Router.call, RouterCall.rewire, Router.session?_register, Table.get?_insert,
        Line.next]
      by_cases same : s.id = id
      · rw [if_pos same.symm, if_pos same.symm, if_pos same]
        rfl
      · rw [if_neg (Ne.symm same), if_neg (Ne.symm same), if_neg same, line]
  | unregister q =>
      rw [line, call, Router.call, RouterCall.rewire, Router.session?_unregister, Table.get?_erase,
        Line.next]
      by_cases same : q = id
      · rw [if_pos same.symm, if_pos same, Option.bind_none]
      · rw [if_neg (Ne.symm same), if_neg (Ne.symm same), if_neg same, line]
  | send q f => exact delivered [(q, f)]
  | broadcast recipients f leftOut => exact delivered _
  | takeFailed =>
      have nothing : (addressed id RouterCall.takeFailed.attempts).length = 0 := rfl
      show w.line id = (w.line id).map fun l =>
        { l with reader := l.reader.after (addressed id RouterCall.takeFailed.attempts).length }
      simp [nothing]
  | retire q after =>
      rw [line, call, Router.call, RouterCall.rewire, Line.next, Router.retireReader,
        Router.session?_updateSession]
      by_cases same : q = id
      · rw [if_pos same.symm, if_pos same, line]
        cases w.router.session? id with
        | none => rfl
        | some s =>
            cases reader : s.reader <;> cases w.queues.get? id <;>
              simp [reader, QueueReader.retire]
      · rw [if_neg (Ne.symm same), if_neg same, line]

theorem addressed_filterMap_address? (w : Switchboard) (id : SessionId)
    (frames : List (SessionId × Frame)) :
    addressed id (frames.filterMap w.address?) =
      match w.queues.get? id with
      | none => []
      | some queue => (addressed id frames).map fun f => ⟨queue, f⟩ := by
  induction frames with
  | nil => cases w.queues.get? id <;> rfl
  | cons e rest ih =>
      by_cases same : e.1 = id
      · subst same
        cases found : w.queues.get? e.1 with
        | none =>
            rw [found] at ih
            rw [List.filterMap_cons_none (by rw [address?, found]; rfl), ih]
        | some queue =>
            rw [found] at ih
            rw [List.filterMap_cons_some (b := (e.1, ⟨queue, e.2⟩)) (by rw [address?, found]; rfl),
              addressed_cons, addressed_cons, if_pos rfl, if_pos rfl, ih]
            rfl
      · have skip : addressed id ((e :: rest).filterMap w.address?) =
            addressed id (rest.filterMap w.address?) := by
          cases found : w.queues.get? e.1 with
          | none => rw [List.filterMap_cons_none (by rw [address?, found]; rfl)]
          | some queue =>
              rw [List.filterMap_cons_some (b := (e.1, ⟨queue, e.2⟩)) (by rw [address?, found]; rfl),
                addressed_cons, if_neg same, List.nil_append]
        rw [skip, ih, addressed_cons, if_neg same, List.nil_append]

/-- What a call puts into a queue for a session depends on the line of the session, and on what the
call has for the session. -/
theorem addressed_postings (w : Switchboard) (c : RouterCall) (id : SessionId) :
    addressed id (w.postings c) = Line.post (w.line id) (addressed id c.attempts) := by
  have taken := w.router.addressed_sent_deliver c.attempts id
  rw [Router.sent_deliver, addressed_append, List.append_cancel_left_eq] at taken
  rw [postings_eq, addressed_filterMap_address?, taken, line]
  cases w.router.session? id with
  | none => cases w.queues.get? id <;> rfl
  | some s => cases w.queues.get? id <;> rfl

section Runs

variable (calls : List RouterCall)

theorem Accounted.after (ok : w.Accounted) : (w.after calls).Accounted := by
  induction calls generalizing w with
  | nil => exact ok
  | cons c rest ih => exact ih (ok.call c)

theorem line_after (w : Switchboard) (id : SessionId) :
    (w.after calls).line id = Line.after id (w.line id) calls := by
  induction calls generalizing w with
  | nil => rfl
  | cons c rest ih => exact (ih (w.call c)).trans (by rw [line_call]; rfl)

/-- Every session gets what its own line says. -/
theorem addressed_posted_after (w : Switchboard) (id : SessionId) :
    addressed id (w.after calls).posted = addressed id w.posted ++ Line.posts id (w.line id) calls := by
  induction calls generalizing w with
  | nil => exact (List.append_nil _).symm
  | cons c rest ih =>
      calc
        addressed id ((w.call c).after rest).posted =
            addressed id (w.posted ++ w.postings c) ++ Line.posts id ((w.call c).line id) rest :=
          ih (w.call c)
        _ = addressed id w.posted ++ (Line.post (w.line id) (addressed id c.attempts) ++
            Line.posts id (Line.next id (w.line id) c) rest) := by
          rw [addressed_append, addressed_postings, line_call, List.append_assoc]

/-- Every attempt is counted as a success or as a failure. -/
theorem attempts_after (w : Switchboard) :
    (w.after calls).router.stats.framesSent + (w.after calls).router.stats.failedDeliveries =
      w.router.stats.framesSent + w.router.stats.failedDeliveries +
        (calls.flatMap RouterCall.attempts).length := by
  induction calls generalizing w with
  | nil => rfl
  | cons c rest ih =>
      obtain ⟨sent, _, failed⟩ := w.router.stats_call c
      have later := ih (w.call c)
      change _ = (w.router.call c).stats.framesSent + (w.router.call c).stats.failedDeliveries + _
        at later
      rw [List.flatMap_cons, List.length_append]
      exact later.trans (by omega)

/-- Frames get into queues in the order of the calls, each at most once. -/
theorem posted_after (ok : w.Accounted) :
    ∃ new, (w.after calls).posted = w.posted ++ new ∧
      (new.map fun p => (p.1, p.2.frame)).Sublist (calls.flatMap RouterCall.attempts) := by
  induction calls generalizing w with
  | nil => exact ⟨[], (List.append_nil _).symm, .slnil⟩
  | cons c rest ih =>
      obtain ⟨new, posted, ordered⟩ := ih (ok.call c)
      refine ⟨w.postings c ++ new, ?_, ?_⟩
      · rw [← List.append_assoc]
        exact posted
      · rw [List.map_append, map_postings ok, List.flatMap_cons]
        exact (w.router.accepted_sublist c.attempts).append ordered

/-- Counters in words show the totals as long as words can hold what was attempted. -/
theorem exact_after (frames : (calls.flatMap RouterCall.attempts).length < UInt64.size)
    (bytes : ((calls.flatMap RouterCall.attempts).map fun e => e.2.length).sum < UInt64.size) :
    (after {} calls).router.stats.Exact := by
  have all : (after {} calls).router.stats.framesSent +
      (after {} calls).router.stats.failedDeliveries =
        (calls.flatMap RouterCall.attempts).length :=
    (attempts_after calls {}).trans (Nat.zero_add _)
  have sent : (after {} calls).router.stats.bytesSent ≤
      ((calls.flatMap RouterCall.attempts).map fun e => e.2.length).sum := by
    obtain ⟨new, posted, ordered⟩ := posted_after calls accounted_start
    have lengths := ordered.map fun e => e.2.length
    rw [List.map_map] at lengths
    rw [(accounted_start.after calls).bytes, show (after {} calls).posted = new from posted]
    exact lengths.sum_le_sum fun _ _ => Nat.zero_le _
  have some := Nat.le.intro all
  have others := Nat.le.intro ((Nat.add_comm _ _).trans all)
  exact DeliveryStats.exact_of_lt (Nat.lt_of_le_of_lt some frames) (Nat.lt_of_le_of_lt sent bytes)
    (Nat.lt_of_le_of_lt others frames)

end Runs

/-- The queues that some calls bring along. -/
def queuesOf (calls : List RouterCall) : Finset Nat :=
  (calls.filterMap RouterCall.queue?).toFinset

/-- The queues that are known are among those brought along so far. -/
structure Within (w : Switchboard) (queues : Finset Nat) : Prop where
  posted : ∀ p ∈ w.posted, p.2.queue ∈ queues
  wired : ∀ id queue, w.queues.get? id = some queue → queue ∈ queues

theorem Within.call {queues : Finset Nat} (within : w.Within queues) {c : RouterCall}
    (brought : ∀ queue, c.queue? = some queue → queue ∈ queues) : (w.call c).Within queues := by
  constructor
  · intro p member
    rcases List.mem_append.mp member with before | now
    · exact within.posted p before
    · rw [postings_eq, List.mem_filterMap] at now
      obtain ⟨e, _, addressed⟩ := now
      obtain ⟨queue, found, rfl⟩ := Option.map_eq_some_iff.mp addressed
      exact within.wired e.1 queue found
  · intro id queue found
    cases c with
    | register s new =>
        rw [Switchboard.call, RouterCall.rewire, Table.get?_insert] at found
        split at found
        · cases found
          exact brought _ rfl
        · exact within.wired id queue found
    | unregister q =>
        rw [Switchboard.call, RouterCall.rewire, Table.get?_erase] at found
        split at found
        · cases found
        · exact within.wired id queue found
    | _ => exact within.wired id queue found

theorem Within.after {queues : Finset Nat} (within : w.Within queues) {calls : List RouterCall}
    (brought : ∀ c ∈ calls, ∀ queue, c.queue? = some queue → queue ∈ queues) :
    (w.after calls).Within queues := by
  induction calls generalizing w with
  | nil => exact within
  | cons c rest ih =>
      obtain ⟨first, others⟩ := List.forall_mem_cons.mp brought
      exact ih (within.call first) others

/-- Frames are only put into queues that some call brought along. -/
theorem within_after (calls : List RouterCall) :
    (after {} calls).Within (queuesOf calls) := by
  have nothing : Within {} (queuesOf calls) := ⟨by simp, fun _ _ found => by cases found⟩
  apply nothing.after
  intro c member queue brings
  rw [queuesOf, List.mem_toFinset, List.mem_filterMap]
  exact ⟨c, member, brings⟩

/-- What is put into queues is added up queue by queue. -/
theorem sum_contents {queues : Finset Nat} (within : w.Within queues) (weight : Frame → Nat) :
    ∑ queue ∈ queues, ((w.contents queue).map weight).sum =
      (w.posted.map fun p => weight p.2.frame).sum := by
  have all := within.posted
  unfold contents
  generalize w.posted = log at all ⊢
  induction log with
  | nil => simp
  | cons p rest ih =>
      obtain ⟨known, others⟩ := List.forall_mem_cons.mp all
      have first : ∀ queue, ((((p :: rest).filter fun p => p.2.queue = queue).map
          fun p => p.2.frame).map weight).sum =
            (if p.2.queue = queue then weight p.2.frame else 0) +
              (((rest.filter fun p => p.2.queue = queue).map fun p => p.2.frame).map weight).sum := by
        intro queue
        by_cases here : p.2.queue = queue <;> simp [here]
      calc
        ∑ queue ∈ queues, ((((p :: rest).filter fun p => p.2.queue = queue).map
            fun p => p.2.frame).map weight).sum =
          (∑ queue ∈ queues, if p.2.queue = queue then weight p.2.frame else 0) +
            ∑ queue ∈ queues, (((rest.filter fun p => p.2.queue = queue).map
              fun p => p.2.frame).map weight).sum := by
          rw [← Finset.sum_add_distrib]
          exact Finset.sum_congr rfl fun queue _ => first queue
        _ = weight p.2.frame + (rest.map fun p => weight p.2.frame).sum := by
          rw [ih others, Finset.sum_ite_eq, if_pos known]
        _ = ((p :: rest).map fun p => weight p.2.frame).sum := by
          rw [List.map_cons, List.sum_cons]

/-- What a call puts into queues for one session only can be told from what it puts there. -/
theorem eq_map_addressed {α : Type} {id : SessionId} {log : List (SessionId × α)}
    (own : ∀ e ∈ log, e.1 = id) : log = (addressed id log).map fun a => (id, a) := by
  induction log with
  | nil => rfl
  | cons e rest ih =>
      obtain ⟨first, others⟩ := List.forall_mem_cons.mp own
      rw [addressed_cons, if_pos first, List.singleton_append, List.map_cons, ← ih others, ← first]

/-- A frame that is sent gets into the queue of its recipient only. -/
theorem postings_send (ok : w.Accounted) (id : SessionId) (f : Frame) :
    w.postings (.send id f) = (Line.post (w.line id) [f]).map fun p => (id, p) := by
  have own : ∀ e ∈ w.postings (.send id f), e.1 = id := by
    intro e member
    have queued : (e.1, e.2.frame) ∈ w.router.accepted [(id, f)] := by
      have listed := map_postings ok (.send id f)
      rw [← show _ = w.router.accepted [(id, f)] from listed]
      exact List.mem_map_of_mem member
    have among := (w.router.accepted_sublist [(id, f)]).subset queued
    exact congrArg Prod.fst (List.mem_singleton.mp among)
  have offered : addressed id (RouterCall.send id f).attempts = [f] := by
    simp [RouterCall.attempts, addressed_cons]
  rw [eq_map_addressed own, addressed_postings, offered]

/-- A session listens if its line has an open reader. -/
theorem any_isOpen_line (ok : w.Accounted) (id : SessionId) :
    ((w.line id).any fun l => l.reader.isOpen) = w.router.listens id := by
  have wired := ok.wired id
  rw [Router.isRegistered_eq_isSome] at wired
  rw [line, Router.listens]
  cases known : w.router.session? id with
  | none => rfl
  | some s =>
      rw [known] at wired
      obtain ⟨queue, found⟩ := Option.isSome_iff_exists.mp wired
      rw [found]
      rfl

/-- A broadcast has its frame for each recipient but the one left out, as often as it is listed. -/
theorem addressed_broadcast (recipients : List SessionId) (f : Frame) (leftOut : Option SessionId)
    (id : SessionId) :
    addressed id (RouterCall.broadcast recipients f leftOut).attempts =
      if leftOut = some id then [] else List.replicate (recipients.count id) f := by
  rw [RouterCall.attempts]
  induction recipients with
  | nil => split <;> rfl
  | cons q rest ih =>
      by_cases out : leftOut = some q
      · rw [List.filter_cons_of_neg (by simpa using out), ih, List.count_cons]
        by_cases same : q = id
        · rw [same] at out
          rw [if_pos out, if_pos out]
        · simp [same]
      · rw [List.filter_cons_of_pos (by simpa using out), List.map_cons, addressed_cons, ih,
          List.count_cons]
        by_cases same : q = id
        · subst same
          simp [out, List.replicate_succ]
        · simp [same]

end Switchboard

open Switchboard in
/-- Whatever a new router is asked to do, in any order and with readers of queues going away at any
time: it has counted as sent the frames in all queues, and their bytes, and as failed the other attempts;
words of 64 bits show these totals as long as fewer than 2 ^ 64 frames and bytes were to be sent.  The
frames in the queues are among the attempts, in the same order and each at most once; what is there
for a session is what its own line says, which changes with the calls that name the session only.  The
next frame sent to a session is queued, and said to be queued, if and only if the session is connected
and its queue has a reader; the next broadcast offers its frame to each recipient but the one left out,
as often as it is listed and whatever becomes of the others, and tells how many frames it queued.  The
sessions marked as failed are distinct, and each of them is connected. -/
theorem deliveries_accounted_for (calls : List RouterCall) :
    let w := Switchboard.after {} calls
    let line := fun id => Line.after id none calls
    (w.router.stats.framesSent = ∑ queue ∈ queuesOf calls, (w.contents queue).length ∧
      w.router.stats.bytesSent =
        ∑ queue ∈ queuesOf calls, ((w.contents queue).map Frame.length).sum ∧
      w.router.stats.framesSent + w.router.stats.failedDeliveries =
        (calls.flatMap RouterCall.attempts).length ∧
      ((calls.flatMap RouterCall.attempts).length < 2 ^ 64 →
        ((calls.flatMap RouterCall.attempts).map fun e => e.2.length).sum < 2 ^ 64 →
        w.router.stats.Exact)) ∧
    ((w.posted.map fun p => (p.1, p.2.frame)).Sublist (calls.flatMap RouterCall.attempts) ∧
      ∀ id, addressed id w.posted = Line.posts id none calls) ∧
    (∀ id f, w.postings (.send id f) =
        (Line.post (line id) [f]).map (fun p => (id, p)) ∧
      (w.router.send id f).1 = (line id).any fun l => l.reader.isOpen) ∧
    (∀ recipients f leftOut,
      (∀ id, addressed id (w.postings (.broadcast recipients f leftOut)) =
        if leftOut = some id then [] else
          Line.post (line id) (List.replicate (recipients.count id) f)) ∧
      (w.router.broadcast recipients f leftOut).1 =
        (w.postings (.broadcast recipients f leftOut)).length) ∧
    w.router.failed.Nodup ∧ ∀ id ∈ w.router.failed, w.router.isRegistered id = true := by
  intro w line
  have ok : w.Accounted := accounted_start.after calls
  have within : w.Within (queuesOf calls) := within_after calls
  have lines : ∀ id, w.line id = line id := line_after calls {}
  refine ⟨⟨?_, ?_, ?_, exact_after calls⟩, ⟨?_, ?_⟩, ?_, ?_, ok.distinct, ok.connected⟩
  · have one := sum_contents within fun _ => 1
    simp only [List.map_const', List.sum_replicate, smul_eq_mul, mul_one] at one
    exact ok.frames.trans one.symm
  · exact ok.bytes.trans (sum_contents within Frame.length).symm
  · exact (attempts_after calls {}).trans (Nat.zero_add _)
  · obtain ⟨new, posted, ordered⟩ := posted_after calls accounted_start
    rw [show w.posted = new from posted]
    exact ordered
  · exact addressed_posted_after calls {}
  · intro id f
    rw [← lines, any_isOpen_line ok]
    exact ⟨postings_send ok id f, w.router.send_fst id f⟩
  · intro recipients f leftOut
    constructor
    · intro id
      rw [addressed_postings, addressed_broadcast, lines]
      split
      · cases line id with
        | none => rfl
        | some l => exact congrArg _ (l.reader.taken_nil)
      · rfl
    · rw [← List.length_map (fun p : SessionId × Posting => (p.1, p.2.frame)), map_postings ok]
      exact w.router.fst_deliver _

end TopoSync
