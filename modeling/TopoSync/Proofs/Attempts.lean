import Mathlib.Algebra.Ring.Nat
import Mathlib.Data.List.Nodup
import TopoSync.Proofs.Delivery

/-!
# Attempts to send frames

A router is asked to connect and disconnect sessions and to queue frames to them, in any order, while
the readers of its queues go away as they like.  Each call has some frames to be sent; each of these is
queued or missed, and counted as the one or the other.
-/

namespace TopoSync

/-- What a router is asked to do, and what the readers of its queues do meanwhile. -/
inductive RouterCall
  /-- A session is connected, in place of one with the same number; its frames go to a queue. -/
  | register (s : Session) (queue : Nat)
  | unregister (id : SessionId)
  | send (id : SessionId) (f : Frame)
  | broadcast (recipients : List SessionId) (f : Frame) (leftOut : Option SessionId)
  | takeFailed
  /-- The reader of a session's queue goes away after some more frames. -/
  | retire (id : SessionId) (after : Nat)
deriving DecidableEq, Repr

namespace RouterCall

/-- The frames that a call wants to be sent, with their recipients. -/
def attempts : RouterCall → List (SessionId × Frame)
  | send id f => [(id, f)]
  | broadcast recipients f leftOut =>
      (recipients.filter fun id => leftOut ≠ some id).map fun id => (id, f)
  | register .. | unregister _ | takeFailed | retire .. => []

/-- The queue that a call brings along. -/
def queue? : RouterCall → Option Nat
  | register _ queue => some queue
  | unregister _ | send .. | broadcast .. | takeFailed | retire .. => none

/-- The queues of the connected sessions after a call. -/
def rewire (queues : Table SessionId Nat) : RouterCall → Table SessionId Nat
  | register s queue => queues.insert s.id queue
  | unregister id => queues.erase id
  | send .. | broadcast .. | takeFailed | retire .. => queues

end RouterCall

namespace Router

/-- The router after a call. -/
def call (r : Router) : RouterCall → Router
  | .register s _ => r.register s
  | .unregister id => r.unregister id
  | .send id f => (r.send id f).2
  | .broadcast recipients f leftOut => (r.broadcast recipients f leftOut).2
  | .takeFailed => r.takeFailed.2
  | .retire id after => r.retireReader id after

/-- The frames that could be queued, with their recipients. -/
def accepted (r : Router) : List (SessionId × Frame) → List (SessionId × Frame)
  | [] => []
  | (id, f) :: rest =>
      let first := r.send id f
      (if first.1 then [(id, f)] else []) ++ first.2.accepted rest

section Accepted

variable (r : Router) (frames : List (SessionId × Frame))

theorem sent_deliver : (r.deliver frames).2.sent = r.sent ++ r.accepted frames := by
  induction frames generalizing r with
  | nil => exact (List.append_nil _).symm
  | cons e rest ih => rw [deliver, ih, sent_send, accepted, send_fst, List.append_assoc]

theorem fst_deliver : (r.deliver frames).1 = (r.accepted frames).length := by
  induction frames generalizing r with
  | nil => rfl
  | cons e rest ih =>
      rw [deliver, ih, accepted, List.length_append, send_fst]
      cases r.listens e.1 <;> rfl

/-- Frames are queued in the order in which they are sent. -/
theorem accepted_sublist : (r.accepted frames).Sublist frames := by
  induction frames generalizing r with
  | nil => exact .slnil
  | cons e rest ih =>
      rw [accepted, send_fst]
      cases r.listens e.1 with
      | true => exact (ih _).cons_cons e
      | false => exact (ih _).cons e

/-- Every frame is queued or missed. -/
theorem length_accepted_add_missed :
    (r.accepted frames).length + (r.missed frames).length = frames.length := by
  induction frames generalizing r with
  | nil => rfl
  | cons e rest ih =>
      have later := ih (r.send e.1 e.2).2
      rw [accepted, missed, send_fst, List.length_append, List.length_append, List.length_cons]
      cases r.listens e.1 with
      | true => simp only [if_true, List.length_singleton, List.length_nil]; omega
      | false =>
          simp only [Bool.false_eq_true, if_false, List.length_singleton, List.length_nil]; omega

/-- What is queued is counted, frame by frame and byte by byte. -/
theorem counts_deliver :
    (r.deliver frames).2.stats.framesSent = r.stats.framesSent + (r.accepted frames).length ∧
      (r.deliver frames).2.stats.bytesSent =
        r.stats.bytesSent + ((r.accepted frames).map fun e => e.2.length).sum := by
  induction frames generalizing r with
  | nil => exact ⟨rfl, rfl⟩
  | cons e rest ih =>
      obtain ⟨frames, bytes⟩ := ih (r.send e.1 e.2).2
      rw [deliver, accepted, send_fst]
      cases opened : r.listens e.1 with
      | true =>
          rw [send_of_listens opened] at frames bytes ⊢
          constructor
          · rw [frames, if_pos rfl, List.length_append, List.length_singleton, Nat.add_assoc]
          · rw [bytes, if_pos rfl, List.singleton_append, List.map_cons, List.sum_cons, Nat.add_assoc]
      | false =>
          rw [send_of_not_listens opened] at frames bytes ⊢
          exact ⟨frames, bytes⟩

end Accepted

/-- Only frames for connected sessions are queued. -/
theorem isRegistered_of_mem_accepted {r : Router} {frames : List (SessionId × Frame)}
    {e : SessionId × Frame} (queued : e ∈ r.accepted frames) : r.isRegistered e.1 = true := by
  induction frames generalizing r with
  | nil => cases queued
  | cons first rest ih =>
      rw [accepted, send_fst, List.mem_append] at queued
      rcases queued with here | later
      · cases opened : r.listens first.1 with
        | true =>
            rw [opened, if_pos rfl, List.mem_singleton] at here
            rw [here]
            exact isRegistered_of_listens opened
        | false =>
            rw [opened] at here
            cases here
      · exact (r.isRegistered_deliver [first] e.1).symm.trans (ih later)

/-- No session is marked twice. -/
theorem nodup_failed_deliver {r : Router} (distinct : r.failed.Nodup)
    (frames : List (SessionId × Frame)) : (r.deliver frames).2.failed.Nodup := by
  induction frames generalizing r with
  | nil => exact distinct
  | cons e rest ih =>
      apply ih
      cases opened : r.listens e.1 with
      | true =>
          rw [send_of_listens opened]
          exact distinct
      | false =>
          rw [send_of_not_listens opened, recordFailure]
          dsimp only
          split
          · rename_i fresh
            rw [← List.concat_eq_append]
            exact distinct.concat fresh.2
          · exact distinct

/-- A call sends what it wants to be sent; other calls send nothing. -/
theorem sent_call (r : Router) (c : RouterCall) :
    (r.call c).sent = r.sent ++ r.accepted c.attempts := by
  cases c with
  | send id f => exact r.sent_deliver [(id, f)]
  | broadcast recipients f leftOut => exact r.sent_deliver _
  | _ => exact (List.append_nil _).symm

/-- What a call does to the counters. -/
theorem stats_call (r : Router) (c : RouterCall) :
    (r.call c).stats.framesSent = r.stats.framesSent + (r.accepted c.attempts).length ∧
      (r.call c).stats.bytesSent =
        r.stats.bytesSent + ((r.accepted c.attempts).map fun e => e.2.length).sum ∧
      (r.call c).stats.failedDeliveries + (r.accepted c.attempts).length =
        r.stats.failedDeliveries + c.attempts.length := by
  have delivered : ∀ frames : List (SessionId × Frame),
      (r.deliver frames).2.stats.framesSent = r.stats.framesSent + (r.accepted frames).length ∧
        (r.deliver frames).2.stats.bytesSent =
          r.stats.bytesSent + ((r.accepted frames).map fun e => e.2.length).sum ∧
        (r.deliver frames).2.stats.failedDeliveries + (r.accepted frames).length =
          r.stats.failedDeliveries + frames.length := by
    intro frames
    obtain ⟨sent, bytes⟩ := r.counts_deliver frames
    have all := r.length_accepted_add_missed frames
    refine ⟨sent, bytes, ?_⟩
    rw [failedDeliveries_deliver]
    omega
  cases c with
  | send id f => exact delivered [(id, f)]
  | broadcast recipients f leftOut => exact delivered _
  | _ => exact ⟨rfl, rfl, rfl⟩

end Router

end TopoSync
