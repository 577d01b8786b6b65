import Mathlib
import TopoSync.Proofs.Hub.Postings

/-!
# One letter each

Most letters go round: each of some distinct sessions gets one.  Then no frame finds a queue other than
it was at the start, so what becomes of each frame is settled beforehand.  A queue that is closed takes
nothing from those that come after it.
-/

namespace TopoSync

namespace Router

theorem deliver_append (r : Router) (first rest : List (SessionId × Frame)) :
    (r.deliver (first ++ rest)).2 = ((r.deliver first).2.deliver rest).2 := by
  induction first generalizing r with
  | nil => rfl
  | cons e first ih => exact ih _

section Steady

variable {r : Router} {frames : List (SessionId × Frame)}

/-- If every queue is open or closed when its frame comes as it was at the start, then the frames for
open queues are queued, in order, and the others are counted as missed. -/
theorem deliver_of_steady (steady : ∀ before e after, frames = before ++ e :: after →
      (r.deliver before).2.listens e.1 = r.listens e.1) :
    let queued := frames.filter fun e => r.listens e.1
    (r.deliver frames).2.sent = r.sent ++ queued ∧
      (r.deliver frames).2.stats =
        { framesSent := r.stats.framesSent + queued.length
          bytesSent := r.stats.bytesSent + (queued.map fun e => e.2.length).sum
          failedDeliveries :=
            r.stats.failedDeliveries + (frames.filter fun e => !r.listens e.1).length } := by
  induction frames using List.reverseRecOn with
  | nil => exact ⟨(List.append_nil _).symm, rfl⟩
  | append_singleton before e ih =>
      have now := steady before e [] rfl
      obtain ⟨sent, stats⟩ := ih fun first x after cut =>
        steady first x (after ++ [e]) (by rw [cut, List.append_assoc, List.cons_append])
      rw [deliver_append, deliver, deliver]
      cases opened : r.listens e.1 with
      | true =>
          rw [send_of_listens (now.trans opened)]
          constructor
          · simp [sent, opened]
          · simp [stats, opened, Nat.add_assoc]
      | false =>
          rw [send_of_not_listens (now.trans opened)]
          constructor
          · simp [recordFailure, sent, opened]
          · simp [recordFailure, stats, opened, Nat.add_assoc]

/-- Frames for others are nothing to the queue of a session. -/
theorem listens_deliver_of_not_mem {q : SessionId} (other : q ∉ frames.map Prod.fst) :
    (r.deliver frames).2.listens q = r.listens q := by
  have none : addressed q frames = [] := by
    rw [addressed, List.map_eq_nil_iff, List.filter_eq_nil_iff]
    intro e member here
    exact other (List.mem_map.mpr ⟨e, member, of_decide_eq_true here⟩)
  rw [listens, listens, session?_deliver, none]
  cases r.session? q with
  | none => rfl
  | some s => rw [Option.map_some, List.length_nil, Session.spend_zero]

/-- If the sessions are distinct, no frame comes to a queue that another one has changed. -/
theorem steady_of_distinct (once : (frames.map Prod.fst).Nodup) :
    ∀ before e after, frames = before ++ e :: after →
      (r.deliver before).2.listens e.1 = r.listens e.1 := by
  intro before e after cut
  refine listens_deliver_of_not_mem fun member => ?_
  rw [cut, List.map_append, List.map_cons] at once
  exact (List.nodup_append.mp once).2.2 e.1 member e.1 List.mem_cons_self rfl

/-- Of frames for distinct sessions, those for connected sessions that do not listen mark them. -/
theorem mem_failed_deliver_of_distinct (once : (frames.map Prod.fst).Nodup) (q : SessionId) :
    q ∈ (r.deliver frames).2.failed ↔
      q ∈ r.failed ∨
        q ∈ frames.map Prod.fst ∧ r.isRegistered q = true ∧ r.listens q = false := by
  induction frames generalizing r with
  | nil => simp [deliver]
  | cons e rest ih =>
      rw [List.map_cons, List.nodup_cons] at once
      have known : (r.send e.1 e.2).2.isRegistered q = r.isRegistered q :=
        r.isRegistered_deliver [e] q
      rw [deliver, ih once.2, mem_failed_send, known, List.map_cons, List.mem_cons]
      by_cases here : q = e.1
      · subst here
        simp [once.1]
      · have other : q ∉ [e].map Prod.fst := by simpa using here
        have kept : (r.send e.1 e.2).2.listens q = r.listens q := listens_deliver_of_not_mem other
        simp [here, kept]

end Steady

end Router

namespace Hub

variable {σ : Type} {h h' : Hub σ} {letters : List Letter}

/-- Whether a hub afterwards has posted letters to distinct sessions and done nothing else with its
router: those who listen have their letters in their queues, in the order of the letters, whoever else
does not listen; those who do not listen are marked, if they are connected, and counted. -/
structure GoesRound (h : Hub σ) (letters : List Letter) (h' : Hub σ) : Prop where
  posts : h.Posts letters h'
  once : (letters.map Prod.fst).Nodup
  sent : h'.router.sent =
    h.router.sent ++ (letters.filter fun l => h.router.listens l.1).map Letter.toFrame
  queues : ∀ q, h'.router.queueOf q =
    h.router.queueOf q ++
      if h.router.listens q then (addressed q letters).map Notification.toFrame else []
  missed : h'.router.stats.failedDeliveries =
    h.router.stats.failedDeliveries + (letters.filter fun l => !h.router.listens l.1).length
  failed : ∀ q, q ∈ h'.router.failed ↔
    q ∈ h.router.failed ∨
      q ∈ letters.map Prod.fst ∧ h.router.isRegistered q = true ∧ h.router.listens q = false

/-- Of the letters for those who listen, a session that listens gets its own. -/
theorem addressed_filter (q : SessionId) (p : SessionId → Bool) (letters : List Letter) :
    addressed q (letters.filter fun l => p l.1) = if p q then addressed q letters else [] := by
  induction letters with
  | nil => simp
  | cons l rest ih =>
      rw [List.filter_cons, addressed_cons]
      by_cases here : l.1 = q
      · subst here
        cases listens : p l.1 <;> simp [listens, ih, addressed_cons]
      · cases listens : p l.1 <;> simp [here, ih, addressed_cons]

theorem Posts.goesRound (posts : h.Posts letters h') (once : (letters.map Prod.fst).Nodup) :
    h.GoesRound letters h' := by
  have same : (letters.map Letter.toFrame).map Prod.fst = letters.map Prod.fst := by
    rw [List.map_map]
    rfl
  have once' : ((letters.map Letter.toFrame).map Prod.fst).Nodup := by rwa [same]
  obtain ⟨sent, stats⟩ := Router.deliver_of_steady (r := h.router) (Router.steady_of_distinct once')
  have log : h'.router.sent =
      h.router.sent ++ (letters.filter fun l => h.router.listens l.1).map Letter.toFrame := by
    rw [posts.sent]
    refine sent.trans ?_
    rw [List.filter_map]
    rfl
  refine ⟨posts, once, log, ?_, ?_, ?_⟩
  · intro q
    rw [Router.queueOf_eq_addressed, log, addressed_append, ← Router.queueOf_eq_addressed]
    congr 1
    have frames := addressed_map q Notification.toFrame
      (letters.filter fun l => h.router.listens l.1)
    refine frames.trans ?_
    rw [addressed_filter]
    split <;> rfl
  · rw [posts.stats]
    refine (congrArg DeliveryStats.failedDeliveries stats).trans ?_
    dsimp only
    rw [List.filter_map, List.length_map]
    rfl
  · intro q
    rw [posts.failed, ← same]
    exact Router.mem_failed_deliver_of_distinct once' q

end Hub

theorem recipients_lettersToAll (members : Roster) (n : Notification) :
    (lettersToAll members n).map Prod.fst = members.members := by
  rw [lettersToAll, List.map_map]
  exact List.map_id _

theorem recipients_lettersToOthers (members : Roster) (leftOut : SessionId) (n : Notification) :
    (lettersToOthers members leftOut n).map Prod.fst =
      members.members.filter fun id => id ≠ leftOut := by
  rw [lettersToOthers, List.map_map]
  exact List.map_id _

/-- Letters to all members or to the others are one letter each. -/
theorem nodup_lettersToAll (members : Roster) (n : Notification) :
    ((lettersToAll members n).map Prod.fst).Nodup := by
  rw [recipients_lettersToAll]
  exact members.nodup_members

theorem nodup_lettersToOthers (members : Roster) (leftOut : SessionId) (n : Notification) :
    ((lettersToOthers members leftOut n).map Prod.fst).Nodup := by
  rw [recipients_lettersToOthers]
  exact members.nodup_members.filter _

end TopoSync
