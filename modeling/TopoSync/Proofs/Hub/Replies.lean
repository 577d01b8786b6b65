import TopoSync.Proofs.Hub.Indifference

/-!
# One reply more

A reply that is sent besides changes the log, the counts and what the reader of its recipient's queue
still takes.  Nothing of it is noticed by any request.  If the reader stays, only the log and the
counts change, and whatever happens later happens in the same way with the reply and without it.
-/

namespace TopoSync

/-- The router with a frame more in its log, after some others, and in its counts. -/
def Router.withReply (r : Router) (session : SessionId) (reply : Frame)
    (first later : List (SessionId × Frame)) : Router :=
  { r with
    sent := first ++ (session, reply) :: later
    stats := { r.stats with
      framesSent := r.stats.framesSent + 1
      bytesSent := r.stats.bytesSent + reply.length } }

namespace Router

theorem queueOf_send (r : Router) (id : SessionId) (f : Frame) (q : SessionId) :
    (r.send id f).2.queueOf q =
      r.queueOf q ++ if q = id ∧ r.listens q = true then [f] else [] := by
  rw [queueOf_eq_addressed, queueOf_eq_addressed, sent_send, addressed_append]
  by_cases here : q = id
  · subst here
    cases r.listens q <;> simp [addressed_cons]
  · split <;> simp [addressed_cons, here, Ne.symm here]

/-- A reader that stays takes every frame. -/
theorem send_of_staying {r : Router} {id : SessionId} {s : Session}
    (known : r.session? id = some s) (staying : s.reader = .staying) (f : Frame) :
    (r.send id f).2 = r.withReply id f r.sent [] := by
  have opened : r.listens id = true := listens_iff.mpr ⟨s, known, by rw [staying]; rfl⟩
  have unspent : r.sessions.modify id (fun s => s.spend 1) = r.sessions := by
    refine Table.modify_of_fixed fun t found => ?_
    obtain rfl : t = s := Option.some.inj (found.symm.trans known)
    have same : t.reader.after 1 = t.reader := by rw [staying]; rfl
    rw [Session.spend, same]
  rw [send_of_listens opened, unspent]
  rfl

/-- A reply earlier in the log makes no difference to what is sent later. -/
theorem send_withReply {r : Router} (session : SessionId) (reply : Frame)
    {first later : List (SessionId × Frame)} (log : r.sent = first ++ later) (id : SessionId)
    (f : Frame) :
    ∃ more, (r.send id f).2.sent = first ++ more ∧
      ((r.withReply session reply first later).send id f).2 =
        (r.send id f).2.withReply session reply first more := by
  have same : (r.withReply session reply first later).listens id = r.listens id := rfl
  cases opened : r.listens id with
  | true =>
      rw [send_of_listens opened, send_of_listens (same.trans opened)]
      refine ⟨later ++ [(id, f)], by rw [log, List.append_assoc], ?_⟩
      simp only [withReply, List.append_assoc, List.cons_append, Nat.add_right_comm]
  | false =>
      rw [send_of_not_listens opened, send_of_not_listens (same.trans opened)]
      exact ⟨later, log, rfl⟩

/-- Whether two routers differ in one reply only, which is in the log of the second. -/
def LogsReply (session : SessionId) (reply : Frame) (r r' : Router) : Prop :=
  ∃ first later, r.sent = first ++ later ∧ r' = r.withReply session reply first later

namespace LogsReply

variable {session : SessionId} {reply : Frame} {r r' : Router}

theorem send (logs : LogsReply session reply r r') (id : SessionId) (f : Frame) :
    LogsReply session reply (r.send id f).2 (r'.send id f).2 := by
  obtain ⟨first, later, log, rfl⟩ := logs
  obtain ⟨more, longer, same⟩ := send_withReply session reply log id f
  exact ⟨first, more, longer, same⟩

theorem deliver (logs : LogsReply session reply r r') (frames : List (SessionId × Frame)) :
    LogsReply session reply (r.deliver frames).2 (r'.deliver frames).2 := by
  induction frames generalizing r r' with
  | nil => exact logs
  | cons e rest ih => exact ih (logs.send e.1 e.2)

theorem updateSession (logs : LogsReply session reply r r') (q : SessionId)
    (f : Session → Session) :
    LogsReply session reply (r.updateSession q f) (r'.updateSession q f) := by
  obtain ⟨first, later, log, rfl⟩ := logs
  exact ⟨first, later, log, rfl⟩

theorem session?_eq (logs : LogsReply session reply r r') (q : SessionId) :
    r'.session? q = r.session? q := by
  obtain ⟨first, later, log, rfl⟩ := logs
  rfl

theorem lasting (session : SessionId) (reply : Frame) : Lasting (LogsReply session reply) where
  session? := by
    intro r r' logs q
    rw [logs.session?_eq]
    cases r.session? q with
    | none => exact ⟨[], .staying, rfl⟩
    | some s => exact ⟨s.inbound, s.reader, rfl⟩
  deliver logs frames := logs.deliver frames
  updateSession logs q f _ := logs.updateSession q f
  failed := by
    rintro r _ ⟨first, later, log, rfl⟩
    rfl
  unregister := by
    rintro r _ ⟨first, later, log, rfl⟩ q
    exact ⟨first, later, log, rfl⟩
  takeFailed := by
    rintro r _ ⟨first, later, log, rfl⟩
    exact ⟨first, later, log, rfl⟩

theorem register (logs : LogsReply session reply r r') (s : Session) :
    LogsReply session reply (r.register s) (r'.register s) := by
  obtain ⟨first, later, log, rfl⟩ := logs
  exact ⟨first, later, log, rfl⟩

end LogsReply

/-- Whether two routers differ in one reply only, which the second has offered to its session. -/
structure OffersReply (session : SessionId) (r r' : Router) : Prop where
  others : ∀ q, q ≠ session → r'.session? q = r.session? q
  own : ∃ reader, r'.session? session = (r.session? session).map fun s => { s with reader }
  queues : ∀ q, q ≠ session → r'.queueOf q = r.queueOf q
  marks : ∀ q, q ≠ session → (q ∈ r'.failed ↔ q ∈ r.failed)

/-- A router differs from itself in a reply that it sends. -/
theorem offersReply_send {r : Router} {session : SessionId} {s : Session}
    (known : r.session? session = some s) (reply : Frame) :
    OffersReply session r (r.send session reply).2 where
  others q other := by rw [session?_send, if_neg other]
  own := ⟨s.reader.after 1, by rw [session?_send, if_pos rfl, known]; rfl⟩
  queues q other := by simp [queueOf_send, other]
  marks q other := by simp [mem_failed_send, other]

namespace OffersReply

variable {session : SessionId} {r r' : Router}

theorem session? (offers : OffersReply session r r') (q : SessionId) :
    ∃ inbound reader, r'.session? q = (r.session? q).map fun s => s.withEnds inbound reader := by
  by_cases here : q = session
  · obtain ⟨reader, same⟩ := offers.own
    rw [here, same]
    cases r.session? session with
    | none => exact ⟨[], .staying, rfl⟩
    | some s => exact ⟨s.inbound, reader, rfl⟩
  · rw [offers.others q here]
    cases r.session? q with
    | none => exact ⟨[], .staying, rfl⟩
    | some s => exact ⟨s.inbound, s.reader, rfl⟩

theorem isRegistered (offers : OffersReply session r r') (q : SessionId) :
    r'.isRegistered q = r.isRegistered q := by
  obtain ⟨inbound, reader, same⟩ := offers.session? q
  rw [isRegistered_eq_isSome, same, Option.isSome_map, isRegistered_eq_isSome]

theorem listens_of_ne (offers : OffersReply session r r') {q : SessionId} (other : q ≠ session) :
    r'.listens q = r.listens q := by
  rw [listens, listens, offers.others q other]

/-- Sending the same frame makes no further difference. -/
theorem send (offers : OffersReply session r r') (id : SessionId) (f : Frame) :
    OffersReply session (r.send id f).2 (r'.send id f).2 where
  others q other := by rw [session?_send, session?_send, offers.others q other]
  own := by
    obtain ⟨reader, same⟩ := offers.own
    rw [session?_send, session?_send, same]
    by_cases here : session = id
    · refine ⟨reader.after 1, ?_⟩
      rw [if_pos here, if_pos here, Option.map_map, Option.map_map]
      rfl
    · exact ⟨reader, by rw [if_neg here, if_neg here]⟩
  queues q other := by
    rw [queueOf_send, queueOf_send, offers.queues q other, offers.listens_of_ne other]
  marks q other := by
    rw [mem_failed_send, mem_failed_send, offers.marks q other, offers.isRegistered,
      offers.listens_of_ne other]

theorem deliver (offers : OffersReply session r r') (frames : List (SessionId × Frame)) :
    OffersReply session (r.deliver frames).2 (r'.deliver frames).2 := by
  induction frames generalizing r r' with
  | nil => exact offers
  | cons e rest ih => exact ih (offers.send e.1 e.2)

theorem updateSession (offers : OffersReply session r r') (q : SessionId) {f : Session → Session}
    (inner : Session.Inner f) :
    OffersReply session (r.updateSession q f) (r'.updateSession q f) where
  others p other := by
    rw [session?_updateSession, session?_updateSession, offers.others p other]
  own := by
    obtain ⟨reader, same⟩ := offers.own
    refine ⟨reader, ?_⟩
    rw [session?_updateSession, session?_updateSession, same]
    split
    · rw [Option.map_map, Option.map_map]
      congr 1
      funext s
      refine (inner s s.inbound reader).trans ?_
      rw [← (inner.ends s).1]
      rfl
    · rfl
  queues := offers.queues
  marks := offers.marks

theorem unnoticed (session : SessionId) : Unnoticed (OffersReply session) where
  session? := session?
  deliver := deliver
  updateSession offers q _ inner := offers.updateSession q inner

end OffersReply

end Router

namespace Hub

variable {σ : Type}

theorem alike_post_of_staying {h : Hub σ} {session : SessionId} {s : Session}
    (known : h.router.session? session = some s) (staying : s.reader = .staying)
    (n : Notification) :
    Alike (Router.LogsReply session n.toFrame) h (h.post [(session, n)]) where
  maps := rfl
  nodes := rfl
  store := rfl
  router := ⟨h.router.sent, [], (List.append_nil _).symm, Router.send_of_staying known staying _⟩

theorem alike_post {h : Hub σ} {session : SessionId} {s : Session}
    (known : h.router.session? session = some s) (n : Notification) :
    Alike (Router.OffersReply session) h (h.post [(session, n)]) where
  maps := rfl
  nodes := rfl
  store := rfl
  router := Router.offersReply_send known n.toFrame

end Hub

end TopoSync
