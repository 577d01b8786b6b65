import TopoSync.Router
import TopoSync.Proofs.Tables

/-!
# What a session gets of what is sent

Frames are queued one by one, but each session can be looked at alone: its reader takes frames until
it is gone, and what other sessions are sent makes no difference to it.
-/

namespace TopoSync

namespace QueueReader

/-- Whether one more frame would be taken. -/
def isOpen (r : QueueReader) : Bool :=
  r.accept?.isSome

/-- The reader after some more frames were offered. -/
def after : QueueReader → Nat → QueueReader
  | staying, _ => staying
  | leaving left, offered => leaving (left - offered)

/-- The frames that are taken of those that are offered. -/
def taken {α : Type} : QueueReader → List α → List α
  | staying, frames => frames
  | leaving left, frames => frames.take left

@[simp] theorem isOpen_staying : isOpen staying = true := rfl

@[simp] theorem isOpen_leaving (left : Nat) : (leaving left).isOpen = decide (left ≠ 0) := by
  cases left <;> rfl

@[simp] theorem after_zero (r : QueueReader) : r.after 0 = r := by
  cases r <;> rfl

theorem after_after (r : QueueReader) (m n : Nat) : (r.after m).after n = r.after (m + n) := by
  cases r with
  | staying => rfl
  | leaving left => simp only [after, Nat.sub_sub]

theorem accept?_of_isOpen {r : QueueReader} (opened : r.isOpen = true) :
    r.accept? = some (r.after 1) := by
  cases r with
  | staying => rfl
  | leaving left =>
      cases left with
      | zero => cases opened
      | succ left => rfl

theorem after_of_not_isOpen {r : QueueReader} (closed : r.isOpen = false) (offered : Nat) :
    r.after offered = r := by
  cases r with
  | staying => rfl
  | leaving left =>
      cases left with
      | zero => simp [after]
      | succ left => cases closed

/-- A reader that is there now was there before. -/
theorem isOpen_of_isOpen_after {r : QueueReader} {offered : Nat}
    (opened : (r.after offered).isOpen = true) : r.isOpen = true := by
  cases r with
  | staying => rfl
  | leaving left =>
      simp only [after, isOpen_leaving, decide_eq_true_eq] at opened ⊢
      omega

/-- A reader that is still there afterwards took everything. -/
theorem taken_of_isOpen_after {α : Type} {r : QueueReader} {frames : List α}
    (opened : (r.after frames.length).isOpen = true) : r.taken frames = frames := by
  cases r with
  | staying => rfl
  | leaving left =>
      simp only [after, isOpen_leaving, decide_eq_true_eq] at opened
      exact List.take_of_length_le (by omega)

theorem taken_of_not_isOpen {α : Type} {r : QueueReader} (closed : r.isOpen = false)
    (frames : List α) : r.taken frames = [] := by
  cases r with
  | staying => cases closed
  | leaving left =>
      cases left with
      | zero => rfl
      | succ left => cases closed

@[simp] theorem taken_nil {α : Type} (r : QueueReader) : r.taken ([] : List α) = [] := by
  cases r <;> simp [taken]

theorem taken_cons {α : Type} (r : QueueReader) (f : α) (rest : List α) :
    r.taken (f :: rest) = (if r.isOpen then [f] else []) ++ (r.after 1).taken rest := by
  cases r with
  | staying => rfl
  | leaving left => cases left <;> simp [taken, after]

end QueueReader

namespace Session

/-- The session after frames were offered to the reader of its queue. -/
def spend (s : Session) (offered : Nat) : Session :=
  { s with reader := s.reader.after offered }

@[simp] theorem reader_spend (s : Session) (offered : Nat) :
    (s.spend offered).reader = s.reader.after offered := rfl

@[simp] theorem spend_zero (s : Session) : s.spend 0 = s := by
  simp [spend]

theorem spend_spend (s : Session) (m n : Nat) : (s.spend m).spend n = s.spend (m + n) := by
  simp [spend, QueueReader.after_after]

end Session

/-- The frames in a log that are addressed to one session. -/
def addressed {α : Type} (id : SessionId) (log : List (SessionId × α)) : List α :=
  (log.filter fun e => e.1 = id).map Prod.snd

section Addressed

variable {α : Type}

@[simp] theorem addressed_nil (id : SessionId) : addressed id ([] : List (SessionId × α)) = [] := rfl

theorem addressed_cons (id : SessionId) (e : SessionId × α) (rest : List (SessionId × α)) :
    addressed id (e :: rest) = (if e.1 = id then [e.2] else []) ++ addressed id rest := by
  by_cases same : e.1 = id <;> simp [addressed, same]

@[simp] theorem addressed_append (id : SessionId) (xs ys : List (SessionId × α)) :
    addressed id (xs ++ ys) = addressed id xs ++ addressed id ys := by
  simp [addressed]

theorem addressed_map {β : Type} (id : SessionId) (f : α → β) (log : List (SessionId × α)) :
    addressed id (log.map fun e => (e.1, f e.2)) = (addressed id log).map f := by
  simp [addressed, List.filter_map, Function.comp_def]

/-- Of one frame for each of some distinct sessions, a session gets its own. -/
theorem addressed_map_pair {members : List SessionId} (distinct : members.Nodup) (f : SessionId → α)
    (id : SessionId) :
    addressed id (members.map fun q => (q, f q)) = if id ∈ members then [f id] else [] := by
  induction members with
  | nil => rfl
  | cons q rest ih =>
      obtain ⟨fresh, rest_distinct⟩ := List.nodup_cons.mp distinct
      rw [List.map_cons, addressed_cons, ih rest_distinct]
      by_cases same : q = id
      · subst same
        simp [fresh]
      · simp [same, Ne.symm same]

end Addressed

namespace Router

theorem queueOf_eq_addressed (r : Router) (id : SessionId) : r.queueOf id = addressed id r.sent := rfl

/-- Whether a session is connected and its queue has a reader. -/
def listens (r : Router) (id : SessionId) : Bool :=
  (r.session? id).any fun s => s.reader.isOpen

theorem listens_iff {r : Router} {id : SessionId} :
    r.listens id = true ↔ ∃ s, r.session? id = some s ∧ s.reader.isOpen = true := by
  rw [listens, Option.any_eq_true]

theorem isRegistered_eq_isSome (r : Router) (id : SessionId) :
    r.isRegistered id = (r.session? id).isSome := rfl

theorem isRegistered_iff_exists {r : Router} {id : SessionId} :
    r.isRegistered id = true ↔ ∃ s, r.session? id = some s := by
  rw [isRegistered_eq_isSome, Option.isSome_iff_exists]

theorem isRegistered_of_listens {r : Router} {id : SessionId} (h : r.listens id = true) :
    r.isRegistered id = true := by
  obtain ⟨s, known, _⟩ := listens_iff.mp h
  exact isRegistered_iff_exists.mpr ⟨s, known⟩

theorem session?_updateSession (r : Router) (id : SessionId) (f : Session → Session)
    (q : SessionId) :
    (r.updateSession id f).session? q = if q = id then (r.session? q).map f else r.session? q :=
  Table.get?_modify _ _ _ _

theorem isRegistered_updateSession (r : Router) (id : SessionId) (f : Session → Session)
    (q : SessionId) : (r.updateSession id f).isRegistered q = r.isRegistered q :=
  Table.contains_modify _ _ _ _

theorem session?_unregister (r : Router) (id q : SessionId) :
    (r.unregister id).session? q = if q = id then none else r.session? q :=
  Table.get?_erase _ _ _

theorem session?_register (r : Router) (s : Session) (q : SessionId) :
    (r.register s).session? q = if q = s.id then some s else r.session? q :=
  Table.get?_insert _ _ _ _

theorem send_of_listens {r : Router} {id : SessionId} (opened : r.listens id = true) (f : Frame) :
    r.send id f = (true, { r with
      sessions := r.sessions.modify id fun s => s.spend 1
      stats := { r.stats with
        framesSent := r.stats.framesSent + 1
        bytesSent := r.stats.bytesSent + f.length }
      sent := r.sent ++ [(id, f)] }) := by
  obtain ⟨s, known, reading⟩ := listens_iff.mp opened
  have taken : (r.session? id).bind Session.queue? = some (s.spend 1) := by
    simp [known, Session.queue?, QueueReader.accept?_of_isOpen reading, Session.spend]
  have member : id ∈ r.sessions.keys := Table.mem_keys_iff.mpr ⟨s, known⟩
  have same : r.sessions.insert id (s.spend 1) = r.sessions.modify id fun s => s.spend 1 := by
    rw [Table.insert_eq_modify member]
    apply Table.modify_congr
    intro t found
    rw [show t = s from Option.some.inj (found.symm.trans known)]
  simp only [send, taken, recordDelivery, same]

theorem send_of_not_listens {r : Router} {id : SessionId} (closed : r.listens id = false)
    (f : Frame) : r.send id f = (false, r.recordFailure id) := by
  have refused : (r.session? id).bind Session.queue? = none := by
    cases known : r.session? id with
    | none => rfl
    | some s =>
        have gone : s.reader.isOpen = false := by simpa [listens, known] using closed
        have none : s.reader.accept? = none := by simpa [QueueReader.isOpen] using gone
        simp [Session.queue?, none]
  simp only [send, refused]

/-- Whether or not a frame is taken, sending uses up one frame of the reader. -/
theorem sessions_send (r : Router) (id : SessionId) (f : Frame) :
    (r.send id f).2.sessions = r.sessions.modify id fun s => s.spend 1 := by
  cases opened : r.listens id with
  | true => rw [send_of_listens opened]
  | false =>
      rw [send_of_not_listens opened]
      refine (Table.modify_of_fixed ?_).symm
      intro s known
      have found : r.session? id = some s := known
      have gone : s.reader.isOpen = false := by
        rw [listens, found] at opened
        exact opened
      simp [Session.spend, QueueReader.after_of_not_isOpen gone]

theorem sent_send (r : Router) (id : SessionId) (f : Frame) :
    (r.send id f).2.sent = r.sent ++ if r.listens id then [(id, f)] else [] := by
  cases opened : r.listens id with
  | true => simp [send_of_listens opened]
  | false => simp [send_of_not_listens opened, recordFailure]

theorem session?_send (r : Router) (id : SessionId) (f : Frame) (q : SessionId) :
    (r.send id f).2.session? q =
      if q = id then (r.session? q).map fun s => s.spend 1 else r.session? q := by
  rw [session?, sessions_send]
  exact Table.get?_modify _ _ _ _

/-- A session changes in one respect when frames are sent: those for itself are offered to its
reader. -/
theorem session?_deliver (r : Router) (frames : List (SessionId × Frame)) (q : SessionId) :
    (r.deliver frames).2.session? q =
      (r.session? q).map fun s => s.spend (addressed q frames).length := by
  induction frames generalizing r with
  | nil => simp [deliver]
  | cons e rest ih =>
      rw [deliver, ih, session?_send, addressed_cons]
      by_cases same : q = e.1
      · simp [same, Function.comp_def, Session.spend_spend, Nat.add_comm]
      · simp [same, Ne.symm same]

theorem isRegistered_deliver (r : Router) (frames : List (SessionId × Frame)) (q : SessionId) :
    (r.deliver frames).2.isRegistered q = r.isRegistered q := by
  rw [isRegistered_eq_isSome, session?_deliver, Option.isSome_map, isRegistered_eq_isSome]

/-- A session gets those of its frames that its reader takes. -/
theorem addressed_sent_deliver (r : Router) (frames : List (SessionId × Frame)) (q : SessionId) :
    addressed q (r.deliver frames).2.sent =
      addressed q r.sent ++
        ((r.session? q).map fun s => s.reader.taken (addressed q frames)).getD [] := by
  induction frames generalizing r with
  | nil => cases known : r.session? q <;> simp [deliver]
  | cons e rest ih =>
      rw [deliver, ih, session?_send, sent_send, addressed_append, addressed_cons]
      by_cases same : e.1 = q
      · subst same
        cases known : r.session? e.1 with
        | none => simp [listens, known]
        | some s =>
            cases opened : s.reader.isOpen <;>
              simp [listens, known, opened, QueueReader.taken_cons, addressed_cons]
      · have other : addressed q (if r.listens e.1 = true then [(e.1, e.2)] else []) = [] := by
          split <;> simp [addressed_cons, same]
        simp [same, Ne.symm same, other]

/-- A session whose queue still has a reader got everything. -/
theorem addressed_sent_of_listens {r : Router} {frames : List (SessionId × Frame)} {q : SessionId}
    (opened : (r.deliver frames).2.listens q = true) :
    addressed q (r.deliver frames).2.sent = addressed q r.sent ++ addressed q frames := by
  obtain ⟨t, known, reading⟩ := listens_iff.mp opened
  rw [session?_deliver, Option.map_eq_some_iff] at known
  obtain ⟨s, before, rfl⟩ := known
  rw [addressed_sent_deliver, before, Option.map_some, Option.getD_some,
    QueueReader.taken_of_isOpen_after reading]

theorem listens_of_listens_deliver {r : Router} {frames : List (SessionId × Frame)} {q : SessionId}
    (opened : (r.deliver frames).2.listens q = true) : r.listens q = true := by
  obtain ⟨t, known, reading⟩ := listens_iff.mp opened
  rw [session?_deliver, Option.map_eq_some_iff] at known
  obtain ⟨s, before, rfl⟩ := known
  exact listens_iff.mpr ⟨s, before, QueueReader.isOpen_of_isOpen_after reading⟩

/-- Who is sent a frame in vain is marked. -/
theorem mem_failed_send (r : Router) (id : SessionId) (f : Frame) (q : SessionId) :
    q ∈ (r.send id f).2.failed ↔
      q ∈ r.failed ∨ q = id ∧ r.isRegistered q = true ∧ r.listens q = false := by
  cases opened : r.listens id with
  | true =>
      rw [send_of_listens opened]
      constructor
      · exact .inl
      · rintro (before | ⟨rfl, _, closed⟩)
        · exact before
        · cases opened.symm.trans closed
  | false =>
      rw [send_of_not_listens opened, recordFailure]
      by_cases here : q = id
      · subst here
        dsimp only
        split <;> simp_all
      · dsimp only
        split <;> simp [here]

/-- The recipients of frames that could not be queued, one for each such frame. -/
def missed (r : Router) : List (SessionId × Frame) → List SessionId
  | [] => []
  | (id, f) :: rest =>
      let first := r.send id f
      (if first.1 then [] else [id]) ++ first.2.missed rest

theorem send_fst (r : Router) (id : SessionId) (f : Frame) : (r.send id f).1 = r.listens id := by
  cases opened : r.listens id with
  | true => rw [send_of_listens opened]
  | false => rw [send_of_not_listens opened]

/-- Every frame that is missed is counted. -/
theorem failedDeliveries_deliver (r : Router) (frames : List (SessionId × Frame)) :
    (r.deliver frames).2.stats.failedDeliveries =
      r.stats.failedDeliveries + (r.missed frames).length := by
  induction frames generalizing r with
  | nil => rfl
  | cons e rest ih =>
      rw [deliver, ih, missed, List.length_append, send_fst]
      cases opened : r.listens e.1 with
      | true =>
          rw [send_of_listens opened]
          simp
      | false =>
          rw [send_of_not_listens opened]
          simp [recordFailure, Nat.add_assoc]

/-- Who is not sent anything misses nothing. -/
theorem not_mem_missed {r : Router} {frames : List (SessionId × Frame)} {q : SessionId}
    (none : addressed q frames = []) : q ∉ r.missed frames := by
  induction frames generalizing r with
  | nil => exact List.not_mem_nil
  | cons e rest ih =>
      rw [addressed_cons, List.append_eq_nil_iff] at none
      have other : e.1 ≠ q := by
        intro same
        simp [same] at none
      rw [missed, List.mem_append, not_or]
      refine ⟨?_, ih none.2⟩
      split <;> simp [Ne.symm other]

/-- The marks after some frames are those from before and the connected sessions that missed one. -/
theorem mem_failed_deliver {r : Router} {frames : List (SessionId × Frame)} {q : SessionId} :
    q ∈ (r.deliver frames).2.failed ↔
      q ∈ r.failed ∨ q ∈ r.missed frames ∧ r.isRegistered q = true := by
  induction frames generalizing r with
  | nil => simp [deliver, missed]
  | cons e rest ih =>
      have known : (r.send e.1 e.2).2.isRegistered q = r.isRegistered q :=
        r.isRegistered_deliver [e] q
      rw [deliver, ih, mem_failed_send, known, missed, send_fst, List.mem_append]
      by_cases same : q = e.1
      · subst same
        cases opened : r.listens e.1 with
        | true => simp
        | false => by_cases registered : r.isRegistered e.1 = true <;> simp [registered]
      · have other : q ∉ (if r.listens e.1 = true then [] else [e.1]) := by
          split <;> simp [same]
        simp [same, other]

/-- Only connected sessions are marked as failed. -/
theorem failed_deliver {r : Router} {frames : List (SessionId × Frame)} {q : SessionId}
    (marked : q ∈ (r.deliver frames).2.failed) : q ∈ r.failed ∨ r.isRegistered q = true :=
  (mem_failed_deliver.mp marked).imp_right And.right

/-- A session misses a frame exactly if its reader does not take all of its frames. -/
theorem mem_missed_iff {r : Router} {frames : List (SessionId × Frame)} {q : SessionId} {s : Session}
    (known : r.session? q = some s) :
    q ∈ r.missed frames ↔ s.reader.taken (addressed q frames) ≠ addressed q frames := by
  induction frames generalizing r s with
  | nil => simp [missed]
  | cons e rest ih =>
      rw [missed, send_fst, List.mem_append, addressed_cons]
      by_cases same : e.1 = q
      · have listening : r.listens e.1 = s.reader.isOpen := by
          rw [listens, same, known, Option.any_some]
        have spent : (r.send e.1 e.2).2.session? q = some (s.spend 1) := by
          rw [session?_send, same, if_pos rfl, known, Option.map_some]
        rw [ih spent, listening, if_pos same, List.singleton_append]
        cases opened : s.reader.isOpen with
        | true => simp [QueueReader.taken_cons, opened]
        | false => simp [QueueReader.taken_of_not_isOpen opened, same]
      · have kept : (r.send e.1 e.2).2.session? q = some s := by
          rw [session?_send, if_neg (Ne.symm same), known]
        rw [ih kept, if_neg same, List.nil_append]
        split <;> simp [Ne.symm same]

/-- A queue whose reader stays never fails: only sessions that are not connected are sent to in vain,
and those are not marked. -/
theorem failed_send_of_staying {r : Router} {id : SessionId} {f : Frame}
    (staying : ∀ s, r.session? id = some s → s.reader = .staying) :
    (r.send id f).2.failed = r.failed := by
  cases opened : r.listens id with
  | true => rw [send_of_listens opened]
  | false =>
      have unknown : r.isRegistered id = false := by
        rw [isRegistered_eq_isSome]
        cases known : r.session? id with
        | none => rfl
        | some s =>
            have listening : r.listens id = true :=
              listens_iff.mpr ⟨s, known, by rw [staying s known]; rfl⟩
            cases opened.symm.trans listening
      rw [send_of_not_listens opened, recordFailure, unknown]
      simp

/-- A reader that stays does so whatever is sent. -/
theorem staying_deliver {r : Router} {q : SessionId}
    (staying : ∀ s, r.session? q = some s → s.reader = .staying)
    (frames : List (SessionId × Frame)) :
    ∀ s, (r.deliver frames).2.session? q = some s → s.reader = .staying := by
  intro s known
  rw [session?_deliver] at known
  obtain ⟨t, before, rfl⟩ := Option.map_eq_some_iff.mp known
  rw [Session.reader_spend, staying t before]
  rfl

/-- Nobody is marked as long as every reader stays. -/
theorem failed_deliver_of_staying {r : Router} {frames : List (SessionId × Frame)}
    (staying : ∀ id s, r.session? id = some s → s.reader = .staying) :
    (r.deliver frames).2.failed = r.failed := by
  induction frames generalizing r with
  | nil => rfl
  | cons e rest ih =>
      have later := ih fun q => staying_deliver (staying q) [e]
      exact later.trans (failed_send_of_staying (staying e.1))

end Router

end TopoSync
