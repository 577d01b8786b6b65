import TopoSync.Proofs.Hub.Indifference

/-!
# Unparsed bytes

What is kept as received from a session and not yet understood matters to nobody: whatever the hub
does, it does with other bytes in their place as well, and leaves them where they are.
-/

namespace TopoSync

namespace Table

variable {κ α : Type} [DecidableEq κ]

/-- A change at one key and a new value at another do not meet. -/
theorem insert_modify {k j : κ} (other : k ≠ j) (t : Table κ α) (f : α → α) (a : α) :
    (t.modify j f).insert k a = (t.insert k a).modify j f := by
  by_cases member : k ∈ t.keys
  · have kept : k ∈ (t.modify j f).keys := by rwa [keys_modify]
    rw [insert_eq_modify member, insert_eq_modify kept]
    apply ext_entries
    simp only [entries_modify, List.map_map]
    apply List.map_congr_left
    intro e _
    by_cases here : e.1 = k
    · have apart : e.1 ≠ j := fun same => other (here.symm.trans same)
      simp [here, other]
    · simp [here]
  · have kept : k ∉ (t.modify j f).keys := by rwa [keys_modify]
    apply ext_entries
    rw [insert, dif_neg kept, insert, dif_neg member]
    simp [other]

/-- Changes at two keys do not meet. -/
theorem modify_modify_of_ne {k j : κ} (other : k ≠ j) (t : Table κ α) (f g : α → α) :
    (t.modify k f).modify j g = (t.modify j g).modify k f := by
  apply ext_entries
  simp only [entries_modify, List.map_map]
  apply List.map_congr_left
  intro e _
  by_cases here : e.1 = k
  · simp [here, other]
  · simp [here]

end Table

namespace Router

/-- Keeps other bytes as received from a session. -/
def rebuffer (r : Router) (id : SessionId) (bytes : Bytes) : Router :=
  r.updateSession id fun s => s.withInbound bytes

variable (r : Router) (id : SessionId) (bytes : Bytes)

theorem session?_rebuffer (q : SessionId) :
    (r.rebuffer id bytes).session? q =
      (r.session? q).map fun s => s.withInbound (if q = id then bytes else s.inbound) := by
  rw [rebuffer, session?_updateSession]
  by_cases same : q = id
  · simp [same]
  · have kept : (fun s : Session => s.withInbound s.inbound) = fun s => s := rfl
    simp [same, kept]

theorem isRegistered_rebuffer (q : SessionId) :
    (r.rebuffer id bytes).isRegistered q = r.isRegistered q :=
  isRegistered_updateSession _ _ _ _

theorem listens_rebuffer (q : SessionId) :
    (r.rebuffer id bytes).listens q = r.listens q := by
  rw [listens, session?_rebuffer, Option.any_map]
  rfl

theorem updateSession_rebuffer {f : Session → Session}
    (apart : ∀ s : Session, f (s.withInbound bytes) = (f s).withInbound bytes) (q : SessionId) :
    (r.rebuffer id bytes).updateSession q f = (r.updateSession q f).rebuffer id bytes := by
  rw [rebuffer, rebuffer, updateSession, updateSession, updateSession, updateSession]
  dsimp only
  rw [Table.modify_comm fun s => (apart s).symm]

theorem retireReader_rebuffer (q : SessionId) (after : Nat) :
    (r.rebuffer id bytes).retireReader q after =
      (r.retireReader q after).rebuffer id bytes := by
  rw [retireReader, retireReader]
  apply updateSession_rebuffer
  intro s
  dsimp only [Session.withInbound]
  cases s.reader <;> rfl

theorem unregister_rebuffer (q : SessionId) :
    (r.rebuffer id bytes).unregister q = (r.unregister q).rebuffer id bytes := by
  rw [rebuffer, rebuffer, updateSession, updateSession, unregister, unregister]
  dsimp only
  rw [Table.erase_modify]

theorem register_rebuffer {s : Session} (other : s.id ≠ id) :
    (r.rebuffer id bytes).register s = (r.register s).rebuffer id bytes := by
  rw [rebuffer, rebuffer, updateSession, updateSession, register, register]
  dsimp only
  rw [Table.insert_modify other]

theorem send_rebuffer (q : SessionId) (f : Frame) :
    ((r.rebuffer id bytes).send q f).2 = ((r.send q f).2).rebuffer id bytes := by
  cases opened : r.listens q with
  | true =>
      have opened' : (r.rebuffer id bytes).listens q = true := by rwa [listens_rebuffer]
      rw [send_of_listens opened, send_of_listens opened', rebuffer, rebuffer, updateSession,
        updateSession]
      dsimp only
      rw [Table.modify_comm (f := fun s : Session => s.withInbound bytes)
        (g := fun s => s.spend 1) fun _ => rfl]
  | false =>
      have closed : (r.rebuffer id bytes).listens q = false := by rwa [listens_rebuffer]
      rw [send_of_not_listens opened, send_of_not_listens closed, recordFailure, recordFailure,
        isRegistered_rebuffer]
      rfl

theorem deliver_rebuffer (frames : List (SessionId × Frame)) :
    ((r.rebuffer id bytes).deliver frames).2 = ((r.deliver frames).2).rebuffer id bytes := by
  induction frames generalizing r with
  | nil => rfl
  | cons e rest ih =>
      rw [deliver, deliver]
      dsimp only
      rw [send_rebuffer, ih]

/-- Whether the second router is the first with other bytes kept as received from a session. -/
def Rebuffered (id : SessionId) (bytes : Bytes) (r r' : Router) : Prop :=
  r' = r.rebuffer id bytes

theorem lasting_rebuffered (id : SessionId) (bytes : Bytes) : Lasting (Rebuffered id bytes) where
  session? := by
    rintro r _ rfl q
    rw [session?_rebuffer]
    cases r.session? q with
    | none => exact ⟨[], .staying, rfl⟩
    | some s => exact ⟨if q = id then bytes else s.inbound, s.reader, rfl⟩
  deliver := by
    rintro r _ rfl frames
    exact r.deliver_rebuffer id bytes frames
  updateSession := by
    rintro r _ rfl q f inner
    refine r.updateSession_rebuffer id bytes (fun s => (inner s bytes s.reader).trans ?_) q
    rw [← (inner.ends s).2]
    rfl
  failed := by
    rintro r _ rfl
    rfl
  unregister := by
    rintro r _ rfl q
    exact r.unregister_rebuffer id bytes q
  takeFailed := by
    rintro r _ rfl
    rfl

end Router

namespace Hub

variable {σ : Type}

theorem alike_rebuffer (h : Hub σ) (id : SessionId) (bytes : Bytes) :
    Alike (Router.Rebuffered id bytes) h (h.rebuffer id bytes) :=
  ⟨rfl, rfl, rfl, rfl⟩

theorem Alike.eq_rebuffer {id : SessionId} {bytes : Bytes} {h h' : Hub σ}
    (alike : Alike (Router.Rebuffered id bytes) h h') : h' = h.rebuffer id bytes := by
  obtain ⟨store, router, maps, nodes⟩ := h'
  obtain ⟨rfl, rfl, rfl, rfl⟩ := alike
  rfl

variable (h : Hub σ) (id : SessionId) (bytes : Bytes)

/-- Only the bytes that were put there last count. -/
theorem rebuffer_rebuffer (later : Bytes) :
    (h.rebuffer id bytes).rebuffer id later = h.rebuffer id later := by
  have sessions : (h.router.sessions.modify id fun s => s.withInbound bytes).modify id
      (fun s => s.withInbound later) = h.router.sessions.modify id fun s => s.withInbound later :=
    Table.modify_modify _ _ _ _
  exact congrArg (fun sessions => { h with router := { h.router with sessions } }) sessions

/-- The bytes of two sessions are kept apart. -/
theorem rebuffer_comm {q : SessionId} (other : id ≠ q) (others : Bytes) :
    (h.rebuffer id bytes).rebuffer q others = (h.rebuffer q others).rebuffer id bytes := by
  have sessions := h.router.sessions.modify_modify_of_ne other (fun s => s.withInbound bytes)
    fun s => s.withInbound others
  exact congrArg (fun sessions => { h with router := { h.router with sessions } }) sessions

/-- Nothing is kept of a session that is not connected. -/
theorem rebuffer_of_not_registered {h : Hub σ} {id : SessionId}
    (unknown : h.router.isRegistered id = false) (bytes : Bytes) : h.rebuffer id bytes = h := by
  have sessions : (h.router.sessions.modify id fun s => s.withInbound bytes) =
      h.router.sessions := by
    apply Table.modify_of_fixed
    intro s found
    have known : h.router.isRegistered id = true := Router.isRegistered_iff_exists.mpr ⟨s, found⟩
    cases unknown.symm.trans known
  exact congrArg (fun sessions => { h with router := { h.router with sessions } }) sessions

/-- What is kept already can be put there again. -/
theorem rebuffer_inbound {h : Hub σ} {id : SessionId} {s : Session}
    (known : h.router.session? id = some s) : h.rebuffer id s.inbound = h := by
  have sessions : (h.router.sessions.modify id fun t => t.withInbound s.inbound) =
      h.router.sessions := by
    apply Table.modify_of_fixed
    intro t found
    rw [show t = s from Option.some.inj (found.symm.trans known)]
    rfl
  exact congrArg (fun sessions => { h with router := { h.router with sessions } }) sessions

/-- A session as it is found when other bytes are kept somewhere. -/
theorem session?_rebuffer (q : SessionId) :
    (h.rebuffer id bytes).router.session? q =
      (h.router.session? q).map fun s => s.withInbound (if q = id then bytes else s.inbound) :=
  h.router.session?_rebuffer id bytes q

theorem session?_rebuffer_self :
    (h.rebuffer id bytes).router.session? id =
      (h.router.session? id).map fun s => s.withInbound bytes := by
  rw [session?_rebuffer]
  simp

theorem session?_rebuffer_of_ne {q : SessionId} (other : q ≠ id) :
    (h.rebuffer id bytes).router.session? q = h.router.session? q := by
  rw [session?_rebuffer]
  cases h.router.session? q with
  | none => rfl
  | some s => rw [Option.map_some, if_neg other]; rfl

theorem isRegistered_rebuffer (q : SessionId) :
    (h.rebuffer id bytes).router.isRegistered q = h.router.isRegistered q :=
  h.router.isRegistered_rebuffer id bytes q

section Answers

variable [Store σ]

theorem answerFrames_rebuffer (session : SessionId) (clock : Clock) (frames : List Bytes) :
    (h.rebuffer id bytes).answerFrames session clock frames =
      (h.answerFrames session clock frames).rebuffer id bytes :=
  ((h.alike_rebuffer id bytes).answerFrames (Router.lasting_rebuffered id bytes).toUnnoticed
    session clock frames).eq_rebuffer

/-- Answering frames leaves what is kept as it is. -/
theorem inbound_answerFrames {s t : Session} (known : h.router.session? id = some s)
    (session : SessionId) (clock : Clock) (frames : List Bytes)
    (found : (h.answerFrames session clock frames).router.session? id = some t) :
    t.inbound = s.inbound := by
  have kept := h.answerFrames_rebuffer id s.inbound session clock frames
  rw [rebuffer_inbound known] at kept
  rw [kept, session?_rebuffer_self] at found
  obtain ⟨_, _, rfl⟩ := Option.map_eq_some_iff.mp found
  rfl

theorem endSession_rebuffer (session : SessionId) :
    (h.rebuffer id bytes).endSession session = (h.endSession session).rebuffer id bytes :=
  ((h.alike_rebuffer id bytes).endSession (Router.lasting_rebuffered id bytes) session).eq_rebuffer

/-- The bytes kept of a session that ends do not matter at all. -/
theorem endSession_rebuffer_self : (h.rebuffer id bytes).endSession id = h.endSession id := by
  rw [endSession_rebuffer]
  apply rebuffer_of_not_registered
  rw [endSession, Router.isRegistered_eq_isSome, Router.session?_unregister, if_pos rfl]
  rfl

theorem disconnect_rebuffer (session : SessionId) :
    (h.rebuffer id bytes).disconnect session = (h.disconnect session).rebuffer id bytes :=
  ((h.alike_rebuffer id bytes).disconnect (Router.lasting_rebuffered id bytes) session).eq_rebuffer

theorem reapFailed_rebuffer :
    (h.rebuffer id bytes).reapFailed = (h.reapFailed).rebuffer id bytes :=
  ((h.alike_rebuffer id bytes).reapFailed (Router.lasting_rebuffered id bytes)).eq_rebuffer

theorem flush_rebuffer :
    (h.rebuffer id bytes).flushMaps.2.flushNodes.2 =
      (h.flushMaps.2.flushNodes.2).rebuffer id bytes :=
  (h.alike_rebuffer id bytes).flush.eq_rebuffer

/-- The hub after the frames of a session are answered, given why no more were cut. -/
def settle : Framing.Stop → Hub σ
  | .wantsMore => h
  | .badLength _ => h.disconnect id

theorem settle_rebuffer (q : SessionId) (stop : Framing.Stop) :
    (h.rebuffer id bytes).settle q stop = (h.settle q stop).rebuffer id bytes := by
  cases stop with
  | wantsMore => rfl
  | badLength length => exact h.disconnect_rebuffer id bytes q

end Answers

end Hub

namespace Engine

variable {σ : Type} [Store σ]

theorem receive_of_unknown {e : Engine σ} {id : SessionId}
    (unknown : e.hub.router.session? id = none) (bytes : Bytes) (clock : Clock) :
    e.receive id bytes clock = e := by
  rw [receive, unknown]

/-- Bytes of a connected session: the frames are answered, what is left is kept. -/
theorem receive_of_known {e : Engine σ} {id : SessionId} {s : Session}
    (known : e.hub.router.session? id = some s) (bytes : Bytes) (clock : Clock) :
    e.receive id bytes clock =
      let cut := Framing.split e.maxFrameSize (s.inbound ++ bytes)
      { e with hub :=
        (((e.hub.answerFrames id clock cut.frames).rebuffer id cut.rest).settle id
          cut.stop).reapFailed } := by
  rw [receive, known]
  dsimp only [Session.pushBytes]
  rw [← Hub.answerFrames_rebuffer]
  cases (Framing.split e.maxFrameSize (s.inbound ++ bytes)).stop <;> rfl

end Engine

end TopoSync
