import TopoSync.Proofs.Lifecycle

/-!
# Cascades

A session that is ended takes others along, whose queues turn out to be without a reader, and these
are ended while it is still being dealt with.  A cascade is this recursion as it stands: ending a
session ends with a round of those that have been marked, and a round goes on until nobody is marked.
Every cascade comes to an end, and what it does is what ending the sessions in a row does.
-/

namespace TopoSync

/-- What a cascade is at. -/
inductive Task
  /-- A session is to be ended, and whoever is marked after it. -/
  | disconnect (id : SessionId)
  /-- Some sessions are to be ended one after the other. -/
  | each (ids : List SessionId)
  /-- Whoever is marked is to be ended, until nobody is. -/
  | reap
deriving DecidableEq, Repr

namespace Hub

variable {σ : Type} [Store σ]

/-- A task that is carried out, with the sessions that end meanwhile, in order. -/
inductive Cascade : Task → Hub σ → List SessionId → Hub σ → Prop
  /-- A session that is not connected is left alone. -/
  | unknown {h : Hub σ} {id : SessionId} (unknown : h.router.isRegistered id = false) :
      Cascade (.disconnect id) h [] h
  /-- A connected session ends, and then whoever is marked. -/
  | ended {h h' : Hub σ} {id : SessionId} {others : List SessionId}
      (known : h.router.isRegistered id = true)
      (reaped : Cascade .reap (h.endSession id) others h') :
      Cascade (.disconnect id) h (id :: others) h'
  | done (h : Hub σ) : Cascade (.each []) h [] h
  | next {h h₁ h₂ : Hub σ} {id : SessionId} {ids first rest : List SessionId}
      (one : Cascade (.disconnect id) h first h₁) (others : Cascade (.each ids) h₁ rest h₂) :
      Cascade (.each (id :: ids)) h (first ++ rest) h₂
  /-- Nobody is marked. -/
  | unmarked {h : Hub σ} (unmarked : h.router.failed = []) : Cascade .reap h [] h
  /-- The marks are taken away, the marked sessions ended, and the marks looked at again. -/
  | round {h h₁ h₂ : Hub σ} {first rest : List SessionId} (marked : h.router.failed ≠ [])
      (swept : Cascade (.each h.router.failed) h.takeFailed.2 first h₁)
      (again : Cascade .reap h₁ rest h₂) : Cascade .reap h (first ++ rest) h₂

omit [Store σ] in
theorem takeFailed_of_unmarked {h : Hub σ} (unmarked : h.router.failed = []) :
    h.takeFailed.2 = h := by
  rcases h with ⟨store, ⟨sessions, failed, stats, sent⟩, maps, nodes⟩
  cases unmarked
  rfl

/-- Where nobody is marked there is nobody to end. -/
theorem reapFailed_of_unmarked {h : Hub σ} (unmarked : h.router.failed = []) : h.reapFailed = h := by
  have none : h.takeFailed.1 = [] := unmarked
  rw [reapFailed, none, endSessions_nil, takeFailed_of_unmarked unmarked]

theorem endings_nil (h : Hub σ) : h.endings [] = [] := by
  rw [endings]

theorem endings_of_registered {h : Hub σ} {id : SessionId}
    (registered : h.router.isRegistered id = true) (rest : List SessionId) :
    h.endings (id :: rest) =
      id :: (h.endSession id).takeFailed.2.endings ((h.endSession id).takeFailed.1 ++ rest) := by
  rw [endings, if_pos registered]

theorem endings_of_not_registered {h : Hub σ} {id : SessionId}
    (unknown : h.router.isRegistered id = false) (rest : List SessionId) :
    h.endings (id :: rest) = h.endings rest := by
  rw [endings, if_neg (by simp [unknown])]

/-- The end of a session leaves exactly the other sessions connected. -/
theorem isRegistered_endSession_iff {h : Hub σ} {id q : SessionId} :
    (h.endSession id).router.isRegistered q = true ↔ h.router.isRegistered q = true ∧ q ≠ id := by
  rw [Router.isRegistered_iff, Router.isRegistered_iff, ← sessionIds, sessionIds_endSession,
    List.mem_filter, decide_eq_true_eq, ← sessionIds]

/-- Sessions end one list after the other. -/
theorem endSessions_append (h : Hub σ) (first rest : List SessionId) :
    h.endSessions (first ++ rest) = (h.endSessions first).endSessions rest ∧
      h.endings (first ++ rest) = h.endings first ++ (h.endSessions first).endings rest := by
  induction h, first using endSessions.induct with
  | case1 h =>
      rw [endSessions_nil, endings_nil]
      exact ⟨rfl, rfl⟩
  | case2 h id others registered ended ih =>
      obtain ⟨after, ends⟩ := ih
      rw [List.append_assoc] at after ends
      rw [List.cons_append, endSessions_of_registered registered,
        endSessions_of_registered registered, endings_of_registered registered,
        endings_of_registered registered]
      exact ⟨after, congrArg (List.cons id) ends⟩
  | case3 h id others unknown ih =>
      have unknown : h.router.isRegistered id = false := by simpa using unknown
      rw [List.cons_append, endSessions_of_not_registered unknown,
        endSessions_of_not_registered unknown, endings_of_not_registered unknown,
        endings_of_not_registered unknown]
      exact ih

/-- Whoever was connected and has not ended is connected afterwards, and nobody else. -/
theorem isRegistered_endSessions_iff {h : Hub σ} {pending : List SessionId} {q : SessionId} :
    (h.endSessions pending).router.isRegistered q = true ↔
      h.router.isRegistered q = true ∧ q ∉ h.endings pending := by
  induction h, pending using endSessions.induct with
  | case1 h => simp [endSessions_nil, endings_nil]
  | case2 h id rest registered ended ih =>
      have first : ended.2.router.isRegistered q = (h.endSession id).router.isRegistered q := rfl
      rw [endSessions_of_registered registered, endings_of_registered registered, ih, first,
        isRegistered_endSession_iff, List.mem_cons, not_or, and_assoc]
  | case3 h id rest unknown ih =>
      have unknown : h.router.isRegistered id = false := by simpa using unknown
      rw [endSessions_of_not_registered unknown, endings_of_not_registered unknown]
      exact ih

/-- Only connected sessions end, each of them once. -/
theorem nodup_endings (h : Hub σ) (pending : List SessionId) :
    (h.endings pending).Nodup ∧ ∀ q ∈ h.endings pending, h.router.isRegistered q = true := by
  induction h, pending using endSessions.induct with
  | case1 h =>
      rw [endings_nil]
      exact ⟨List.nodup_nil, fun _ member => absurd member List.not_mem_nil⟩
  | case2 h id rest registered ended ih =>
      obtain ⟨distinct, known⟩ := ih
      have later : ∀ q ∈ ended.2.endings (ended.1 ++ rest),
          h.router.isRegistered q = true ∧ q ≠ id :=
        fun q member => isRegistered_endSession_iff.mp (known q member)
      rw [endings_of_registered registered]
      constructor
      · exact List.nodup_cons.mpr ⟨fun member => (later id member).2 rfl, distinct⟩
      · intro q member
        rcases List.mem_cons.mp member with rfl | member
        · exact registered
        · exact (later q member).1
  | case3 h id rest unknown ih =>
      rw [endings_of_not_registered (by simpa using unknown)]
      exact ih

theorem failed_endSessions {h : Hub σ} (unmarked : h.router.failed = []) (pending : List SessionId) :
    (h.endSessions pending).router.failed = [] := by
  rw [endSessions_eq_performAll]
  exact failed_performAll_finishes h pending unmarked

/-- What a task comes to: the sessions that end, and the hub afterwards. -/
def outcomeOf (h : Hub σ) : Task → List SessionId × Hub σ
  | .disconnect id => (h.endings [id], h.disconnect id)
  | .each ids => (h.endings ids, h.endSessions ids)
  | .reap => (h.takeFailed.2.endings h.takeFailed.1, h.reapFailed)

namespace Cascade

variable {h h' : Hub σ} {t : Task} {ended : List SessionId}

/-- A cascade comes to what ending the sessions in a row comes to. -/
theorem sound (cascade : Cascade t h ended h') : (ended, h') = h.outcomeOf t := by
  induction cascade with
  | unknown unknown =>
      rw [outcomeOf, disconnect, endSessions_of_not_registered unknown,
        endings_of_not_registered unknown, endSessions_nil, endings_nil]
  | ended known reaped ih =>
      obtain ⟨rfl, rfl⟩ := Prod.mk.inj ih
      rw [outcomeOf, disconnect, endSessions_of_registered known, endings_of_registered known,
        List.append_nil]
      rfl
  | done h => rw [outcomeOf, endings_nil, endSessions_nil]
  | @next h h₁ h₂ id ids first rest one others first_ih rest_ih =>
      obtain ⟨rfl, rfl⟩ := Prod.mk.inj first_ih
      obtain ⟨rfl, rfl⟩ := Prod.mk.inj rest_ih
      obtain ⟨after, ends⟩ := h.endSessions_append [id] ids
      exact Prod.ext ends.symm after.symm
  | @unmarked h unmarked =>
      have none : h.takeFailed.1 = [] := unmarked
      rw [outcomeOf, none, endings_nil, reapFailed_of_unmarked unmarked]
  | @round h h₁ h₂ first rest marked swept again swept_ih again_ih =>
      obtain ⟨rfl, rfl⟩ := Prod.mk.inj swept_ih
      have clear : (h.takeFailed.2.endSessions h.router.failed).router.failed = [] :=
        failed_endSessions rfl _
      -- The first round leaves nobody marked, so the second one is the last.
      obtain ⟨rfl, rfl⟩ := Prod.mk.inj again_ih
      have none : (h.takeFailed.2.endSessions h.router.failed).takeFailed.1 = [] := clear
      rw [none, endings_nil, List.append_nil, reapFailed_of_unmarked clear]
      rfl

/-- A row of sessions may be cut anywhere. -/
theorem split {first rest : List SessionId} (cascade : Cascade (.each (first ++ rest)) h ended h') :
    ∃ ended₁ h₁ ended₂, Cascade (.each first) h ended₁ h₁ ∧ Cascade (.each rest) h₁ ended₂ h' ∧
      ended = ended₁ ++ ended₂ := by
  induction first generalizing h ended with
  | nil => exact ⟨[], h, ended, .done h, cascade, rfl⟩
  | cons id ids ih =>
      cases cascade with
      | @next _ h₁ _ _ _ e₁ e₂ one others =>
          obtain ⟨ended₁, h₂, ended₂, before, after, rfl⟩ := ih others
          exact ⟨e₁ ++ ended₁, h₂, ended₂, .next one before, after, (List.append_assoc _ _ _).symm⟩

/-- A row of one session is that session. -/
theorem of_single {id : SessionId} (cascade : Cascade (.each [id]) h ended h') :
    Cascade (.disconnect id) h ended h' := by
  cases cascade with
  | next one others =>
      cases others
      rwa [List.append_nil]

/-- After the marks have been taken away, a row of the marked sessions is a round. -/
theorem of_row {h₁ : Hub σ} (row : Cascade (.each h.router.failed) h.takeFailed.2 ended h₁) :
    Cascade .reap h ended h₁ := by
  by_cases clear : h.router.failed = []
  · rw [clear] at row
    cases row
    rw [takeFailed_of_unmarked clear]
    exact .unmarked clear
  · have later : h₁.router.failed = [] := by
      obtain ⟨_, rfl⟩ := Prod.mk.inj row.sound
      exact failed_endSessions rfl _
    have round := Cascade.round clear row (.unmarked later)
    rwa [List.append_nil] at round

end Cascade

/-- Sessions that are to be ended one after the other end in a cascade. -/
theorem cascade_each (h : Hub σ) (pending : List SessionId) :
    Cascade (.each pending) h (h.endings pending) (h.endSessions pending) := by
  -- The measure is that of the recursion: connected sessions first, then the row.
  induction h, pending using endSessions.induct with
  | case1 h =>
      rw [endings_nil, endSessions_nil]
      exact .done h
  | case2 h id rest registered ended ih =>
      rw [endings_of_registered registered, endSessions_of_registered registered]
      obtain ⟨ended₁, h₁, ended₂, marked, others, both⟩ := ih.split
      rw [both]
      exact .next (.ended registered (.of_row marked)) others
  | case3 h id rest unknown ih =>
      have unknown : h.router.isRegistered id = false := by simpa using unknown
      rw [endings_of_not_registered unknown, endSessions_of_not_registered unknown]
      exact .next (.unknown unknown) ih

/-- Every task is carried out in a cascade, which comes to an end with nothing but its outcome. -/
theorem cascade_iff {h h' : Hub σ} {t : Task} {ended : List SessionId} :
    Cascade t h ended h' ↔ (ended, h') = h.outcomeOf t := by
  constructor
  · exact Cascade.sound
  · intro outcome
    cases t with
    | each ids =>
        obtain ⟨rfl, rfl⟩ := Prod.mk.inj outcome
        exact h.cascade_each ids
    | disconnect id =>
        obtain ⟨rfl, rfl⟩ := Prod.mk.inj outcome
        exact (h.cascade_each [id]).of_single
    | reap =>
        obtain ⟨rfl, rfl⟩ := Prod.mk.inj outcome
        exact .of_row (h.takeFailed.2.cascade_each h.router.failed)

end Hub

end TopoSync
