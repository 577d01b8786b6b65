import TopoSync.Proofs.Hub.Entries
import TopoSync.Proofs.Sights

/-!
# The history of the tables of placeholders

A table of placeholders is the outcome of what its session has done: it has the entries that came about
and did not go since.  This is so at every moment of every run, whatever other sessions do and whoever
is ended meanwhile.
-/

namespace TopoSync

namespace Act

/-- Whether an act answers a session that adds an element under a placeholder that stands for nothing,
and the element gets a given number. -/
def Assigns {σ : Type} (kind : ElementKind) (session : SessionId) (id k : ElementId) (h : Hub σ) :
    Act → Prop
  | answer q _ frame =>
      q = session ∧ ∃ request, Request.ofFrame? frame = some request ∧
        h.Assigns session request kind id k
  | connect .. | retire .. | buffer .. | finish _ | clearMarks | flush => False

/-- Whether an act answers a session that acknowledges a number for a placeholder, or deletes an element
under the placeholder. -/
def Drops {σ : Type} [Store σ] (kind : ElementKind) (session : SessionId) (id k : ElementId)
    (h : Hub σ) : Act → Prop
  | answer q now frame =>
      q = session ∧ ∃ request, Request.ofFrame? frame = some request ∧
        h.Drops session now request kind id k
  | connect .. | retire .. | buffer .. | finish _ | clearMarks | flush => False

/-- A frame that neither acknowledges the entry nor deletes under its placeholder leaves it alone. -/
theorem not_drops_of_frame {σ : Type} [Store σ] {kind : ElementKind} {session q : SessionId}
    {id k : ElementId} {h : Hub σ} {now : UInt32} {frame : Bytes}
    (acknowledges : (Request.ofFrame? frame).bind Request.acknowledged? ≠ some (kind, id, k))
    (deletes : (Request.ofFrame? frame).bind Request.deleted? ≠ some (kind, id)) :
    ¬ (answer q now frame).Drops kind session id k h := by
  rintro ⟨_, request, asked, names | ⟨names, _⟩⟩
  · exact acknowledges (by rw [asked, Option.bind_some, names])
  · exact deletes (by rw [asked, Option.bind_some, names])

/-- Whether an act begins or ends a session. -/
def Renews (session : SessionId) : Act → Prop
  | connect q _ _ | finish q => q = session
  | retire .. | buffer .. | answer .. | clearMarks | flush => False

end Act

namespace Hub

variable {σ : Type} [Store σ] {h : Hub σ} {kind : ElementKind} {session : SessionId}
  {id k : ElementId}

/-- A session that begins or has ended has no entries. -/
theorem recorded?_of_renews {a : Act} (renews : a.Renews session) (kind : ElementKind)
    (id : ElementId) : (h.perform a).recorded? kind session id = none := by
  cases a with
  | connect q host reader =>
      obtain rfl : q = session := renews
      rw [recorded?, placeholders?, perform, Router.session?_register, if_pos rfl]
      cases kind <;> rfl
  | finish q =>
      obtain rfl : q = session := renews
      have gone : (h.perform (.finish q)).router.session? q = none := by
        change (h.endSession q).router.session? q = none
        rw [endSession, Router.session?_unregister, if_pos rfl]
      rw [recorded?, placeholders?, gone]
      rfl
  | _ => cases renews

omit [Store σ] in
/-- The tables of a session are those of its requests, of its beginning and of its end. -/
theorem answers_of_tableOwner? {a : Act} (own : a.tableOwner? = some session)
    (goesOn : ¬ a.Renews session) : ∃ now frame, a = .answer session now frame := by
  cases a with
  | answer q now frame => exact ⟨now, frame, by rw [Option.some.inj own]⟩
  | connect q host reader => exact absurd (Option.some.inj own) goesOn
  | finish q => exact absurd (Option.some.inj own) goesOn
  | _ => cases own

/-- An act makes an entry or takes one out only if it says so. -/
theorem recorded?_perform_iff (proper : h.ProperTables) (a : Act) :
    (h.perform a).recorded? kind session id = some k ↔
      a.Assigns kind session id k h ∨
        h.recorded? kind session id = some k ∧
          ¬ a.Drops kind session id k h ∧ ¬ a.Renews session := by
  by_cases renews : a.Renews session
  · have idle : ¬ a.Assigns kind session id k h := by
      cases a with
      | connect | finish => exact not_false
      | _ => cases renews
    simp [recorded?_of_renews renews, renews, idle]
  by_cases own : a.tableOwner? = some session
  · obtain ⟨now, frame, rfl⟩ := answers_of_tableOwner? own renews
    rw [perform, answerFrame_eq, Act.Assigns, Act.Drops]
    cases Request.ofFrame? frame with
    | none => simp [renews]
    | some request => simp [recorded?_apply_iff proper session now request, renews]
  · have idle : ¬ a.Assigns kind session id k h := by
      cases a with
      | answer q now frame => exact fun assigns => own (congrArg some assigns.1)
      | _ => exact not_false
    have still : ¬ a.Drops kind session id k h := by
      cases a with
      | answer q now frame => exact fun drops => own (congrArg some drops.1)
      | _ => exact not_false
    rw [recorded?_of_placeholders? (placeholders?_perform own)]
    simp [idle, still, renews]

/-- The tables stay proper. -/
theorem ProperTables.perform (proper : h.ProperTables) (a : Act) : (h.perform a).ProperTables := by
  intro kind session id k recorded
  rcases (recorded?_perform_iff proper a).mp recorded with assigns | ⟨before, _⟩
  · cases a with
    | answer q now frame =>
        obtain ⟨_, request, _, assigns⟩ := assigns
        exact pos_of_assigns assigns
    | _ => cases assigns
  · exact proper kind session id k before

theorem ProperTables.performAll (proper : h.ProperTables) (acts : List Act) :
    (h.performAll acts).ProperTables := by
  induction acts generalizing h with
  | nil => exact proper
  | cons a rest ih => exact ih (proper.perform a)

/-- Whether one of some acts makes an entry that none of those after it takes out. -/
def MadeAndKept (h : Hub σ) (kind : ElementKind) (session : SessionId) (id k : ElementId)
    (acts : List Act) : Prop :=
  ∃ before a between, acts = before ++ a :: between ∧
    a.Assigns kind session id k (h.performAll before) ∧
    Along (fun h a => ¬ a.Drops kind session id k h ∧ ¬ a.Renews session)
      ((h.performAll before).perform a) between

/-- After some acts there are the entries from before that were kept and those that were made and
kept. -/
theorem recorded?_performAll_iff (proper : h.ProperTables) (acts : List Act) :
    (h.performAll acts).recorded? kind session id = some k ↔
      h.MadeAndKept kind session id k acts ∨
        h.recorded? kind session id = some k ∧
          Along (fun h a => ¬ a.Drops kind session id k h ∧ ¬ a.Renews session) h acts := by
  induction acts generalizing h with
  | nil =>
      have none : ¬ h.MadeAndKept kind session id k [] := by
        rintro ⟨before, a, between, split, _⟩
        exact List.append_ne_nil_of_right_ne_nil _ (List.cons_ne_nil _ _) split.symm
      simp [none, Along]
  | cons a rest ih =>
      -- an entry is made by the first act or by a later one
      have first : h.MadeAndKept kind session id k (a :: rest) ↔
          a.Assigns kind session id k h ∧
              Along (fun h a => ¬ a.Drops kind session id k h ∧ ¬ a.Renews session) (h.perform a)
                rest ∨
            (h.perform a).MadeAndKept kind session id k rest := by
        constructor
        · rintro ⟨before, b, between, split, assigns, kept⟩
          cases before with
          | nil =>
              obtain ⟨rfl, rfl⟩ := List.cons.inj split
              exact .inl ⟨assigns, kept⟩
          | cons c before =>
              obtain ⟨rfl, rfl⟩ := List.cons.inj split
              exact .inr ⟨before, b, between, rfl, assigns, kept⟩
        · rintro (⟨assigns, kept⟩ | ⟨before, b, between, rfl, assigns, kept⟩)
          · exact ⟨[], a, rest, rfl, assigns, kept⟩
          · exact ⟨a :: before, b, between, rfl, assigns, kept⟩
      rw [performAll_cons, ih (proper.perform a), recorded?_perform_iff proper, first, Along]
      tauto

/-- Who is not connected stays so until connected. -/
theorem isRegistered_performAll_of_unknown {acts : List Act} (enabled : Along Act.Enabled h acts)
    (others : ∀ a ∈ acts, a.connected? ≠ some session)
    (unknown : h.router.isRegistered session = false) :
    (h.performAll acts).router.isRegistered session = false := by
  induction acts generalizing h with
  | nil => exact unknown
  | cons a rest ih =>
      refine ih enabled.2 (fun b member => others b (List.mem_cons_of_mem _ member)) ?_
      exact (perform_unknown enabled.1 (others a List.mem_cons_self) unknown).1

/-- A session that is connected and not connected again is not ended in between. -/
theorem goesOn_of_connected {acts : List Act} (enabled : Along Act.Enabled h acts)
    (others : ∀ a ∈ acts, a.connected? ≠ some session)
    (known : (h.performAll acts).router.isRegistered session = true) :
    ∀ a ∈ acts, ¬ a.Renews session := by
  induction acts generalizing h with
  | nil => simp
  | cons a rest ih =>
      have later : ∀ b ∈ rest, b.connected? ≠ some session :=
        fun b member => others b (List.mem_cons_of_mem _ member)
      refine List.forall_mem_cons.mpr ⟨fun renews => ?_, ih enabled.2 later known⟩
      cases a with
      | connect q host reader =>
          exact others _ List.mem_cons_self (congrArg some renews)
      | finish q =>
          obtain rfl : q = session := renews
          have ended : (h.perform (.finish q)).router.isRegistered q = false := by
            change (h.endSession q).router.isRegistered q = false
            rw [endSession, Router.isRegistered_eq_isSome, Router.session?_unregister, if_pos rfl]
            rfl
          have gone := isRegistered_performAll_of_unknown enabled.2 later ended
          exact Bool.false_ne_true (gone.symm.trans known)
      | _ => cases renews

omit [Store σ] in
/-- A session that is connected at most once is connected before anything of it is answered, and not
afterwards. -/
theorem others_of_fresh {before later : List Act}
    (fresh : ((before ++ later).filterMap Act.connected?).count session ≤ 1)
    (connects : ∃ a ∈ before, a.connected? = some session) :
    ∀ a ∈ later, a.connected? ≠ some session := by
  intro a member again
  have first : 0 < (before.filterMap Act.connected?).count session :=
    List.count_pos_iff.mpr (List.mem_filterMap.mpr connects)
  have second : 0 < (later.filterMap Act.connected?).count session :=
    List.count_pos_iff.mpr (List.mem_filterMap.mpr ⟨a, member, again⟩)
  rw [List.filterMap_append, List.count_append] at fresh
  omega

/-- What holds all along and of every act holds all along together. -/
theorem along_and {P : Hub σ → Act → Prop} {Q : Act → Prop} {acts : List Act} (along : Along P h acts)
    (each : ∀ a ∈ acts, Q a) : Along (fun h a => P h a ∧ Q a) h acts := by
  induction acts generalizing h with
  | nil => trivial
  | cons a rest ih =>
      exact ⟨⟨along.1, each a List.mem_cons_self⟩,
        ih along.2 fun b member => each b (List.mem_cons_of_mem _ member)⟩

theorem along_left {P Q : Hub σ → Act → Prop} {acts : List Act}
    (along : Along (fun h a => P h a ∧ Q h a) h acts) : Along P h acts := by
  induction acts generalizing h with
  | nil => trivial
  | cons a rest ih => exact ⟨along.1.1, ih along.2⟩

end Hub

/-- At every moment of every run, the tables of a session that is connected once have exactly the
entries that came about when an element was added under a placeholder that stood for nothing, and whose
number the session has not acknowledged since, nor deleted an element under the placeholder.  All
placeholders with an entry are negative and stand for positive numbers, so what a number means is a
number that means itself.  Acts of others, and requests of the session other than to add, to acknowledge
and to delete elements of the kind, leave the table as it is, and an element can always be deleted as
far as its placeholder is concerned. -/
theorem entries_of_run {σ : Type} [Store σ] (store : σ) (maxFrameSize : Nat) (moves : List Move)
    (session : SessionId) (kind : ElementKind)
    (fresh : (moves.filterMap Move.connected?).count session ≤ 1) :
    let e := Engine.start store maxFrameSize
    (e.after moves).hub = e.hub.performAll (e.acts moves) ∧
    ∀ done rest, e.acts moves = done ++ rest →
      let h := e.hub.performAll done
      (h.router.isRegistered session = true → ∀ id k,
        h.recorded? kind session id = some k ↔
          ∃ before now frame between, done = before ++ .answer session now frame :: between ∧
            let born := e.hub.performAll before
            (Act.answer session now frame).Assigns kind session id k born ∧
            Hub.Along (fun h a => ¬ a.Drops kind session id k h)
              (born.perform (.answer session now frame)) between) ∧
      (∀ id k, h.recorded? kind session id = some k → id < 0 ∧ 0 < k) ∧
      (∀ id, h.meant kind session (h.meant kind session id) = h.meant kind session id) ∧
      (∀ a, a.tableOwner? ≠ some session →
        (h.perform a).placeholders? kind session = h.placeholders? kind session) ∧
      (∀ now frame request, Request.ofFrame? frame = some request →
        request.tableKind? ≠ some kind →
        (h.perform (.answer session now frame)).placeholders? kind session =
          h.placeholders? kind session) ∧
      ∀ q now frame command reason,
        ((Request.ofFrame? frame).bind Request.deleted?).isSome = true →
        (h.answerFrame q now frame).1 ≠ .error (.refused command (.badPlaceholder reason)) := by
  intro e
  refine ⟨e.hub_after moves, ?_⟩
  intro done rest performed h
  have enabled := e.enabled_acts moves
  rw [← e.connected?_acts] at fresh
  rw [performed] at enabled fresh
  have begun : e.hub.ProperTables := Hub.ProperTables.start store
  have proper : h.ProperTables := begun.performAll done
  refine ⟨fun known id k => ?_, fun id k => proper kind session id k,
    proper.meant_meant kind session, fun a other => Hub.placeholders?_perform other, ?_, ?_⟩
  · have history : h.recorded? kind session id = some k ↔ _ :=
      Hub.recorded?_performAll_iff begun done
    have none : e.hub.recorded? kind session id ≠ some k := nofun
    rw [history, or_iff_left fun both => none both.1]
    constructor
    · rintro ⟨before, a, between, split, assigns, kept⟩
      cases a with
      | answer q now frame =>
          obtain rfl : q = session := assigns.1
          exact ⟨before, now, frame, between, split, assigns, Hub.along_left kept⟩
      | _ => cases assigns
    · rintro ⟨before, now, frame, between, rfl, assigns, kept⟩
      refine ⟨before, .answer session now frame, between, rfl, assigns, Hub.along_and kept ?_⟩
      -- the session was answered, so it had been connected before and is not connected again
      obtain ⟨first, answered, later⟩ := Hub.along_append.mp (Hub.along_append.mp enabled).1
      have connects : ∃ a ∈ before, a.connected? = some session := by
        by_contra never
        have others : ∀ a ∈ before, a.connected? ≠ some session :=
          fun a member same => never ⟨a, member, same⟩
        have unknown := Hub.isRegistered_performAll_of_unknown first others rfl
        exact Bool.false_ne_true (unknown.symm.trans answered)
      rw [List.append_assoc] at fresh
      have others := Hub.others_of_fresh fresh connects
      refine Hub.goesOn_of_connected later (fun a member => others a ?_) ?_
      · exact List.mem_append.mpr (.inl (List.mem_cons_of_mem _ member))
      · have last : h = (((e.hub.performAll before).perform (.answer session now frame)).performAll
            between) := Hub.performAll_append ..
        rwa [last] at known
  · intro now frame request asked apart
    rw [Hub.perform, Hub.answerFrame_eq, asked]
    refine (h.sameBut_apply session now request).tables session kind fun same => apart ?_
    obtain ⟨sort, concerned, pair⟩ := Option.map_eq_some_iff.mp same
    rw [concerned, (Prod.mk.inj pair).2]
  · intro q now frame command reason deletes refused
    obtain ⟨named, asks⟩ := Option.isSome_iff_exists.mp deletes
    obtain ⟨request, asked, deletes⟩ := Option.bind_eq_some_iff.mp asks
    obtain ⟨command', answer⟩ := Hub.answerFrame_of_ofFrame? (σ := σ) asked
    rw [answer] at refused
    cases verdict : (h.apply q now request).1 with
    | ok value =>
        rw [verdict] at refused
        cases refused
    | error e =>
        rw [verdict] at refused
        obtain ⟨-, rfl⟩ := Rejection.refused.inj (Except.error.inj refused)
        exact Hub.apply_ne_badPlaceholder deletes h q now reason verdict

/-- A session adds three symbols to a map, two of them under one placeholder, and acknowledges the third
number and, under the placeholder that was taken, the second; another session deletes the first
symbol. -/
def threeUnderTwo : List Move :=
  [.event (.connected ⟨1⟩ "a" .staying),
    .event (.connected ⟨2⟩ "b" .staying),
    sending ⟨1⟩ .openMap [7],
    sending ⟨2⟩ .openMap [7],
    sending ⟨1⟩ .addSymbol [7, -1, 0, 0],
    sending ⟨1⟩ .addSymbol [7, -1, 5, 5],
    sending ⟨1⟩ .addSymbol [7, -2, 9, 9],
    sending ⟨1⟩ .renameSymbol [7, -2, 3],
    sending ⟨1⟩ .renameSymbol [7, -1, 2],
    sending ⟨2⟩ .deleteSymbol [7, 1]]

/-- The first symbol was added under a free placeholder and nothing of what followed took the entry
out; the third one has lost its own. -/
theorem entries_of_run_threeUnderTwo :
    let h := ((Engine.start (MemoryStore.insertMap {} 7 "plan" {}) 1000).after threeUnderTwo).hub
    h.recorded? .symbol ⟨1⟩ (-1) = some 1 ∧ h.meant .symbol ⟨1⟩ (h.meant .symbol ⟨1⟩ (-2)) = -2 := by
  let e := Engine.start (MemoryStore.insertMap {} 7 "plan" {}) 1000
  let before : List Act :=
    [.connect ⟨1⟩ "a" .staying, .connect ⟨2⟩ "b" .staying,
      .buffer ⟨1⟩ [], .answer ⟨1⟩ 0 (asking .openMap [7]), .clearMarks,
      .buffer ⟨2⟩ [], .answer ⟨2⟩ 0 (asking .openMap [7]), .clearMarks, .buffer ⟨1⟩ []]
  let between : List Act :=
    [.clearMarks, .buffer ⟨1⟩ [], .answer ⟨1⟩ 0 (asking .addSymbol [7, -1, 5, 5]),
      .clearMarks, .buffer ⟨1⟩ [], .answer ⟨1⟩ 0 (asking .addSymbol [7, -2, 9, 9]),
      .clearMarks, .buffer ⟨1⟩ [], .answer ⟨1⟩ 0 (asking .renameSymbol [7, -2, 3]),
      .clearMarks, .buffer ⟨1⟩ [], .answer ⟨1⟩ 0 (asking .renameSymbol [7, -1, 2]),
      .clearMarks, .buffer ⟨2⟩ [], .answer ⟨2⟩ 0 (asking .deleteSymbol [7, 1]), .clearMarks]
  have run : e.acts threeUnderTwo =
      before ++ .answer ⟨1⟩ 0 (asking .addSymbol [7, -1, 0, 0]) :: between := by decide_cbv
  obtain ⟨last, moments⟩ := entries_of_run (MemoryStore.insertMap {} 7 "plan" {}) 1000 threeUnderTwo
    ⟨1⟩ .symbol (by decide)
  obtain ⟨entries, _, twice, _⟩ := moments (e.acts threeUnderTwo) [] (List.append_nil _).symm
  have spares : ∀ {h : Hub MemoryStore} {frame : Bytes},
      (Request.ofFrame? frame).bind Request.acknowledged? ≠ some (.symbol, -1, 1) →
      (Request.ofFrame? frame).bind Request.deleted? ≠ some (.symbol, -1) →
      ¬ (Act.answer ⟨1⟩ 0 frame).Drops .symbol ⟨1⟩ (-1) 1 h := Act.not_drops_of_frame
  have born : (Act.answer ⟨1⟩ 0 (asking .addSymbol [7, -1, 0, 0])).Assigns .symbol ⟨1⟩ (-1) 1
      (e.hub.performAll before) :=
    ⟨rfl, .addSymbol 7 (-1) 0 0, by decide_cbv, by decide_cbv, 7, .symbolAdded 1 0 0, rfl,
      by decide_cbv, rfl⟩
  have first := (entries (by decide_cbv) (-1) 1).mpr ⟨before, 0, _, between, run, born,
    not_false, not_false, spares (by decide_cbv) (by decide_cbv),
    not_false, not_false, spares (by decide_cbv) (by decide_cbv),
    not_false, not_false, spares (by decide_cbv) (by decide_cbv),
    not_false, not_false, spares (by decide_cbv) (by decide_cbv),
    not_false, not_false, fun drops => absurd drops.1 (by decide), not_false, trivial⟩
  intro h
  have same : h = e.hub.performAll (e.acts threeUnderTwo) := last
  rw [same]
  exact ⟨first, (twice (-2)).trans (by rw [run]; decide_cbv)⟩

end TopoSync
