import TopoSync.Proofs.Deeds
import TopoSync.Proofs.Hub.Hearing
import TopoSync.Proofs.Wire.Announcements

/-!
# What a session sees of a run

The sights of a session are its own accepted deeds, each at the moment when it is carried out, and
the frames that come into its queue, in order.  A relation between the hub and what a session was
shown that every change keeps holds at the end of every run, for every session whose queue has a
reader then.
-/

namespace TopoSync

theorem Act.isOuter_of_connected? {a : Act} {id : SessionId} (connects : a.connected? = some id) :
    a.isOuter = true := by
  cases a with
  | connect q host reader => rfl
  | _ => cases connects

/-- If no session is connected twice, the other acts do not connect the session that one connects. -/
theorem Act.connected?_ne_of_nodup {before later : List Act} {a : Act} {id : SessionId}
    (fresh : ((before ++ a :: later).filterMap connected?).Nodup)
    (connects : a.connected? = some id) :
    (∀ b ∈ before, b.connected? ≠ some id) ∧ ∀ b ∈ later, b.connected? ≠ some id := by
  rw [List.filterMap_append, List.filterMap_cons_some connects, List.nodup_append] at fresh
  obtain ⟨_, distinct, apart⟩ := fresh
  constructor
  · intro b member same
    exact apart id (List.mem_filterMap.mpr ⟨b, member, same⟩) id List.mem_cons_self rfl
  · intro b member same
    exact (List.nodup_cons.mp distinct).1 (List.mem_filterMap.mpr ⟨b, member, same⟩)

namespace Hub

variable {σ : Type} [Store σ]

/-- The deed of a session that an act carries out. -/
def deedOf? (h : Hub σ) (viewer : SessionId) : Act → Option Deed
  | .answer id _ frame =>
      if id = viewer then (Request.ofFrame? frame).bind (h.deed? viewer) else none
  | .connect .. | .retire .. | .buffer .. | .finish _ | .clearMarks | .flush => none

/-- What a session sees of an act: its deed, and the frames that come into its queue. -/
def sightsOf (h : Hub σ) (viewer : SessionId) (a : Act) : List (Sight Frame) :=
  (h.deedOf? viewer a).toList.map .deed ++
    (((h.perform a).router.queueOf viewer).drop (h.router.queueOf viewer).length).map .told

/-- What a session sees of some acts. -/
def sights (h : Hub σ) (viewer : SessionId) : List Act → List (Sight Frame)
  | [] => []
  | a :: rest => h.sightsOf viewer a ++ (h.perform a).sights viewer rest

theorem sights_append (h : Hub σ) (viewer : SessionId) (first rest : List Act) :
    h.sights viewer (first ++ rest) =
      h.sights viewer first ++ (h.performAll first).sights viewer rest := by
  induction first generalizing h with
  | nil => rfl
  | cons a first ih =>
      rw [List.cons_append, sights, sights, ih, performAll_cons, List.append_assoc]

omit [Store σ] in
/-- What is shown by the marks of an answer: the deed of the session that is answered. -/
theorem shown_answerMarks (h : Hub σ) (viewer id : SessionId) (now : UInt32) (frame : Bytes) :
    shown viewer (h.answerMarks id frame) =
      (h.deedOf? viewer (.answer id now frame)).toList.map .deed := by
  rw [answerMarks, deedOf?]
  cases Request.ofFrame? frame with
  | none => simp
  | some request =>
      by_cases own : id = viewer
      · subst own
        rw [if_pos rfl, Option.bind_some]
        cases accepted : h.deed? id request <;>
          simp [deedMarks, accepted, Mark.shownTo]
      · rw [if_neg own]
        cases accepted : h.deed? id request <;>
          simp [deedMarks, accepted, Mark.shownTo, own]

/-- An act of the hub itself is a succession of changes, which shows a session its own deed and then
the letters to it. -/
theorem trail_perform {h : Hub σ} {a : Act} (enabled : a.Enabled h) (inner : a.isOuter = false) :
    ∃ marks letters, Trail h marks (h.perform a) ∧ ∀ viewer, shown viewer marks =
      (h.deedOf? viewer a).toList.map .deed ++ (addressed viewer letters).map .told := by
  obtain ⟨letters, ends, trail⟩ := trail_act enabled inner
  refine ⟨_, letters, trail, ?_⟩
  intro viewer
  have deed : shown viewer (h.deedMarksOf a) = (h.deedOf? viewer a).toList.map .deed := by
    cases a with
    | answer id now frame => exact h.shown_answerMarks viewer id now frame
    | _ => rfl
  rw [shown_append, shown_append, deed, shown_letters, shown_ends, List.append_nil]

/-- What comes from outside queues nothing and is nobody's deed. -/
theorem unheard_of_outer (h : Hub σ) {a : Act} (outer : a.isOuter = true) :
    (h.perform a).router.sent = h.router.sent ∧ ∀ viewer, h.deedOf? viewer a = none := by
  cases a with
  | connect id host reader => exact ⟨rfl, fun _ => rfl⟩
  | retire id after => exact ⟨rfl, fun _ => rfl⟩
  | _ => cases outer

theorem queueOf_of_outer (h : Hub σ) {a : Act} (outer : a.isOuter = true) (viewer : SessionId) :
    (h.perform a).router.queueOf viewer = h.router.queueOf viewer := by
  obtain ⟨sent, _⟩ := h.unheard_of_outer outer
  exact congrArg (addressed viewer) sent

theorem sightsOf_of_outer (h : Hub σ) {a : Act} (outer : a.isOuter = true) (viewer : SessionId) :
    h.sightsOf viewer a = [] := by
  obtain ⟨_, none⟩ := h.unheard_of_outer outer
  rw [sightsOf, none, h.queueOf_of_outer outer, List.drop_length]
  rfl

/-- Nothing is taken out of a queue. -/
theorem queueOf_prefix_perform {h : Hub σ} {a : Act} (enabled : a.Enabled h) (viewer : SessionId) :
    h.router.queueOf viewer <+: (h.perform a).router.queueOf viewer := by
  cases outer : a.isOuter with
  | true => exact ⟨[], by rw [h.queueOf_of_outer outer, List.append_nil]⟩
  | false =>
      obtain ⟨marks, _, trail, _⟩ := trail_perform enabled outer
      exact trail.queueOf_prefix viewer

/-- What a session is told in some acts is what comes into its queue. -/
theorem queueOf_performAll {h : Hub σ} {acts : List Act} (enabled : Along Act.Enabled h acts)
    (viewer : SessionId) :
    (h.performAll acts).router.queueOf viewer =
      h.router.queueOf viewer ++ tellings (h.sights viewer acts) := by
  induction acts generalizing h with
  | nil => exact (List.append_nil _).symm
  | cons a rest ih =>
      have come : (h.perform a).router.queueOf viewer =
          h.router.queueOf viewer ++ tellings (h.sightsOf viewer a) := by
        rw [sightsOf, tellings_append, tellings_deeds, tellings_told, List.nil_append]
        exact (List.prefix_iff_eq_append.mp (queueOf_prefix_perform enabled.1 viewer)).symm
      calc
        ((h.perform a).performAll rest).router.queueOf viewer =
            (h.perform a).router.queueOf viewer ++
              tellings ((h.perform a).sights viewer rest) := ih enabled.2
        _ = (h.router.queueOf viewer ++ tellings (h.sightsOf viewer a)) ++
              tellings ((h.perform a).sights viewer rest) := by rw [come]
        _ = h.router.queueOf viewer ++ tellings (h.sights viewer (a :: rest)) := by
          rw [sights, tellings_append, List.append_assoc]

theorem listens_of_outer {h : Hub σ} {a : Act} (outer : a.isOuter = true) {viewer : SessionId}
    (other : a.connected? ≠ some viewer)
    (listening : (h.perform a).router.listens viewer = true) :
    h.router.listens viewer = true := by
  cases a with
  | connect id host reader =>
      have apart : viewer ≠ id := fun same => other (congrArg some same.symm)
      rwa [perform, Router.listens, Router.session?_register, if_neg apart] at listening
  | retire id after =>
      obtain ⟨t, found, reading⟩ := Router.listens_iff.mp listening
      rw [perform, Router.retireReader, Router.session?_updateSession] at found
      split at found
      · obtain ⟨s, known, rfl⟩ := Option.map_eq_some_iff.mp found
        refine Router.listens_iff.mpr ⟨s, known, ?_⟩
        cases reader : s.reader with
        | staying => rfl
        | leaving left =>
            simp only [reader, QueueReader.isOpen_leaving, decide_eq_true_eq] at reading ⊢
            omega
      · exact Router.listens_iff.mpr ⟨t, found, reading⟩
  | _ => cases outer

/-- As long as its queue has a reader, a session sees of an act what some succession of changes shows
that leads to the same maps and nodes. -/
theorem perform_shown {h : Hub σ} {viewer : SessionId} {a : Act} (enabled : a.Enabled h)
    (other : a.connected? ≠ some viewer)
    (listening : (h.perform a).router.listens viewer = true) :
    h.router.listens viewer = true ∧
      ∃ marks h', Trail h marks h' ∧ h'.maps = (h.perform a).maps ∧
        h'.nodes = (h.perform a).nodes ∧
        h.sightsOf viewer a = (shown viewer marks).map (Sight.map Notification.toFrame) := by
  cases outer : a.isOuter with
  | true =>
      obtain ⟨maps, nodes, _, _⟩ := h.shared_of_outer outer
      exact ⟨listens_of_outer outer other listening, [], h, .still h, maps.symm, nodes.symm,
        h.sightsOf_of_outer outer viewer⟩
  | false =>
      obtain ⟨marks, letters, trail, seen⟩ := trail_perform enabled outer
      obtain ⟨before, queued⟩ := trail.heard listening
      refine ⟨before, marks, h.perform a, trail, rfl, rfl, ?_⟩
      rw [sightsOf, queued, List.drop_left, seen viewer, tellings_append, tellings_deeds,
        tellings_told, List.nil_append, List.map_append, List.map_map, List.map_map, List.map_map]
      rfl

theorem listens_of_performAll {h : Hub σ} {viewer : SessionId} {acts : List Act}
    (enabled : Along Act.Enabled h acts) (others : ∀ a ∈ acts, a.connected? ≠ some viewer)
    (listening : (h.performAll acts).router.listens viewer = true) :
    h.router.listens viewer = true := by
  induction acts generalizing h with
  | nil => exact listening
  | cons a rest ih =>
      have later := ih enabled.2 (fun b member => others b (List.mem_cons_of_mem _ member)) listening
      exact (perform_shown enabled.1 (others a List.mem_cons_self) later).1

/-- Nothing happens to a session that is not connected. -/
theorem perform_unknown {h : Hub σ} {viewer : SessionId} {a : Act} (enabled : a.Enabled h)
    (other : a.connected? ≠ some viewer) (unknown : h.router.isRegistered viewer = false) :
    (h.perform a).router.isRegistered viewer = false ∧ h.sightsOf viewer a = [] := by
  cases outer : a.isOuter with
  | true =>
      refine ⟨?_, h.sightsOf_of_outer outer viewer⟩
      cases a with
      | connect id host reader =>
          have apart : viewer ≠ id := fun same => other (congrArg some same.symm)
          rw [perform, Router.isRegistered_eq_isSome, Router.session?_register, if_neg apart]
          exact unknown
      | retire id after => exact (isRegistered_amend _ _ _ _).trans unknown
      | _ => cases outer
  | false =>
      obtain ⟨marks, letters, trail, seen⟩ := trail_perform enabled outer
      have none : h.deedOf? viewer a = none := by
        cases a with
        | answer id now frame =>
            have apart : id ≠ viewer := by
              rintro rfl
              cases unknown.symm.trans enabled
            exact if_neg apart
        | _ => rfl
      constructor
      · rw [Bool.eq_false_iff, Ne, trail.isRegistered_iff, unknown]
        simp
      · rw [sightsOf, none, trail.queueOf_of_not_registered unknown, List.drop_length]
        rfl

/-- A relation between the hub and what a session was shown that can be followed through a run. -/
structure Followed (viewer : SessionId) (Q : Hub σ → List (Sight Notification) → Prop) : Prop where
  /-- Every change keeps the relation, given what it shows. -/
  change : ∀ {h h' : Hub σ} {marks : List Mark} {seen : List (Sight Notification)},
    Change h marks h' → Q h seen → Q h' (seen ++ shown viewer marks)
  /-- Only the maps and nodes matter. -/
  shared : ∀ {h h' : Hub σ} {seen : List (Sight Notification)},
    h'.maps = h.maps → h'.nodes = h.nodes → Q h seen → Q h' seen
  /-- A session that subscribes to nothing has to be shown nothing. -/
  newcomer : ∀ {h : Hub σ}, (∀ map, ¬ h.ViewsMap viewer map) → (∀ node, ¬ h.ViewsNode viewer node) →
    Q h []

namespace Followed

variable {viewer : SessionId} {Q : Hub σ → List (Sight Notification) → Prop}

theorem trail (followed : Followed viewer Q) {h h' : Hub σ} {marks : List Mark}
    {seen : List (Sight Notification)} (trail : Trail h marks h') (start : Q h seen) :
    Q h' (seen ++ shown viewer marks) := by
  induction trail generalizing seen with
  | still => simpa using start
  | step change _ ih =>
      rw [shown_append, ← List.append_assoc]
      exact ih (followed.change change start)

/-- The relation is kept as long as the session is not connected anew and its queue has a reader. -/
theorem performAll (followed : Followed viewer Q) {h : Hub σ} {acts : List Act}
    {seen : List (Sight Notification)} (enabled : Along Act.Enabled h acts)
    (others : ∀ a ∈ acts, a.connected? ≠ some viewer)
    (listening : (h.performAll acts).router.listens viewer = true) (start : Q h seen) :
    ∃ more, h.sights viewer acts = more.map (Sight.map Notification.toFrame) ∧
      Q (h.performAll acts) (seen ++ more) := by
  induction acts generalizing h seen with
  | nil => exact ⟨[], rfl, by simpa using start⟩
  | cons a rest ih =>
      have restOthers : ∀ b ∈ rest, b.connected? ≠ some viewer :=
        fun b member => others b (List.mem_cons_of_mem _ member)
      have later := listens_of_performAll enabled.2 restOthers listening
      obtain ⟨_, marks, h', trail, maps, nodes, sight⟩ :=
        perform_shown enabled.1 (others a List.mem_cons_self) later
      have next : Q (h.perform a) (seen ++ shown viewer marks) :=
        followed.shared maps.symm nodes.symm (followed.trail trail start)
      obtain ⟨more, sights, kept⟩ := ih enabled.2 restOthers listening next
      refine ⟨shown viewer marks ++ more, ?_, ?_⟩
      · rw [Hub.sights, sight, sights, List.map_append]
      · rwa [← List.append_assoc]

/-- Relations can be followed side by side. -/
theorem and {R : Hub σ → List (Sight Notification) → Prop} (one : Followed viewer Q)
    (two : Followed viewer R) : Followed viewer fun h seen => Q h seen ∧ R h seen where
  change change start := ⟨one.change change start.1, two.change change start.2⟩
  shared maps nodes start := ⟨one.shared maps nodes start.1, two.shared maps nodes start.2⟩
  newcomer noMap noNode := ⟨one.newcomer noMap noNode, two.newcomer noMap noNode⟩

/-- Sessions are told nothing incoherent. -/
theorem coherent (viewer : SessionId) :
    Followed viewer fun (_ : Hub σ) seen => ∀ n ∈ tellings seen, n.Coherent where
  change change start := by
    intro n member
    rw [tellings_append, tellings_shown] at member
    rcases List.mem_append.mp member with before | now
    · exact start n before
    · obtain ⟨l, among, rfl⟩ := List.mem_map.mp now
      exact change.coherent l (List.mem_filter.mp among).1
  shared _ _ start := start
  newcomer _ _ := fun _ member => nomatch member

end Followed

/-- A session that is not connected stays so until it is, and sees nothing. -/
theorem sights_of_not_registered {h : Hub σ} {viewer : SessionId} {acts : List Act}
    (enabled : Along Act.Enabled h acts) (others : ∀ a ∈ acts, a.connected? ≠ some viewer)
    (unknown : h.router.isRegistered viewer = false) :
    (h.performAll acts).router.isRegistered viewer = false ∧ h.sights viewer acts = [] := by
  induction acts generalizing h with
  | nil => exact ⟨unknown, rfl⟩
  | cons a rest ih =>
      obtain ⟨later, quiet⟩ := perform_unknown enabled.1 (others a List.mem_cons_self) unknown
      obtain ⟨last, rest⟩ := ih enabled.2 (fun b member => others b (List.mem_cons_of_mem _ member))
        later
      refine ⟨last, ?_⟩
      rw [sights, quiet, rest]
      rfl

omit [Store σ] in
/-- A session that is not connected subscribes to nothing. -/
theorem Orderly.views_nothing {h : Hub σ} (ok : h.Orderly) {viewer : SessionId}
    (unknown : h.router.isRegistered viewer = false) :
    (∀ map, ¬ h.ViewsMap viewer map) ∧ ∀ node, ¬ h.ViewsNode viewer node := by
  constructor
  · rintro map ⟨m, found, member⟩
    cases unknown.symm.trans (ok.map_known map m viewer found member)
  · rintro node ⟨n, found, member⟩
    cases unknown.symm.trans (ok.node_known node n viewer found member)

namespace Followed

variable {viewer : SessionId} {Q : Hub σ → List (Sight Notification) → Prop}

/-- The relation holds to begin with when a session is connected. -/
theorem connect (followed : Followed viewer Q) {h : Hub σ} (ok : h.Orderly)
    (unknown : h.router.isRegistered viewer = false) {a : Act}
    (connects : a.connected? = some viewer) : Q (h.perform a) [] := by
  obtain ⟨maps, nodes, _, _⟩ := h.shared_of_outer (Act.isOuter_of_connected? connects)
  obtain ⟨noMap, noNode⟩ := ok.views_nothing unknown
  exact followed.shared maps nodes (followed.newcomer noMap noNode)

/-- A followed relation holds after a row of acts of which at most one connects the session, if its
queue has a reader then. -/
theorem of_acts (followed : Followed viewer Q) {h : Hub σ} {acts : List Act} (ok : h.Orderly)
    (empty : h.router.isRegistered viewer = false) (enabled : Along Act.Enabled h acts)
    (fresh : (acts.filterMap Act.connected?).Nodup)
    (listening : (h.performAll acts).router.listens viewer = true) :
    ∃ seen, h.sights viewer acts = seen.map (Sight.map Notification.toFrame) ∧
      Q (h.performAll acts) seen := by
  by_cases connects : ∃ a ∈ acts, a.connected? = some viewer
  · obtain ⟨a, member, connects⟩ := connects
    obtain ⟨before, later, rfl⟩ := List.append_of_mem member
    obtain ⟨othersBefore, othersLater⟩ := Act.connected?_ne_of_nodup fresh connects
    obtain ⟨enabledBefore, _, enabledLater⟩ := along_append.mp enabled
    obtain ⟨unknown, nothing⟩ := sights_of_not_registered enabledBefore othersBefore empty
    -- Subscribers are connected, so nothing waits for a session that connects.
    have orderly : (h.performAll before).Orderly :=
      performAll_keeps (fun h a => orderly_perform) enabledBefore ok
    have start := followed.connect orderly unknown connects
    rw [performAll_append, performAll_cons] at listening ⊢
    obtain ⟨more, shown, kept⟩ := followed.performAll enabledLater othersLater listening start
    refine ⟨more, ?_, kept⟩
    rw [sights_append, nothing, sights, sightsOf_of_outer _ (Act.isOuter_of_connected? connects),
      shown]
    rfl
  · have others : ∀ a ∈ acts, a.connected? ≠ some viewer :=
      fun a member same => connects ⟨a, member, same⟩
    have unknown := (sights_of_not_registered enabled others empty).1
    cases unknown.symm.trans (Router.isRegistered_of_listens listening)

end Followed

end Hub

theorem connected?_answers (id : SessionId) (clock : Clock) (frames : List Bytes) :
    (Act.answers id clock frames).filterMap Act.connected? = [] := by
  induction frames generalizing clock with
  | nil => rfl
  | cons frame rest ih => exact ih (clock.after 1)

theorem Hub.connected?_finishes {σ : Type} [Store σ] (h : Hub σ) (pending : List SessionId) :
    (h.finishes pending).filterMap Act.connected? = [] := by
  rw [Hub.finishes]
  induction h.endings pending with
  | nil => rfl
  | cons id rest ih => exact ih

/-- The session that a move connects. -/
def Move.connected? : Move → Option SessionId
  | .event (.connected id _ _) => some id
  | .event (.data ..) | .event (.disconnected _) | .event .shutdown | .retire .. => none

namespace Engine

variable {σ : Type} [Store σ]

/-- What a session sees of a run. -/
def sights (e : Engine σ) (viewer : SessionId) (moves : List Move) : List (Sight Frame) :=
  e.hub.sights viewer (e.acts moves)

theorem connected?_actsOf (e : Engine σ) (m : Move) :
    (e.actsOf m).filterMap Act.connected? = m.connected?.toList := by
  cases m with
  | retire id after => rfl
  | event event =>
      cases event with
      | connected id host reader => rfl
      | disconnected id => exact Hub.connected?_finishes _ _
      | shutdown => rfl
      | data id bytes clock =>
          rw [actsOf, receiveActs]
          cases e.hub.router.session? id with
          | none => rfl
          | some s =>
              have reaping : ∀ h : Hub σ, h.reaping.filterMap Act.connected? = [] :=
                fun h => Hub.connected?_finishes _ _
              have answers : ∀ (rest : Bytes) (frames : List Bytes),
                  (Act.buffer id rest :: Act.answers id clock frames).filterMap
                    Act.connected? = [] :=
                fun rest frames => connected?_answers id clock frames
              dsimp only
              rw [List.filterMap_append, List.filterMap_append, reaping, answers]
              cases (Framing.split e.maxFrameSize (s.pushBytes bytes).inbound).stop with
              | wantsMore => rfl
              | badLength length =>
                  rw [Hub.connected?_finishes]
                  rfl

/-- The acts of a run connect the sessions that its moves connect. -/
theorem connected?_acts (e : Engine σ) (moves : List Move) :
    (e.acts moves).filterMap Act.connected? = moves.filterMap Move.connected? := by
  induction moves generalizing e with
  | nil => rfl
  | cons m rest ih =>
      rw [acts, List.filterMap_append, connected?_actsOf, ih, List.filterMap_cons]
      cases m.connected? <;> rfl

/-- A followed relation holds at the end of every run in which no session number is used twice, for
every session whose queue has a reader then. -/
theorem followed_of_run {viewer : SessionId} {Q : Hub σ → List (Sight Notification) → Prop}
    (followed : Hub.Followed viewer Q) {e : Engine σ} {moves : List Move} (ok : e.hub.Orderly)
    (empty : e.hub.router.isRegistered viewer = false)
    (fresh : (moves.filterMap Move.connected?).Nodup)
    (listening : (e.after moves).hub.router.listens viewer = true) :
    ∃ seen, e.sights viewer moves = seen.map (Sight.map Notification.toFrame) ∧
      Q (e.after moves).hub seen := by
  rw [hub_after] at listening ⊢
  rw [← e.connected?_acts] at fresh
  exact followed.of_acts ok empty (e.enabled_acts moves) fresh listening

end Engine

/-- A sight as a session understands it; a frame that it cannot read is passed over. -/
def Sight.read? : Sight Frame → Option (Sight Notification)
  | deed d => some (deed d)
  | told f => (Notification.ofFrame? f).map told

/-- What was shown is understood if it is coherent and short enough. -/
theorem filterMap_read? {seen : List (Sight Notification)}
    (coherent : ∀ n ∈ tellings seen, n.Coherent)
    (short : ∀ n ∈ tellings seen, n.toFrame.length ≤ Field.maxBlock) :
    (seen.map (Sight.map Notification.toFrame)).filterMap Sight.read? = seen := by
  induction seen with
  | nil => rfl
  | cons sight rest ih =>
      cases sight with
      | deed d =>
          have later := ih coherent short
          have read : Sight.read? (Sight.map Notification.toFrame (.deed d)) = some (.deed d) := rfl
          rw [List.map_cons, List.filterMap_cons_some read, later]
      | told n =>
          have first : n ∈ tellings (.told n :: rest) := List.mem_cons_self
          have later := ih (fun m member => coherent m (List.mem_cons_of_mem _ member))
            fun m member => short m (List.mem_cons_of_mem _ member)
          have read : Sight.read? (Sight.map Notification.toFrame (.told n)) = some (.told n) := by
            have back := Notification.ofFrame?_toFrame
              (Notification.fits_of_length (short n first)) (coherent n first)
            rw [Sight.map, Sight.read?, back]
            rfl
          rw [List.map_cons, List.filterMap_cons_some read, later]

namespace Engine

variable {σ : Type} [Store σ]

/-- A session whose queue has a reader was shown what a followed relation says, and it understands
all of it if every frame in its queue is short enough for its length to be announced. -/
theorem understood_of_run {viewer : SessionId} {Q : Hub σ → List (Sight Notification) → Prop}
    (followed : Hub.Followed viewer Q) (store : σ) (maxFrameSize : Nat) {moves : List Move}
    (fresh : (moves.filterMap Move.connected?).Nodup)
    (listening : ((start store maxFrameSize).after moves).hub.router.listens viewer = true) :
    ∃ seen,
      (start store maxFrameSize).sights viewer moves = seen.map (Sight.map Notification.toFrame) ∧
      Q ((start store maxFrameSize).after moves).hub seen ∧
      ((∀ f ∈ ((start store maxFrameSize).after moves).hub.router.queueOf viewer,
        f.length ≤ Field.maxBlock) →
        ((start store maxFrameSize).sights viewer moves).filterMap Sight.read? = seen) := by
  obtain ⟨seen, sights, holds, coherent⟩ :=
    followed_of_run (followed.and (.coherent viewer)) (Hub.Orderly.start store) rfl fresh listening
  refine ⟨seen, sights, holds, ?_⟩
  intro short
  rw [sights]
  apply filterMap_read? coherent
  intro n member
  apply short
  have queue := Hub.queueOf_performAll ((start store maxFrameSize).enabled_acts moves) viewer
  rw [← hub_after] at queue
  rw [queue]
  apply List.mem_append_right
  have told : tellings ((start store maxFrameSize).sights viewer moves) =
      (tellings seen).map Notification.toFrame := by
    rw [sights, tellings_map]
  exact told ▸ List.mem_map_of_mem member

end Engine

end TopoSync
