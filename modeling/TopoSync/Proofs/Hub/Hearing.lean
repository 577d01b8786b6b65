import TopoSync.Proofs.Hub.Changes
import TopoSync.Proofs.Wire.Announcements

/-!
# What a session gets to see

A session sees its own deeds when they are carried out and the notifications that are posted to it.
As long as its queue has a reader, the frames that come into the queue are those of the notifications
that it is shown, in the same order.
-/

namespace TopoSync

/-- Something that a session sees: a deed of its own, or what it is told. -/
inductive Sight (α : Type)
  | deed (d : Deed)
  | told (what : α)
deriving DecidableEq, Repr

namespace Sight

variable {α β : Type}

/-- The same sight, told in other words. -/
def map (f : α → β) : Sight α → Sight β
  | deed d => deed d
  | told a => told (f a)

/-- What is told, if it is no deed. -/
def told? : Sight α → Option α
  | deed _ => none
  | told a => some a

end Sight

/-- What is told among some sights. -/
def tellings {α : Type} (seen : List (Sight α)) : List α :=
  seen.filterMap Sight.told?

@[simp] theorem tellings_append {α : Type} (first rest : List (Sight α)) :
    tellings (first ++ rest) = tellings first ++ tellings rest :=
  List.filterMap_append

@[simp] theorem tellings_told {α : Type} (what : List α) : tellings (what.map Sight.told) = what := by
  simp [tellings, List.filterMap_map, Function.comp_def, Sight.told?]

@[simp] theorem tellings_deeds {α : Type} (deeds : List Deed) :
    tellings (deeds.map Sight.deed : List (Sight α)) = [] := by
  simp [tellings, List.filterMap_map, Function.comp_def, Sight.told?]

theorem tellings_map {α β : Type} (f : α → β) (seen : List (Sight α)) :
    tellings (seen.map (Sight.map f)) = (tellings seen).map f := by
  induction seen with
  | nil => rfl
  | cons sight rest ih =>
      cases sight with
      | deed d => exact ih
      | told a => exact congrArg (f a :: ·) ih

namespace Mark

/-- What a mark shows to a session. -/
def shownTo (viewer : SessionId) : Mark → List (Sight Notification)
  | deed s d => if s = viewer then [.deed d] else []
  | letter l => if l.1 = viewer then [.told l.2] else []
  | ended _ => []

/-- The letter that a mark is. -/
def letter? : Mark → Option Letter
  | letter l => some l
  | deed .. | ended _ => none

end Mark

/-- What some marks show to a session. -/
def shown (viewer : SessionId) (marks : List Mark) : List (Sight Notification) :=
  marks.flatMap (Mark.shownTo viewer)

/-- The letters among some marks. -/
def lettersIn (marks : List Mark) : List Letter :=
  marks.filterMap Mark.letter?

@[simp] theorem shown_nil (viewer : SessionId) : shown viewer [] = [] := rfl

@[simp] theorem shown_append (viewer : SessionId) (first rest : List Mark) :
    shown viewer (first ++ rest) = shown viewer first ++ shown viewer rest :=
  List.flatMap_append

@[simp] theorem shown_cons (viewer : SessionId) (mark : Mark) (rest : List Mark) :
    shown viewer (mark :: rest) = mark.shownTo viewer ++ shown viewer rest :=
  List.flatMap_cons

/-- Of some letters a session is shown those for itself. -/
@[simp] theorem shown_letters (viewer : SessionId) (letters : List Letter) :
    shown viewer (letters.map .letter) = (addressed viewer letters).map .told := by
  induction letters with
  | nil => rfl
  | cons l rest ih =>
      rw [List.map_cons, shown_cons, ih, addressed_cons, List.map_append]
      by_cases own : l.1 = viewer <;> simp [Mark.shownTo, own]

/-- The end of a session is not shown to anybody. -/
@[simp] theorem shown_ends (viewer : SessionId) (sessions : List SessionId) :
    shown viewer (sessions.map .ended) = [] := by
  induction sessions with
  | nil => rfl
  | cons s rest ih => exact ih

theorem shown_letter (viewer session : SessionId) (n : Notification) :
    shown viewer [.letter (session, n)] = if session = viewer then [.told n] else [] := by
  rw [shown_cons, shown_nil, List.append_nil, Mark.shownTo]

@[simp] theorem lettersIn_letters (letters : List Letter) :
    lettersIn (letters.map .letter) = letters := by
  induction letters with
  | nil => rfl
  | cons l rest ih => simpa [lettersIn, Mark.letter?] using ih

@[simp] theorem lettersIn_deed (s : SessionId) (d : Deed) (rest : List Mark) :
    lettersIn (.deed s d :: rest) = lettersIn rest := rfl

/-- What a session is told is what the letters to it say. -/
theorem tellings_shown (viewer : SessionId) (marks : List Mark) :
    tellings (shown viewer marks) = addressed viewer (lettersIn marks) := by
  induction marks with
  | nil => rfl
  | cons mark rest ih =>
      rw [shown_cons, tellings_append, ih]
      cases mark with
      | deed s d =>
          by_cases own : s = viewer <;> simp [Mark.shownTo, own, tellings, Sight.told?]
      | ended s => rfl
      | letter l =>
          have letters : lettersIn (.letter l :: rest) = l :: lettersIn rest := rfl
          rw [letters, addressed_cons]
          by_cases own : l.1 = viewer <;> simp [Mark.shownTo, own, tellings, Sight.told?]

namespace Router

theorem listens_updateSession {r : Router} {id : SessionId} {f : Session → Session}
    (keeps : ∀ s, (f s).reader = s.reader) (q : SessionId) :
    (r.updateSession id f).listens q = r.listens q := by
  rw [listens, listens, session?_updateSession]
  split
  · cases r.session? q with
    | none => rfl
    | some s => simp [keeps]
  · rfl

theorem listens_of_listens_unregister {r : Router} {id q : SessionId}
    (listening : (r.unregister id).listens q = true) : r.listens q = true := by
  rw [listens, session?_unregister] at listening
  split at listening
  · cases listening
  · exact listening

end Router

namespace Hub

variable {σ : Type} [Store σ] {h h' : Hub σ} {marks : List Mark}

/-- What a change does to the router: it delivers its letters, or changes something that is kept of a
session, or clears the marks of failed sessions, or takes a session out. -/
theorem Change.router_cases (change : Change h marks h') :
    h'.router = (h.router.deliver ((lettersIn marks).map Letter.toFrame)).2 ∨
    (marks = [] ∧ ∃ id f, (∀ s : Session, (f s).reader = s.reader) ∧
      h'.router = h.router.updateSession id f) ∨
    (marks = [] ∧ h'.router = h.router.takeFailed.2) ∨
    ∃ id, marks = [.ended id] ∧ h'.router = h.router.unregister id := by
  cases change with
  | amended id f keeps => exact .inr (.inl ⟨rfl, id, f, keeps, rfl⟩)
  | marksCleared => exact .inr (.inr (.inl ⟨rfl, rfl⟩))
  | sessionEnded session noMap noNode => exact .inr (.inr (.inr ⟨session, rfl, rfl⟩))
  | mapFlushed map => exact .inl (router_writeBackMap h map)
  | mapGivenUp session map m found member last => exact .inl (router_writeBackMap h map)
  | nodeFlushed node => exact .inl (router_writeBackNode h node)
  | nodeGivenUp session node n found member free last => exact .inl (router_writeBackNode h node)
  | mapEdited session map m edit old found member fits =>
      rw [lettersIn_deed, lettersIn_letters]
      exact .inl rfl
  | nodeUpdated session node n fields found held =>
      rw [lettersIn_deed, lettersIn_letters]
      exact .inl rfl
  | nodeLocked node n s holder found free member known login host =>
      rw [lettersIn_letters]
      exact .inl rfl
  | nodeUnlocked session node n found held =>
      rw [lettersIn_letters]
      exact .inl rfl
  | _ => exact .inl rfl

/-- A session whose queue has a reader afterwards had one before, and got what it was shown. -/
theorem Change.heard (change : Change h marks h') {viewer : SessionId}
    (listening : h'.router.listens viewer = true) :
    h.router.listens viewer = true ∧
      h'.router.queueOf viewer =
        h.router.queueOf viewer ++ (tellings (shown viewer marks)).map Notification.toFrame := by
  rw [tellings_shown]
  rcases change.router_cases with
    delivered | ⟨silent, id, f, keeps, amended⟩ | ⟨silent, cleared⟩ | ⟨id, ended, out⟩
  · rw [delivered] at listening ⊢
    refine ⟨Router.listens_of_listens_deliver listening, ?_⟩
    rw [Router.queueOf_eq_addressed, Router.addressed_sent_of_listens listening]
    exact congrArg _ (addressed_map viewer Notification.toFrame (lettersIn marks))
  · subst silent
    rw [amended] at listening ⊢
    rw [Router.listens_updateSession keeps] at listening
    exact ⟨listening, (List.append_nil _).symm⟩
  · subst silent
    rw [cleared] at listening ⊢
    exact ⟨listening, (List.append_nil _).symm⟩
  · subst ended
    rw [out] at listening ⊢
    exact ⟨Router.listens_of_listens_unregister listening, (List.append_nil _).symm⟩

theorem Trail.heard (trail : Trail h marks h') {viewer : SessionId}
    (listening : h'.router.listens viewer = true) :
    h.router.listens viewer = true ∧
      h'.router.queueOf viewer =
        h.router.queueOf viewer ++ (tellings (shown viewer marks)).map Notification.toFrame := by
  induction trail with
  | still => exact ⟨listening, (List.append_nil _).symm⟩
  | @step h h₁ h₂ first rest change _ ih =>
      obtain ⟨later, heardLater⟩ := ih listening
      obtain ⟨before, heardFirst⟩ := change.heard later
      refine ⟨before, ?_⟩
      calc
        h₂.router.queueOf viewer =
            h₁.router.queueOf viewer ++
              (tellings (shown viewer rest)).map Notification.toFrame := heardLater
        _ = (h.router.queueOf viewer ++
                (tellings (shown viewer first)).map Notification.toFrame) ++
              (tellings (shown viewer rest)).map Notification.toFrame := by rw [heardFirst]
        _ = h.router.queueOf viewer ++
              (tellings (shown viewer (first ++ rest))).map Notification.toFrame := by
          rw [shown_append, tellings_append, List.map_append, List.append_assoc]

/-- Nothing is taken out of a queue. -/
theorem Change.queueOf_prefix (change : Change h marks h') (viewer : SessionId) :
    h.router.queueOf viewer <+: h'.router.queueOf viewer := by
  rcases change.router_cases with
    delivered | ⟨silent, id, f, keeps, amended⟩ | ⟨silent, cleared⟩ | ⟨id, ended, out⟩
  · rw [delivered, Router.queueOf_eq_addressed, Router.queueOf_eq_addressed,
      Router.addressed_sent_deliver]
    exact List.prefix_append _ _
  · rw [amended]
    exact List.prefix_rfl
  · rw [cleared]
    exact List.prefix_rfl
  · rw [out]
    exact List.prefix_rfl

theorem Trail.queueOf_prefix (trail : Trail h marks h') (viewer : SessionId) :
    h.router.queueOf viewer <+: h'.router.queueOf viewer := by
  induction trail with
  | still => exact List.prefix_rfl
  | step change _ ih => exact (change.queueOf_prefix viewer).trans ih

/-- Nothing is queued to a session that is not connected. -/
theorem Change.queueOf_of_not_registered (change : Change h marks h') {viewer : SessionId}
    (unknown : h.router.isRegistered viewer = false) :
    h'.router.queueOf viewer = h.router.queueOf viewer := by
  rcases change.router_cases with
    delivered | ⟨silent, id, f, keeps, amended⟩ | ⟨silent, cleared⟩ | ⟨id, ended, out⟩
  · have absent : h.router.session? viewer = none := by
      rwa [Router.isRegistered_eq_isSome, Option.isSome_eq_false_iff, Option.isNone_iff_eq_none]
        at unknown
    rw [delivered, Router.queueOf_eq_addressed, Router.addressed_sent_deliver, absent]
    exact List.append_nil _
  · rw [amended]
    rfl
  · rw [cleared]
    rfl
  · rw [out]
    rfl

theorem Trail.queueOf_of_not_registered (trail : Trail h marks h') {viewer : SessionId}
    (unknown : h.router.isRegistered viewer = false) :
    h'.router.queueOf viewer = h.router.queueOf viewer := by
  induction trail with
  | still => rfl
  | @step h h₁ _ _ _ change _ ih =>
      have later : h₁.router.isRegistered viewer = false := by
        rw [Bool.eq_false_iff, Ne, change.isRegistered_iff, unknown]
        simp
      exact (ih later).trans (change.queueOf_of_not_registered unknown)

theorem kindFor_ne_notFound (n : OpenNode) (viewer : SessionId) : n.kindFor viewer ≠ .notFound := by
  rw [OpenNode.kindFor]
  cases n.holder with
  | none => simp
  | some holder =>
      dsimp only
      split <;> simp

theorem isLocked_kindFor (n : OpenNode) (viewer : SessionId) :
    (n.kindFor viewer).isLocked = n.holder.isSome := by
  rw [OpenNode.kindFor]
  cases n.holder with
  | none => rfl
  | some holder =>
      dsimp only
      split <;> rfl

theorem Edit.coherent_notice (map : MapId) (e : Edit) : (e.notice map).Coherent := by
  cases e <;> trivial

theorem Edit.coherent_receipt {map : MapId} {old : ElementId} {e : Edit} {n : Notification}
    (received : n ∈ e.receipt map old) : n.Coherent := by
  cases e with
  | symbolAdded | connectionAdded =>
      rw [List.mem_singleton.mp received]
      trivial
  | symbolRemoved | symbolMoved | connectionRemoved => cases received

/-- Every letter is coherent: a snapshot of a node tells of a holder exactly if the node is locked. -/
theorem Change.coherent (change : Change h marks h') : ∀ l ∈ lettersIn marks, l.2.Coherent := by
  have others : ∀ (members : Roster) (leftOut : SessionId) (n : Notification), n.Coherent →
      ∀ l ∈ lettersToOthers members leftOut n, l.2.Coherent := by
    intro members leftOut n ok l member
    obtain ⟨_, _, rfl⟩ := mem_lettersToOthers member
    exact ok
  cases change with
  | mapEdited session map m edit old found member fits =>
      rw [lettersIn_deed, lettersIn_letters]
      intro l member
      rcases List.mem_append.mp member with receipt | notice
      · obtain ⟨n, received, rfl⟩ := List.mem_map.mp receipt
        exact Edit.coherent_receipt received
      · exact others _ _ _ (Edit.coherent_notice map edit) l notice
  | nodeUpdated session node n fields found held =>
      rw [lettersIn_deed, lettersIn_letters]
      exact others _ _ _ trivial
  | nodeLocked node n s holder found free member known login host =>
      rw [lettersIn_letters]
      intro l member
      obtain ⟨id, _, rfl⟩ := List.mem_map.mp member
      trivial
  | nodeUnlocked session node n found held =>
      rw [lettersIn_letters]
      intro l member
      obtain ⟨id, _, rfl⟩ := List.mem_map.mp member
      trivial
  | nodeJoined session node n known found =>
      intro l member
      cases List.mem_singleton.mp member
      refine ⟨kindFor_ne_notFound n session, ?_⟩
      rw [isLocked_kindFor, Option.isSome_map]
  | nodeLoaded session node known closed loaded =>
      intro l member
      cases List.mem_singleton.mp member
      exact ⟨by simp, rfl⟩
  | mapsListed session listed =>
      intro l member
      cases List.mem_singleton.mp member
      trivial
  | nodeMissed session node closed missing =>
      intro l member
      cases List.mem_singleton.mp member
      trivial
  | mapJoined session map m real known found =>
      intro l member
      cases List.mem_singleton.mp member
      trivial
  | mapLoaded session map real known closed loaded =>
      intro l member
      cases List.mem_singleton.mp member
      trivial
  | _ =>
      intro l member
      cases member

end Hub

end TopoSync
