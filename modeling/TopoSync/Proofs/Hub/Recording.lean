import TopoSync.Proofs.Acts
import TopoSync.Proofs.Hub.Untouched

/-!
# What placeholders stand for in the course of time

Once a placeholder of a session stands for a number, it does so until the session has acknowledged the
number or deleted an element under the placeholder, or is ended or connected anew.  Recording it again
makes no difference.
-/

namespace TopoSync

/-- The placeholder that a request has forgotten if it is accepted. -/
def Request.forgotten? : Request → Option (ElementKind × ElementId)
  | renameSymbol _ old _ | deleteSymbol _ old => some (.symbol, old)
  | renameConnection _ old _ | deleteConnection _ old => some (.connection, old)
  | login .. | getMapList | openMap _ | closeMap _ | addSymbol .. | translateSymbol ..
  | addConnection .. | openNode _ | closeNode _ | setNode .. | lockNode _ | unlockNode _
  | unsupported _ => none

/-- Whether an act makes the hub forget what a placeholder of a session stands for. -/
def Act.Forgets {σ : Type} [Store σ] (kind : ElementKind) (session : SessionId) (id : ElementId)
    (h : Hub σ) : Act → Prop
  | answer q now frame =>
      q = session ∧ (Request.ofFrame? frame).bind Request.forgotten? = some (kind, id) ∧
        (h.answerFrame q now frame).1 = .ok ()
  | connect q _ _ | finish q => q = session
  | retire .. | buffer .. | clearMarks | flush => False

/-- The session in whose tables of placeholders an act may change something. -/
def Act.tableOwner? : Act → Option SessionId
  | connect id .. | answer id .. | finish id => some id
  | retire .. | buffer .. | clearMarks | flush => none

namespace Hub

variable {σ : Type} {h : Hub σ} {kind : ElementKind} {session : SessionId} {id k : ElementId}

theorem recorded?_of_placeholders? {h' : Hub σ}
    (same : h'.placeholders? kind session = h.placeholders? kind session) (id : ElementId) :
    h'.recorded? kind session id = h.recorded? kind session id := by
  rw [recorded?, recorded?, same]

theorem placeholders?_of_session? {s : Session} (known : h.router.session? session = some s)
    (kind : ElementKind) : h.placeholders? kind session = some (s.placeholdersFor kind) := by
  rw [placeholders?, known]
  rfl

theorem placeholders?_amend_self {p : Placeholders}
    (known : h.placeholders? kind session = some p) (f : Session → Session) :
    ∃ s, s.placeholdersFor kind = p ∧
      (h.amend session f).placeholders? kind session = some ((f s).placeholdersFor kind) := by
  obtain ⟨s, found, same⟩ := Option.map_eq_some_iff.mp known
  refine ⟨s, same, ?_⟩
  rw [placeholders?_amend, found, Option.map_some, if_pos rfl]

section Elements

variable {α : Type} [MapElement α] (kinds : kind.Describes α)

include kinds

theorem placeholders?_withPlaceholders {p : Placeholders}
    (known : h.placeholders? kind session = some p) (p' : Placeholders) :
    (h.amend session fun s => MapElement.withPlaceholders α s p').placeholders? kind session =
      some p' := by
  obtain ⟨s, _, amended⟩ := placeholders?_amend_self known fun s =>
    MapElement.withPlaceholders α s p'
  rw [amended, kinds.writes]

/-- Recording a placeholder changes the table if the placeholder is free, and does nothing else. -/
theorem placeholders?_recordPlaceholder {p : Placeholders}
    (known : h.placeholders? kind session = some p) (old new : ElementId) :
    (h.amend session fun s => s.recordPlaceholder α old new).placeholders? kind session =
      some ((p.insert old new).toOption.getD p) := by
  obtain ⟨s, rfl, amended⟩ := placeholders?_amend_self known fun s =>
    s.recordPlaceholder α old new
  rw [amended, Session.recordPlaceholder, kinds.reads]
  cases (s.placeholdersFor kind).insert old new with
  | error reason => rfl
  | ok p' => exact congrArg some (kinds.writes s p')

/-- Adding an element leaves the table as it is or records the placeholder. -/
theorem placeholders?_addElement {map : MapId} {temp new : ElementId} {build : ElementId → α}
    (added : (h.addElement session map temp build).1 = .ok new) :
    temp < 0 ∧ ∃ p, h.placeholders? kind session = some p ∧
      (h.addElement session map temp build).2.placeholders? kind session =
        some ((p.insert temp new).toOption.getD p) := by
  rcases h.addElement_cases session map temp build with
    ⟨e, refused⟩ | ⟨m, number, negative, registered, _, _, _, effect⟩
  · rw [refused] at added
    cases added
  · rw [effect] at added ⊢
    obtain rfl : number = new := Except.ok.inj added
    obtain ⟨s, found⟩ := Router.isRegistered_iff_exists.mp registered
    have known := placeholders?_of_session? found kind
    refine ⟨negative, s.placeholdersFor kind, known, ?_⟩
    exact placeholders?_recordPlaceholder kinds ((placeholders?_post ..).trans known) temp number

/-- Adding an element forgets nothing. -/
theorem recorded?_addElement (recorded : h.recorded? kind session id = some k) (map : MapId)
    (temp : ElementId) (build : ElementId → α) :
    (h.addElement session map temp build).2.recorded? kind session id = some k := by
  rcases verdict : (h.addElement session map temp build).1 with reason | new
  · rcases h.addElement_cases session map temp build with ⟨e, refused⟩ | ⟨_, _, _, _, _, _, _, effect⟩
    · rw [refused]
      exact recorded
    · rw [effect] at verdict
      cases verdict
  · obtain ⟨_, p, known, renewed⟩ := placeholders?_addElement kinds verdict
    have stands : p.table.get? id = some k := by rwa [recorded?, known] at recorded
    rw [recorded?, renewed, Option.bind_some]
    cases inserted : p.insert temp new with
    | error reason => exact stands
    | ok p' => exact Placeholders.get?_of_insert stands inserted

/-- A placeholder that stands for nothing stands for the number of the element that is added under
it. -/
theorem recorded?_of_addElement {map : MapId} {temp : ElementId} {build : ElementId → α}
    (added : (h.addElement session map temp build).1 = .ok k)
    (free : h.recorded? kind session temp = none) :
    temp < 0 ∧ (h.addElement session map temp build).2.recorded? kind session temp = some k := by
  obtain ⟨negative, p, known, renewed⟩ := placeholders?_addElement kinds added
  have unused : p.table.get? temp = none := by rwa [recorded?, known] at free
  refine ⟨negative, ?_⟩
  rw [recorded?, renewed, Placeholders.insert, if_neg (Int32.not_le.mpr negative), unused]
  exact Table.get?_insert_self _ _ _

/-- An acknowledgement forgets one placeholder, if it is accepted. -/
theorem recorded?_acknowledge (recorded : h.recorded? kind session id = some k)
    (old new : ElementId) :
    (h.acknowledge α session old new).2.recorded? kind session id = some k ∨
      old = id ∧ (h.acknowledge α session old new).1 = .ok () := by
  rcases h.acknowledge_cases α session old new with ⟨e, refused⟩ | ⟨s, ids, known, erased, effect⟩
  · rw [refused]
    exact .inl recorded
  · by_cases here : old = id
    · rw [effect]
      exact .inr ⟨here, rfl⟩
    · have table := placeholders?_of_session? known kind
      have stands : (s.placeholdersFor kind).table.get? id = some k := by
        rwa [recorded?, table] at recorded
      rw [effect, recorded?, placeholders?_withPlaceholders kinds table]
      rw [kinds.reads] at erased
      exact .inl (Placeholders.get?_of_erase stands (Ne.symm here) erased)

/-- A deletion forgets the placeholder that it is made under, if it is accepted. -/
theorem recorded?_deleteElement (recorded : h.recorded? kind session id = some k) (map : MapId)
    (number : ElementId) :
    (h.deleteElement α session map number).2.recorded? kind session id = some k ∨
      number = id ∧ ∃ n, (h.deleteElement α session map number).1 = .ok n := by
  rcases h.deleteElement_cases (α := α) session map number with
    ⟨e, refused⟩ | ⟨m, s, n, ids, _, _, known, _, forgotten, _, effect⟩
  · rw [refused]
    exact .inl recorded
  · by_cases here : number = id
    · rw [effect]
      exact .inr ⟨here, n, rfl⟩
    · have table := placeholders?_of_session? known kind
      have stands : (s.placeholdersFor kind).table.get? id = some k := by
        rwa [recorded?, table] at recorded
      have renewed := placeholders?_withPlaceholders kinds table ids
      left
      rw [effect, recorded?_of_placeholders? (placeholders?_post ..), recorded?]
      refine (congrArg (Option.bind · _) renewed).trans ?_
      rw [kinds.reads] at forgotten
      -- the table changes only if the element was deleted under a placeholder
      split at forgotten
      · rwa [← Except.ok.inj forgotten]
      · exact Placeholders.get?_of_erase stands (Ne.symm here) forgotten

end Elements

variable [Store σ]

/-- A request of anybody leaves a placeholder standing for its number, unless the session itself makes
the hub forget it. -/
theorem recorded?_apply (recorded : h.recorded? kind session id = some k) (q : SessionId)
    (now : UInt32) (request : Request) :
    (h.apply q now request).2.recorded? kind session id = some k ∨
      q = session ∧ request.forgotten? = some (kind, id) ∧ (h.apply q now request).1 = .ok () := by
  by_cases here : request.tableKind?.map (fun kind => (q, kind)) = some (session, kind)
  · obtain ⟨own, concerned, same⟩ := Option.map_eq_some_iff.mp here
    obtain ⟨rfl, rfl⟩ := Prod.mk.inj same
    cases request with
    | addSymbol map temp x y =>
        obtain rfl := Option.some.inj concerned
        exact .inl (recorded?_addElement describes_symbol recorded map temp _)
    | addConnection map temp sym0 sym1 =>
        obtain rfl := Option.some.inj concerned
        rw [apply, addConnection]
        split
        · exact .inl recorded
        · exact .inl (recorded?_addElement describes_connection recorded map temp _)
    | renameSymbol map old new =>
        obtain rfl := Option.some.inj concerned
        refine (recorded?_acknowledge describes_symbol recorded old new).imp_right ?_
        rintro ⟨rfl, accepted⟩
        exact ⟨rfl, rfl, accepted⟩
    | renameConnection map old new =>
        obtain rfl := Option.some.inj concerned
        refine (recorded?_acknowledge describes_connection recorded old new).imp_right ?_
        rintro ⟨rfl, accepted⟩
        exact ⟨rfl, rfl, accepted⟩
    | deleteSymbol map number =>
        obtain rfl := Option.some.inj concerned
        refine (recorded?_deleteElement describes_symbol recorded map number).imp_right ?_
        rintro ⟨rfl, n, accepted⟩
        exact ⟨rfl, rfl, congrArg (Except.map fun _ => ()) accepted⟩
    | deleteConnection map number =>
        obtain rfl := Option.some.inj concerned
        refine (recorded?_deleteElement describes_connection recorded map number).imp_right ?_
        rintro ⟨rfl, n, accepted⟩
        exact ⟨rfl, rfl, congrArg (Except.map fun _ => ()) accepted⟩
    | _ => cases concerned
  · have same := (h.sameBut_apply q now request).tables session kind here
    exact .inl ((recorded?_of_placeholders? same id).trans recorded)

theorem placeholders?_closeMaps (h : Hub σ) (q : SessionId) (maps : List MapId)
    (kind : ElementKind) (session : SessionId) :
    (h.closeMaps q maps).placeholders? kind session = h.placeholders? kind session := by
  induction maps generalizing h with
  | nil => rfl
  | cons map rest ih => exact (ih _).trans ((sameBut_closeMap h q map).tables session kind nofun)

theorem placeholders?_closeNodes (h : Hub σ) (q : SessionId) (nodes : List NodeId)
    (kind : ElementKind) (session : SessionId) :
    (h.closeNodes q nodes).placeholders? kind session = h.placeholders? kind session := by
  induction nodes generalizing h with
  | nil => rfl
  | cons node rest ih => exact (ih _).trans ((sameBut_closeNode h q node).tables session kind nofun)

/-- The end of another session is nothing to the placeholders of a session. -/
theorem placeholders?_endSession {q : SessionId} (other : session ≠ q) :
    (h.endSession q).placeholders? kind session = h.placeholders? kind session := by
  have released : ((h.releaseMaps q).2.releaseNodes q).2.placeholders? kind session =
      h.placeholders? kind session :=
    (placeholders?_closeNodes ..).trans (placeholders?_closeMaps ..)
  rw [← released, endSession, placeholders?, Router.session?_unregister, if_neg other]
  rfl

/-- An act leaves the tables of every session alone that it does not connect, answer or end. -/
theorem placeholders?_perform {a : Act} (other : a.tableOwner? ≠ some session) :
    (h.perform a).placeholders? kind session = h.placeholders? kind session := by
  cases a with
  | connect q host reader =>
      have apart : ¬ session = q := fun same => other (congrArg some same.symm)
      rw [placeholders?, perform, Router.session?_register, if_neg apart]
      rfl
  | retire q after =>
      refine (h.placeholders?_amend q _ kind session).trans ?_
      rw [placeholders?]
      congr 1
      funext s
      split
      · split <;> cases kind <;> rfl
      · rfl
  | buffer q rest =>
      refine (h.placeholders?_amend q _ kind session).trans ?_
      rw [placeholders?]
      congr 1
      funext s
      split
      · cases kind <;> rfl
      · rfl
  | answer q now frame =>
      rw [perform, answerFrame_eq]
      cases Request.ofFrame? frame with
      | none => rfl
      | some request =>
          refine (h.sameBut_apply q now request).tables session kind fun same => ?_
          obtain ⟨_, _, own⟩ := Option.map_eq_some_iff.mp same
          exact other (congrArg some (Prod.mk.inj own).1)
  | finish q => exact placeholders?_endSession fun same => other (congrArg some same.symm)
  | clearMarks => rfl
  | flush =>
      rw [placeholders?, perform, router_flush]
      rfl

/-- What an act does not make the hub forget is kept. -/
theorem recorded?_perform {a : Act} (recorded : h.recorded? kind session id = some k)
    (kept : ¬ a.Forgets kind session id h) :
    (h.perform a).recorded? kind session id = some k := by
  by_cases other : a.tableOwner? ≠ some session
  · exact (recorded?_of_placeholders? (placeholders?_perform other) id).trans recorded
  have own : a.tableOwner? = some session := Classical.not_not.mp other
  cases a with
  | answer q now frame =>
      rw [perform]
      cases asked : Request.ofFrame? frame with
      | none => rwa [answerFrame_eq, asked]
      | some request =>
          rw [answerFrame_eq, asked]
          rcases recorded?_apply recorded q now request with still | ⟨own, forgets, accepted⟩
          · exact still
          · obtain ⟨command, answer⟩ := answerFrame_of_ofFrame? (σ := σ) asked
            refine absurd ⟨own, ?_, ?_⟩ kept
            · rwa [asked]
            · rw [answer, accepted]
              rfl
  | connect q host reader => exact absurd (Option.some.inj own) kept
  | finish q => exact absurd (Option.some.inj own) kept
  | _ => cases own

theorem recorded?_performAll {acts : List Act} (recorded : h.recorded? kind session id = some k)
    (kept : Along (fun h a => ¬ a.Forgets kind session id h) h acts) :
    (h.performAll acts).recorded? kind session id = some k :=
  performAll_keeps (Q := fun h => h.recorded? kind session id = some k)
    (fun _ _ kept recorded => recorded?_perform recorded kept) kept recorded

end Hub

end TopoSync
