import TopoSync.Proofs.Deeds
import TopoSync.Proofs.Hub.Untouched

/-!
# What an open map shows

What a map shows while it is open changes by the edits made to it and by nothing else, whoever opens
it, leaves it or ends.  An edit is made to an open map only, and leaves it open.
-/

namespace TopoSync

/-- The map that a request wants to edit. -/
def Request.editedMap? : Request → Option MapId
  | addSymbol map .. | deleteSymbol map _ | translateSymbol map .. | addConnection map ..
  | deleteConnection map _ => some map
  | login .. | getMapList | openMap _ | closeMap _ | renameSymbol .. | renameConnection ..
  | openNode _ | closeNode _ | setNode .. | lockNode _ | unlockNode _ | unsupported _ => none

namespace Hub

variable {σ : Type}

/-- What an open map shows. -/
def shown? (h : Hub σ) (map : MapId) : Option Diagram :=
  (h.maps.get? map).map OpenMap.diagram

/-- Whether an edit leads from one hub to another in what a map shows. -/
def EditedTo (map : MapId) (e : Edit) (h h' : Hub σ) : Prop :=
  ∃ d, h.shown? map = some d ∧ e.Fits d ∧ h'.shown? map = some (d.edited e)

/-- Whether the second hub shows of a map only what the first one shows. -/
def Retains (map : MapId) (h h' : Hub σ) : Prop :=
  ∀ d, h'.shown? map = some d → h.shown? map = some d

variable {h : Hub σ} {map : MapId}

theorem editedTo_of_insert {m : OpenMap} {e : Edit} {h' : Hub σ} (found : h.maps.get? map = some m)
    (fits : e.Fits m.diagram)
    (maps : h'.maps = h.maps.insert map { m with diagram := m.diagram.edited e }) :
    h.EditedTo map e h' := by
  refine ⟨m.diagram, ?_, fits, ?_⟩
  · rw [shown?, found]
    rfl
  · rw [shown?, maps, Table.get?_insert_self]
    rfl

theorem Retains.of_get? {h' : Hub σ} (same : h'.maps.get? map = h.maps.get? map) :
    h.Retains map h' := by
  intro d shows
  rwa [shown?, same] at shows

theorem Retains.trans {h' h'' : Hub σ} (one : h.Retains map h') (two : h'.Retains map h'') :
    h.Retains map h'' :=
  fun d shows => one d (two d shows)

theorem Retains.foldl {β : Type} {step : Hub σ → β → Hub σ}
    (one : ∀ h b, Retains map h (step h b)) (items : List β) (h : Hub σ) :
    h.Retains map (items.foldl step h) := by
  induction items generalizing h with
  | nil => exact fun _ shows => shows
  | cons b rest ih => exact (one h b).trans (ih (step h b))

/-- A request makes an edit of a map only if it wants to. -/
theorem editedMap?_of_deed? {session : SessionId} {request : Request} {e : Edit}
    (done : h.deed? session request = some (.edited map e)) : request.editedMap? = some map := by
  cases request with
  | addSymbol | addConnection | deleteSymbol | deleteConnection | translateSymbol =>
      obtain ⟨_, _, same⟩ := Option.map_eq_some_iff.mp done
      exact congrArg some (Deed.edited.inj same).1
  | setNode node fields =>
      obtain ⟨_, _, same⟩ := Option.map_eq_some_iff.mp done
      cases same
  | _ => cases done

variable [Store σ]

/-- Closing a map shows nothing new. -/
theorem retains_closeMap (h : Hub σ) (session : SessionId) (map q : MapId) :
    h.Retains map (h.closeMap session q).2 := by
  by_cases here : q = map
  · subst here
    rw [closeMap]
    split
    · exact fun _ shows => shows
    · rename_i m found
      have known := (subscribedMap?_eq_some_iff.mp found).1
      dsimp only
      split
      · intro d shows
        rw [shown?, maps_writeBackMap, Table.get?_erase, if_pos rfl] at shows
        cases shows
      · intro d shows
        rw [shown?, maps_putMap, Table.get?_insert_self] at shows
        rw [shown?, known]
        exact shows
  · exact .of_get? ((sameBut_closeMap h session q).maps map fun same => here (Option.some.inj same))

/-- A session that ends leaves what maps show as it is. -/
theorem retains_endSession (h : Hub σ) (map : MapId) (session : SessionId) :
    h.Retains map (h.endSession session) := by
  have nodes : (h.releaseMaps session).2.Retains map
      ((h.releaseMaps session).2.releaseNodes session).2 :=
    .of_get? (by rw [releaseNodes, maps_closeNodes])
  exact Retains.trans (Retains.foldl (fun h q => h.retains_closeMap session map q) _ h) nodes

omit [Store σ] in
theorem dropValue_unit (outcome : Outcome σ Unit) : dropValue outcome = outcome := by
  obtain ⟨_ | _, _⟩ := outcome <;> rfl

omit [Store σ] in
/-- A request to edit a map is refused without effect, or a subscriber of the map makes an edit that
fits, and nothing else changes about what is open of maps. -/
theorem Edits.effect {α : Type} {session : SessionId} {old : ElementId} {edit : α → Edit}
    {outcome : Outcome σ α} (edits : h.Edits session map old edit outcome) :
    (outcome.1.toOption.map (fun value => Deed.edited map (edit value)) = none ∧
      ∃ reason, dropValue outcome = (.error reason, h)) ∨
    ∃ e m, outcome.1.toOption.map (fun value => Deed.edited map (edit value)) =
        some (.edited map e) ∧
      (dropValue outcome).1 = .ok () ∧ h.maps.get? map = some m ∧ session ∈ m.subscribers ∧
      e.Fits m.diagram ∧
      (dropValue outcome).2.maps = h.maps.insert map { m with diagram := m.diagram.edited e } := by
  cases edits with
  | refused reason => exact .inl ⟨rfl, reason, rfl⟩
  | made value m found member fits made =>
      exact .inr ⟨edit value, m, rfl, rfl, found, member, fits, made.maps⟩

/-- A request for an edit is refused without effect, or a subscriber of the map makes the edit, and
nothing else changes about what is open of maps. -/
theorem edit_cases {session : SessionId} {request : Request}
    (wants : request.editedMap? = some map) (h : Hub σ) (now : UInt32) :
    (h.deed? session request = none ∧
      ∃ reason, h.apply session now request = (.error reason, h)) ∨
    ∃ e m, h.deed? session request = some (.edited map e) ∧
      (h.apply session now request).1 = .ok () ∧ h.maps.get? map = some m ∧
      session ∈ m.subscribers ∧ e.Fits m.diagram ∧
      (h.apply session now request).2.maps =
        h.maps.insert map { m with diagram := m.diagram.edited e } := by
  cases request with
  | addSymbol q temp x y =>
      obtain rfl := Option.some.inj wants
      exact (h.edits_addSymbol session q temp x y).effect
  | addConnection q temp sym0 sym1 =>
      obtain rfl := Option.some.inj wants
      exact (h.edits_addConnection session q temp sym0 sym1).effect
  | deleteSymbol q id =>
      obtain rfl := Option.some.inj wants
      exact (h.edits_deleteSymbol session q id id).effect
  | deleteConnection q id =>
      obtain rfl := Option.some.inj wants
      exact (h.edits_deleteConnection session q id id).effect
  | translateSymbol q id dx dy =>
      obtain rfl := Option.some.inj wants
      have effect := (h.edits_translateSymbol session q id id dx dy).effect
      rw [dropValue_unit] at effect
      exact effect
  | _ => cases wants

/-- So a request for an edit is refused without effect, or what the map shows is edited. -/
theorem apply_of_editedMap? {session : SessionId} {request : Request}
    (wants : request.editedMap? = some map) (h : Hub σ) (now : UInt32) :
    (h.deed? session request = none ∧
      ∃ reason, h.apply session now request = (.error reason, h)) ∨
    ∃ e, h.deed? session request = some (.edited map e) ∧
      (h.apply session now request).1 = .ok () ∧
      h.EditedTo map e (h.apply session now request).2 := by
  rcases edit_cases wants h now with refused | ⟨e, m, done, accepted, found, _, fits, maps⟩
  · exact .inl refused
  · exact .inr ⟨e, done, accepted, editedTo_of_insert found fits maps⟩

/-- What a map shows that is open before and after a request, if the request is no edit of it. -/
theorem shown?_apply {session : SessionId} {request : Request} {d d' : Diagram} {now : UInt32}
    (idle : ∀ e, h.deed? session request ≠ some (.edited map e)) (before : h.shown? map = some d)
    (after : (h.apply session now request).2.shown? map = some d') : d' = d := by
  have of_retains : h.Retains map (h.apply session now request).2 → d' = d :=
    fun retains => Option.some.inj ((retains d' after).symm.trans before)
  by_cases here : request.map? = some map
  · by_cases wants : request.editedMap? = some map
    · rcases apply_of_editedMap? wants h now with ⟨_, reason, refused⟩ | ⟨e, done, _⟩
      · exact of_retains (.of_get? (by rw [refused]))
      · exact absurd done (idle e)
    · -- what concerns the map and is no edit opens it or closes it
      cases request with
      | openMap q =>
          obtain rfl := Option.some.inj here
          obtain ⟨m, found, rfl⟩ := Option.map_eq_some_iff.mp before
          rcases h.openMap_cases session q with ⟨_, refused⟩ | ⟨_, closed, _, _⟩ |
            ⟨m', _, found', joined⟩ | ⟨_, _, _, closed, _, _⟩
          · exact of_retains (.of_get? (by rw [apply, refused]))
          · cases found.symm.trans closed
          · obtain rfl : m = m' := Option.some.inj (found.symm.trans found')
            rw [apply, joined, shown?, maps_post, maps_putMap, Table.get?_insert_self] at after
            exact (Option.some.inj after).symm
          · cases found.symm.trans closed
      | closeMap q => exact of_retains (h.retains_closeMap session map q)
      | addSymbol | deleteSymbol | translateSymbol | addConnection | deleteConnection =>
          exact absurd here wants
      | _ => cases here
  · exact of_retains (.of_get? ((h.sameBut_apply session now request).maps map here))

/-- An act that edits a map finds it open and leaves it open. -/
theorem editedTo_perform {a : Act} {e : Edit} (done : h.deedDone? a = some (.edited map e)) :
    h.EditedTo map e (h.perform a) := by
  cases a with
  | answer id now frame =>
      obtain ⟨request, asked, deed⟩ := Option.bind_eq_some_iff.mp done
      rcases apply_of_editedMap? (editedMap?_of_deed? deed) h now with
        ⟨idle, _⟩ | ⟨e', deed', _, edited⟩
      · exact nomatch deed.symm.trans idle
      · obtain rfl : e = e' := by simpa using deed.symm.trans deed'
        rw [perform, answerFrame_eq, asked]
        exact edited
  | _ => cases done

/-- What a map shows that is open before and after an act, if the act is no edit of it. -/
theorem shown?_perform {a : Act} {d d' : Diagram}
    (idle : ∀ e, h.deedDone? a ≠ some (.edited map e)) (before : h.shown? map = some d)
    (after : (h.perform a).shown? map = some d') : d' = d := by
  have of_retains : h.Retains map (h.perform a) → d' = d :=
    fun retains => Option.some.inj ((retains d' after).symm.trans before)
  cases a with
  | answer id now frame =>
      rw [perform, answerFrame_eq] at after
      cases asked : Request.ofFrame? frame with
      | none =>
          rw [asked] at after
          exact Option.some.inj (after.symm.trans before)
      | some request =>
          rw [asked] at after
          exact shown?_apply (fun e done => idle e (deedDone?_of_asked asked done)) before after
  | finish id => exact of_retains (h.retains_endSession map id)
  | flush =>
      rw [perform, shown?, maps_flush] at after
      cases after
  | connect id host reader => exact of_retains fun _ shows => shows
  | retire id after => exact of_retains fun _ shows => shows
  | buffer id rest => exact of_retains fun _ shows => shows
  | clearMarks => exact of_retains fun _ shows => shows

end Hub

end TopoSync
