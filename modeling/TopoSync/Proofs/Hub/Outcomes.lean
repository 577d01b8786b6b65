import TopoSync.Proofs.Hub.Changes

/-!
# What operations do

Each operation of the hub either refuses and leaves the hub as it is, the store apart where it had to
be asked, or does what is said here in full.  The trails at the end put this together: whatever a
request or the end of a session does is a succession of changes.
-/

namespace TopoSync

/-- The open map with other elements of one kind. -/
def OpenMap.withElements {α : Type} [MapElement α] (m : OpenMap) (elements : List α) : OpenMap :=
  { m with diagram := MapElement.withElements m.diagram elements }

namespace Hub

variable {σ : Type}

theorem subscribedMap?_eq_some_iff {h : Hub σ} {session : SessionId} {map : MapId} {m : OpenMap} :
    h.subscribedMap? session map = some m ↔ h.maps.get? map = some m ∧ session ∈ m.subscribers := by
  simp [subscribedMap?, Option.filter_eq_some_iff]

theorem subscribedNode?_eq_some_iff {h : Hub σ} {session : SessionId} {node : NodeId}
    {n : OpenNode} :
    h.subscribedNode? session node = some n ↔
      h.nodes.get? node = some n ∧ session ∈ n.subscribers := by
  simp [subscribedNode?, Option.filter_eq_some_iff]

theorem heldNode?_eq_some_iff {h : Hub σ} {session : SessionId} {node : NodeId} {n : OpenNode} :
    h.heldNode? session node = some n ↔
      h.nodes.get? node = some n ∧ n.isHeldBy session = true := by
  simp [heldNode?, Option.filter_eq_some_iff]

theorem heldNode?_eq_none {h : Hub σ} {session : SessionId} {node : NodeId} {n : OpenNode}
    (found : h.nodes.get? node = some n) (missing : h.heldNode? session node = none) :
    n.isHeldBy session = false := by
  rw [← Bool.not_eq_true]
  intro held
  rw [heldNode?_eq_some_iff.mpr ⟨found, held⟩] at missing
  cases missing

section Editing

variable {α : Type} [MapElement α]

/-- Adding an element is refused, or the element gets the least free number, its session the number
and the other subscribers the element. -/
theorem addElement_cases (h : Hub σ) (origin : SessionId) (map : MapId) (temp : ElementId)
    (build : ElementId → α) :
    (∃ e, h.addElement origin map temp build = (.error e, h)) ∨
    ∃ m id, temp < 0 ∧ h.router.isRegistered origin = true ∧ h.maps.get? map = some m ∧
      origin ∈ m.subscribers ∧
      Elements.nextFree? (MapElement.elements m.diagram : List α) = some id ∧
      h.addElement origin map temp build =
        (.ok id, ((h.putMap map (m.withElements (MapElement.elements m.diagram ++ [build id]))).post
          ((origin, MapElement.renamed α map temp id) ::
            lettersToOthers m.subscribers origin (MapElement.added map (build id)))).amend origin
          fun s => s.recordPlaceholder α temp id) := by
  rw [addElement]
  split
  · exact .inl ⟨_, rfl⟩
  · rename_i negative
    split
    · exact .inl ⟨_, rfl⟩
    · rename_i known
      split
      · exact .inl ⟨_, rfl⟩
      · rename_i m found
        dsimp only
        split
        · exact .inl ⟨_, rfl⟩
        · rename_i id free
          obtain ⟨found, member⟩ := subscribedMap?_eq_some_iff.mp found
          refine .inr ⟨m, id, Int32.not_le.mp negative, by simpa using known, found, member, free, ?_⟩
          rw [notifyOthers_eq_post, notify_eq_post, post_post]
          rfl

/-- Deleting an element is refused, or the first element with the number goes, a placeholder used to
name it is forgotten and the other subscribers are told. -/
theorem deleteElement_cases (h : Hub σ) (origin : SessionId) (map : MapId) (id : ElementId) :
    (∃ e, h.deleteElement α origin map id = (.error e, h)) ∨
    ∃ m s k ids, h.maps.get? map = some m ∧ origin ∈ m.subscribers ∧
      h.router.session? origin = some s ∧ k = h.permanent α origin id ∧
      (if k = id then .ok (MapElement.placeholders α s)
        else (MapElement.placeholders α s).erase id k) = .ok ids ∧
      Elements.contains (MapElement.elements m.diagram : List α) k = true ∧
      h.deleteElement α origin map id =
        (.ok k, ((h.amend origin fun s => MapElement.withPlaceholders α s ids).putMap map
          (m.withElements (Elements.remove (MapElement.elements m.diagram : List α) k))).post
          (lettersToOthers m.subscribers origin (MapElement.deleted α map k))) := by
  rw [deleteElement]
  split
  · exact .inl ⟨_, rfl⟩
  · rename_i m found
    split
    · exact .inl ⟨_, rfl⟩
    · rename_i s known
      dsimp only
      split
      · exact .inl ⟨_, rfl⟩
      · rename_i present
        split
        · exact .inl ⟨_, rfl⟩
        · rename_i ids forgotten
          obtain ⟨found, member⟩ := subscribedMap?_eq_some_iff.mp found
          refine .inr ⟨m, s, _, ids, found, member, known, (permanent_of_session? known id).symm,
            forgotten, by simpa using present, ?_⟩
          rw [notifyOthers_eq_post]
          rfl

/-- Recording a placeholder leaves the reader of the queue alone. -/
theorem reader_recordPlaceholder
    (keeps : ∀ s p, (MapElement.withPlaceholders α s p).reader = s.reader) (old new : ElementId)
    (s : Session) : (s.recordPlaceholder α old new).reader = s.reader := by
  rw [Session.recordPlaceholder]
  split
  · exact keeps _ _
  · rfl

end Editing

variable [Store σ]

/-- Opening a map is refused, or the session subscribes to it and gets its contents.  A map that
nobody has open is asked for in the store. -/
theorem openMap_cases (h : Hub σ) (session : SessionId) (map : MapId) :
    (map = 0 ∧ h.openMap session map = (.error .reservedMap, h)) ∨
    (∃ reason, h.maps.get? map = none ∧ (∀ d, (Store.loadMap h.store map).1 ≠ .ok (some d)) ∧
      h.openMap session map =
        (.error reason, { h with store := (Store.loadMap h.store map).2 })) ∨
    (∃ m, map ≠ 0 ∧ h.maps.get? map = some m ∧
      h.openMap session map =
        (.ok (), (h.putMap map { m with subscribers := m.subscribers.insert session }).post
          [(session, .mapSnapshot map m.diagram)])) ∨
    ∃ diagram store, map ≠ 0 ∧ h.maps.get? map = none ∧
      Store.loadMap h.store map = (.ok (some diagram), store) ∧
      h.openMap session map =
        (.ok (), (putMap { h with store } map ⟨diagram, Roster.insert ∅ session⟩).post
          [(session, .mapSnapshot map diagram)]) := by
  rw [openMap, fetchMap]
  split
  · rename_i reserved
    exact .inl ⟨reserved, rfl⟩
  · rename_i real
    refine .inr ?_
    cases found : h.maps.get? map with
    | some m => exact .inr (.inl ⟨m, real, rfl, rfl⟩)
    | none =>
        dsimp only
        rcases answer : Store.loadMap h.store map with ⟨reason | _ | diagram, store⟩
        · exact .inl ⟨_, rfl, by simp, rfl⟩
        · exact .inl ⟨_, rfl, by simp, rfl⟩
        · exact .inr (.inr ⟨diagram, store, real, rfl, rfl, rfl⟩)

/-- Opening a node is refused, or the session subscribes to it and gets its record and the lock as the
session sees it.  A node that nobody has open is asked for in the store, and one that does not exist
is answered although opening it is refused. -/
theorem openNode_cases (h : Hub σ) (session : SessionId) (node : NodeId) :
    (∃ reason, h.nodes.get? node = none ∧
      (Store.loadNode h.store node).1 = .error reason ∧
      h.openNode session node =
        (.error (.nodeUnreadable node reason),
          { h with store := (Store.loadNode h.store node).2 })) ∨
    (∃ store, h.nodes.get? node = none ∧ Store.loadNode h.store node = (.ok none, store) ∧
      h.openNode session node =
        (.error (.nodeNotFound node), post { h with store } [(session, .nodeMissing node)])) ∨
    (∃ n, h.nodes.get? node = some n ∧
      h.openNode session node =
        (.ok (), (h.putNode node { n with subscribers := n.subscribers.insert session }).post
          [(session,
            .nodeSnapshot node (n.kindFor session) (n.holder.map Holder.view) n.record)])) ∨
    ∃ record store, h.nodes.get? node = none ∧
      Store.loadNode h.store node = (.ok (some record), store) ∧
      h.openNode session node =
        (.ok (), (putNode { h with store } node ⟨record, none, Roster.insert ∅ session⟩).post
          [(session, .nodeSnapshot node .unlocked none record)]) := by
  rw [openNode, fetchNode]
  cases found : h.nodes.get? node with
  | some n => exact .inr (.inr (.inl ⟨n, rfl, rfl⟩))
  | none =>
      dsimp only
      rcases answer : Store.loadNode h.store node with ⟨reason | _ | record, store⟩
      · exact .inl ⟨reason, rfl, rfl, rfl⟩
      · exact .inr (.inl ⟨store, rfl, rfl, rfl⟩)
      · exact .inr (.inr (.inr ⟨record, store, rfl, rfl, rfl⟩))

/-- What becomes of a request for a deed: it is refused and nothing changes, or the deed is done and
letters are posted. -/
inductive Settled {α : Type} (h : Hub σ) (session : SessionId) (deed : α → Deed) :
    Outcome σ α → Prop
  | refused (reason : Refusal) : Settled h session deed (.error reason, h)
  | done (value : α) (letters : List Letter) {h' : Hub σ}
      (trail : Trail h (.deed session (deed value) :: letters.map .letter) h') :
      Settled h session deed (.ok value, h')

/-- Either way the hub goes through changes, and there is a mark of the deed if it is done. -/
theorem Settled.trail {α : Type} {h : Hub σ} {session : SessionId} {deed : α → Deed}
    {outcome : Outcome σ α} (settled : Settled h session deed outcome) :
    ∃ letters : List Letter,
      Trail h
        (((outcome.1.toOption.map deed).map (Mark.deed session)).toList ++ letters.map .letter)
        outcome.2 := by
  cases settled with
  | refused reason => exact ⟨[], .still h⟩
  | done value letters trail => exact ⟨letters, trail⟩

/-- The hub after a subscriber has edited an open map: the map is edited and the letters of the edit
are posted.  What is kept of the subscriber may change before or afterwards, the reader of its queue
apart. -/
inductive EditMade (h : Hub σ) (origin : SessionId) (map : MapId) (m : OpenMap) (old : ElementId)
    (edit : Edit) : Hub σ → Prop
  | alone : EditMade h origin map m old edit
      ((h.putMap map { m with diagram := m.diagram.edited edit }).post
        (edit.letters map m.subscribers origin old))
  | forgetting (f : Session → Session) (keeps : ∀ s, (f s).reader = s.reader) :
      EditMade h origin map m old edit
        (((h.amend origin f).putMap map { m with diagram := m.diagram.edited edit }).post
          (edit.letters map m.subscribers origin old))
  | recording (f : Session → Session) (keeps : ∀ s, (f s).reader = s.reader) :
      EditMade h origin map m old edit
        (((h.putMap map { m with diagram := m.diagram.edited edit }).post
          (edit.letters map m.subscribers origin old)).amend origin f)

/-- What becomes of a request to edit a map: it is refused and nothing changes, or the session
subscribes to the map, the edit fits, and it is made. -/
inductive Edits {α : Type} (h : Hub σ) (origin : SessionId) (map : MapId) (old : ElementId)
    (edit : α → Edit) : Outcome σ α → Prop
  | refused (reason : Refusal) : Edits h origin map old edit (.error reason, h)
  | made (value : α) (m : OpenMap) (found : h.maps.get? map = some m)
      (member : origin ∈ m.subscribers) (fits : (edit value).Fits m.diagram) {h' : Hub σ}
      (made : h.EditMade origin map m old (edit value) h') :
      Edits h origin map old edit (.ok value, h')

section Editing

variable {h h' : Hub σ} {origin : SessionId} {map : MapId} {m : OpenMap} {old : ElementId}

omit [Store σ] in
theorem EditMade.maps {edit : Edit} (made : h.EditMade origin map m old edit h') :
    h'.maps = h.maps.insert map { m with diagram := m.diagram.edited edit } := by
  cases made with
  | alone | forgetting | recording => rfl

theorem EditMade.trail {edit : Edit} (made : h.EditMade origin map m old edit h')
    (found : h.maps.get? map = some m) (member : origin ∈ m.subscribers)
    (fits : edit.Fits m.diagram) :
    Trail h
      (.deed origin (.edited map edit) :: (edit.letters map m.subscribers origin old).map .letter)
      h' := by
  cases made with
  | alone => exact .single (.mapEdited h origin map m edit old found member fits)
  | forgetting f keeps =>
      have edited := Change.mapEdited (h.amend origin f) origin map m edit old found member fits
      exact .trans_silent (.single (.amended h origin f keeps)) (.single edited)
  | recording f keeps =>
      have edited := Change.mapEdited h origin map m edit old found member fits
      exact .step_silent edited (.single (.amended _ origin f keeps))

theorem Edits.settled {α : Type} {edit : α → Edit} {outcome : Outcome σ α}
    (edits : h.Edits origin map old edit outcome) :
    Settled h origin (fun value => .edited map (edit value)) outcome := by
  cases edits with
  | refused reason => exact .refused reason
  | made value m found member fits made => exact .done value _ (made.trail found member fits)

end Editing

variable {α : Type} [MapElement α]

omit [Store σ] in
/-- Adding an element is the edit that adds it. -/
theorem edits_addElement (keeps : ∀ s p, (MapElement.withPlaceholders α s p).reader = s.reader)
    {build : ElementId → α} {edit : ElementId → Edit} (adds : ∀ id, (edit id).Adds (build id) id)
    (h : Hub σ) (origin : SessionId) (map : MapId) (temp : ElementId) :
    h.Edits origin map temp edit (h.addElement origin map temp build) := by
  rcases h.addElement_cases origin map temp build with
    ⟨reason, refused⟩ | ⟨m, id, _, _, found, member, free, effect⟩
  · rw [refused]
    exact .refused reason
  · rw [effect, OpenMap.withElements, ← (adds id).edited, ← (adds id).letters]
    exact .made id m found member ((adds id).fits _ free)
      (.recording _ (reader_recordPlaceholder keeps temp id))

omit [Store σ] in
/-- Deleting an element is the edit that removes it. -/
theorem edits_deleteElement (keeps : ∀ s p, (MapElement.withPlaceholders α s p).reader = s.reader)
    {edit : ElementId → Edit} (removes : ∀ id, (edit id).Removes α id) (h : Hub σ)
    (origin : SessionId) (map : MapId) (old id : ElementId) :
    h.Edits origin map old (fun _ => edit (h.permanent α origin id))
      (h.deleteElement α origin map id) := by
  rcases h.deleteElement_cases (α := α) origin map id with
    ⟨reason, refused⟩ | ⟨m, _, k, ids, found, member, _, rfl, _, present, effect⟩
  · rw [refused]
    exact .refused reason
  · have gone := removes (h.permanent α origin id)
    rw [effect, OpenMap.withElements, ← gone.edited, ← gone.letters map m.subscribers origin old]
    refine .made _ m found member ?_ (.forgetting _ fun s => keeps s ids)
    exact gone.fits m.diagram present

omit [Store σ] in
theorem edits_addSymbol (h : Hub σ) (origin : SessionId) (map : MapId) (temp : ElementId)
    (x y : Int32) :
    h.Edits origin map temp (fun id => .symbolAdded id x y) (h.addSymbol origin map temp x y) :=
  edits_addElement (fun _ _ => rfl) (fun id => Edit.adds_symbol id x y) h origin map temp

omit [Store σ] in
theorem edits_addConnection (h : Hub σ) (origin : SessionId) (map : MapId)
    (temp sym0 sym1 : ElementId) :
    h.Edits origin map temp
      (fun id => .connectionAdded id (h.permanent Symbol origin sym0)
        (h.permanent Symbol origin sym1))
      (h.addConnection origin map temp sym0 sym1) := by
  rw [addConnection]
  cases known : h.router.session? origin with
  | none => exact .refused _
  | some s =>
      rw [permanent_of_session? known, permanent_of_session? known]
      exact edits_addElement (fun _ _ => rfl) (fun id => Edit.adds_connection id _ _) h origin map
        temp

omit [Store σ] in
theorem edits_deleteSymbol (h : Hub σ) (origin : SessionId) (map : MapId) (old id : ElementId) :
    h.Edits origin map old (fun _ => .symbolRemoved (h.permanent Symbol origin id))
      (h.deleteSymbol origin map id) :=
  edits_deleteElement (fun _ _ => rfl) Edit.removes_symbol h origin map old id

omit [Store σ] in
theorem edits_deleteConnection (h : Hub σ) (origin : SessionId) (map : MapId)
    (old id : ElementId) :
    h.Edits origin map old (fun _ => .connectionRemoved (h.permanent Connection origin id))
      (h.deleteConnection origin map id) :=
  edits_deleteElement (fun _ _ => rfl) Edit.removes_connection h origin map old id

omit [Store σ] in
theorem edits_translateSymbol (h : Hub σ) (origin : SessionId) (map : MapId)
    (old id : ElementId) (dx dy : Int32) :
    h.Edits origin map old (fun _ => .symbolMoved (h.permanent Symbol origin id) dx dy)
      (h.translateSymbol origin map id dx dy) := by
  rw [translateSymbol]
  cases known : h.router.session? origin with
  | none => exact .refused _
  | some s =>
      dsimp only
      rw [permanent_of_session? known]
      split
      · exact .refused _
      · rename_i m found
        split
        · exact .refused _
        · rename_i present
          obtain ⟨found, member⟩ := subscribedMap?_eq_some_iff.mp found
          have fits : (Edit.symbolMoved (s.symbolIds.resolve id) dx dy).Fits m.diagram := by
            simpa [Edit.Fits] using present
          rw [notifyOthers_eq_post]
          exact .made () m found member fits .alone

theorem setFields_settled (h : Hub σ) (session : SessionId) (node : NodeId) (fields : NodeFields) :
    Settled h session (fun _ => .fieldsSet node fields) (h.setFields session node fields) := by
  rw [setFields]
  split
  · exact .refused _
  · rename_i n found
    obtain ⟨found, held⟩ := heldNode?_eq_some_iff.mp found
    dsimp only
    rw [notifyOthers_eq_post]
    exact .done () _ (.single (.nodeUpdated h session node n fields found held))

end Hub

end TopoSync
