import TopoSync.Proofs.Hub.Scopes

/-!
# How far a request reaches

A request looks at the map and the node that it names and at the session that asks, and at the names of
the maps; all else is nothing to it.  So it gets the same answer in hubs that agree on these, gives rise
to the same letters and leaves the hubs in agreement.  And where it does not look, it changes nothing.
-/

namespace TopoSync.Hub

variable {scope : Scope} {h h' : Hub MemoryStore}

namespace AgreesOn

variable (same : h.AgreesOn scope h') {map : MapId} {node : NodeId}

include same

theorem fetchMap (picked : scope.map map) : (h'.fetchMap map).1 = (h.fetchMap map).1 := by
  rw [Hub.fetchMap, Hub.fetchMap, same.maps map picked]
  cases h.maps.get? map with
  | some m => rfl
  | none =>
      simp only [Store.loadMap, same.store.maps map picked]
      cases h.store.maps.get? map <;> rfl

theorem fetchNode (picked : scope.node node) : (h'.fetchNode node).1 = (h.fetchNode node).1 := by
  rw [Hub.fetchNode, Hub.fetchNode, same.nodes node picked]
  cases h.nodes.get? node with
  | some n => rfl
  | none =>
      simp only [Store.loadNode, same.store.nodes node picked]
      cases h.store.nodes.get? node <;> rfl

/-- An edit of a map that is picked, if it is made, gives rise to the same letters. -/
theorem editLetters {β : Type} (picked : scope.map map) (session : SessionId) (old : ElementId)
    (edited : Option β) (edit : β → Edit) :
    h'.deedLetters session old (edited.map fun b => .edited map (edit b)) =
      h.deedLetters session old (edited.map fun b => .edited map (edit b)) := by
  cases edited with
  | none => rfl
  | some b => simp only [Option.map_some, deedLetters, same.maps map picked]

end AgreesOn

/-- Whether two outcomes are the same answer with hubs that agree on a scope. -/
structure AnsweredOn {β γ : Type} (scope : Scope) (o o' : Except β γ × Hub MemoryStore) : Prop where
  answer : o'.1 = o.1
  hub : o.2.AgreesOn scope o'.2

theorem AnsweredOn.dropValue {α : Type} {o o' : Outcome MemoryStore α} (answered : AnsweredOn scope o o') :
    AnsweredOn scope (Hub.dropValue o) (Hub.dropValue o') :=
  ⟨congrArg (Except.map fun _ => ()) answered.answer, answered.hub⟩

namespace AgreesOn

variable (same : h.AgreesOn scope h') {session : SessionId} (asks : scope.session session)

include same asks

section Elements

variable {α : Type} [MapElement α]

theorem acknowledge (old new : ElementId) :
    AnsweredOn scope (h.acknowledge α session old new) (h'.acknowledge α session old new) := by
  rw [Hub.acknowledge, Hub.acknowledge, same.sessions session asks]
  split
  · exact ⟨rfl, same⟩
  · split
    · exact ⟨rfl, same⟩
    · exact ⟨rfl, same.amend session _⟩

variable {map : MapId} (picked : scope.map map)

include picked

theorem addElement (temp : ElementId) (build : ElementId → α) :
    AnsweredOn scope (h.addElement session map temp build)
      (h'.addElement session map temp build) := by
  rw [Hub.addElement, Hub.addElement, same.isRegistered asks, same.subscribedMap? session picked]
  split
  · exact ⟨rfl, same⟩
  · split
    · exact ⟨rfl, same⟩
    · split
      · exact ⟨rfl, same⟩
      · dsimp only
        split
        · exact ⟨rfl, same⟩
        · simp only [notify_eq_post, notifyOthers_eq_post]
          exact ⟨rfl, (((same.putMap map _).post _).post _).amend session _⟩

theorem deleteElement (id : ElementId) :
    AnsweredOn scope (h.deleteElement α session map id) (h'.deleteElement α session map id) := by
  rw [Hub.deleteElement, Hub.deleteElement, same.sessions session asks,
    same.subscribedMap? session picked]
  split
  · exact ⟨rfl, same⟩
  · split
    · exact ⟨rfl, same⟩
    · dsimp only
      split
      · exact ⟨rfl, same⟩
      · split
        · exact ⟨rfl, same⟩
        · simp only [notifyOthers_eq_post]
          exact ⟨rfl, ((same.putMap map _).amend session _).post _⟩

theorem addConnection (temp sym0 sym1 : ElementId) :
    AnsweredOn scope (h.addConnection session map temp sym0 sym1)
      (h'.addConnection session map temp sym0 sym1) := by
  rw [Hub.addConnection, Hub.addConnection, same.sessions session asks]
  split
  · exact ⟨rfl, same⟩
  · exact same.addElement asks picked temp _

theorem translateSymbol (id : ElementId) (dx dy : Int32) :
    AnsweredOn scope (h.translateSymbol session map id dx dy)
      (h'.translateSymbol session map id dx dy) := by
  rw [Hub.translateSymbol, Hub.translateSymbol, same.sessions session asks,
    same.subscribedMap? session picked]
  split
  · exact ⟨rfl, same⟩
  · dsimp only
    split
    · exact ⟨rfl, same⟩
    · split
      · exact ⟨rfl, same⟩
      · simp only [notifyOthers_eq_post]
        exact ⟨rfl, (same.putMap map _).post _⟩

omit asks

theorem openMap : AnsweredOn scope (h.openMap session map) (h'.openMap session map) := by
  rw [Hub.openMap, Hub.openMap, Hub.fetchMap, Hub.fetchMap, same.maps map picked]
  split
  · exact ⟨rfl, same⟩
  · cases h.maps.get? map with
    | some m =>
        simp only [notify_eq_post]
        exact ⟨rfl, (same.putMap map _).post _⟩
    | none =>
        simp only [Store.loadMap, same.store.maps map picked]
        cases h.store.maps.get? map with
        | none => exact ⟨rfl, same⟩
        | some entry =>
            simp only [Option.map_some, notify_eq_post]
            exact ⟨rfl, (same.putMap map _).post _⟩

theorem closeMap : AnsweredOn scope (h.closeMap session map) (h'.closeMap session map) := by
  rw [Hub.closeMap, Hub.closeMap, same.subscribedMap? session picked]
  split
  · exact ⟨rfl, same⟩
  · dsimp only
    split
    · exact ⟨rfl, (same.putMap map _).writeBackMap picked⟩
    · exact ⟨rfl, same.putMap map _⟩

end Elements

theorem logIn (login : String) :
    AnsweredOn scope (h.logIn session login) (h'.logIn session login) := by
  rw [Hub.logIn, Hub.logIn, same.isRegistered asks]
  split
  · exact ⟨rfl, same.amend session _⟩
  · exact ⟨rfl, same⟩

section Nodes

variable {node : NodeId} (picked : scope.node node)

include picked

theorem lockNode (now : UInt32) :
    AnsweredOn scope (h.lockNode session node now) (h'.lockNode session node now) := by
  rw [Hub.lockNode, Hub.lockNode, same.subscribedNode? session picked, same.sessions session asks]
  split
  · exact ⟨rfl, same⟩
  · split
    · exact ⟨rfl, same⟩
    · split
      · exact ⟨rfl, same⟩
      · simp only [lockFrames_eq_map]
        exact ⟨rfl, (same.putNode node _).post _⟩

omit asks

theorem setFields (fields : NodeFields) :
    AnsweredOn scope (h.setFields session node fields) (h'.setFields session node fields) := by
  rw [Hub.setFields, Hub.setFields, same.heldNode? session picked]
  split
  · exact ⟨rfl, same⟩
  · simp only [notifyOthers_eq_post]
    exact ⟨rfl, (same.putNode node _).post _⟩

theorem unlockNode :
    AnsweredOn scope (h.unlockNode session node) (h'.unlockNode session node) := by
  rw [Hub.unlockNode, Hub.unlockNode, same.heldNode? session picked]
  split
  · exact ⟨rfl, same⟩
  · simp only [notifyAll_eq_post]
    exact ⟨rfl, (same.putNode node _).post _⟩

theorem openNode : AnsweredOn scope (h.openNode session node) (h'.openNode session node) := by
  rw [Hub.openNode, Hub.openNode, Hub.fetchNode, Hub.fetchNode, same.nodes node picked]
  cases h.nodes.get? node with
  | some n =>
      simp only [notify_eq_post]
      exact ⟨rfl, (same.putNode node _).post _⟩
  | none =>
      simp only [Store.loadNode, same.store.nodes node picked]
      cases h.store.nodes.get? node with
      | none =>
          simp only [notify_eq_post]
          exact ⟨rfl, same.post _⟩
      | some record =>
          simp only [notify_eq_post]
          exact ⟨rfl, (same.putNode node _).post _⟩

theorem leaveNode : (h.leaveNode session node).AgreesOn scope (h'.leaveNode session node) := by
  rw [Hub.leaveNode, Hub.leaveNode, same.nodes node picked]
  split
  · exact same
  · dsimp only
    split
    · exact (same.putNode node _).writeBackNode picked
    · exact same.putNode node _

theorem closeNode : AnsweredOn scope (h.closeNode session node) (h'.closeNode session node) := by
  rw [Hub.closeNode, Hub.closeNode, same.subscribedNode? session picked]
  split
  · exact ⟨rfl, same⟩
  · exact ⟨rfl, (same.unlockNode picked).hub.leaveNode picked⟩

end Nodes

omit asks in
theorem sendMapList : (h.sendMapList session).AgreesOn scope (h'.sendMapList session) := by
  simp only [Hub.sendMapList, Store.listMaps, same.store.mapList, notify_eq_post]
  exact same.post _

end AgreesOn

/-- A request gets the same answer in hubs that agree on what it looks at, and keeps them in
agreement. -/
theorem AgreesOn.apply {session : SessionId} {request : Request}
    (same : h.AgreesOn (request.scope session) h') (now : UInt32) :
    AnsweredOn (request.scope session) (h.apply session now request)
      (h'.apply session now request) := by
  have asks : (request.scope session).session session := rfl
  cases request with
  | login login password => exact same.logIn asks login
  | getMapList => exact ⟨rfl, same.sendMapList⟩
  | openMap map => exact same.openMap rfl
  | closeMap map => exact same.closeMap rfl
  | addSymbol map id x y => exact (same.addElement asks rfl id _).dropValue
  | renameSymbol map old new => exact same.acknowledge asks old new
  | deleteSymbol map id => exact (same.deleteElement asks rfl id).dropValue
  | translateSymbol map id dx dy => exact same.translateSymbol asks rfl id dx dy
  | addConnection map id sym0 sym1 => exact (same.addConnection asks rfl id sym0 sym1).dropValue
  | renameConnection map old new => exact same.acknowledge asks old new
  | deleteConnection map id => exact (same.deleteElement asks rfl id).dropValue
  | openNode node => exact same.openNode rfl
  | closeNode node => exact same.closeNode rfl
  | setNode node fields => exact same.setFields rfl fields
  | lockNode node => exact same.lockNode asks rfl now
  | unlockNode node => exact same.unlockNode rfl
  | unsupported command => exact ⟨rfl, same⟩

namespace AgreesOn

variable {session : SessionId} {request : Request} (same : h.AgreesOn (request.scope session) h')

include same

/-- A request amounts to the same deed in both. -/
theorem deed? : h'.deed? session request = h.deed? session request := by
  have asks : (request.scope session).session session := rfl
  have permanent : ∀ (α : Type) [MapElement α] (id : ElementId),
      h'.permanent α session id = h.permanent α session id := by
    intro α _ id
    rw [Hub.permanent, Hub.permanent, same.sessions session asks]
  cases request with
  | addSymbol map id x y =>
      have picked : (Request.addSymbol map id x y).map? = some map := rfl
      have answer := (same.addElement asks picked id fun id => Symbol.placed id x y).answer
      rw [Hub.deed?, Hub.deed?, addSymbol, addSymbol, answer]
  | deleteSymbol map id =>
      have picked : (Request.deleteSymbol map id).map? = some map := rfl
      have answer := (same.deleteElement (α := Symbol) asks picked id).answer
      rw [Hub.deed?, Hub.deed?, deleteSymbol, deleteSymbol, answer, permanent]
  | translateSymbol map id dx dy =>
      have picked : (Request.translateSymbol map id dx dy).map? = some map := rfl
      have answer := (same.translateSymbol asks picked id dx dy).answer
      rw [Hub.deed?, Hub.deed?, answer, permanent]
  | addConnection map id sym0 sym1 =>
      have picked : (Request.addConnection map id sym0 sym1).map? = some map := rfl
      have answer := (same.addConnection asks picked id sym0 sym1).answer
      rw [Hub.deed?, Hub.deed?, answer, permanent, permanent]
  | deleteConnection map id =>
      have picked : (Request.deleteConnection map id).map? = some map := rfl
      have answer := (same.deleteElement (α := Connection) asks picked id).answer
      rw [Hub.deed?, Hub.deed?, deleteConnection, deleteConnection, answer, permanent]
  | setNode node fields =>
      have picked : (Request.setNode node fields).node? = some node := rfl
      have answer : (h'.setFields session node fields).1 = (h.setFields session node fields).1 :=
        (same.setFields picked fields).answer
      rw [Hub.deed?, Hub.deed?, answer]
  | _ => rfl

/-- It gives rise to the same letters in both. -/
theorem lettersOf (now : UInt32) :
    h'.lettersOf session now request = h.lettersOf session now request := by
  have asks : (request.scope session).session session := rfl
  have deeds := same.deed?
  cases request with
  | getMapList => simp only [Hub.lettersOf, Store.listMaps, same.store.mapList]
  | openMap map => rw [Hub.lettersOf, Hub.lettersOf, same.fetchMap rfl]
  | openNode node => rw [Hub.lettersOf, Hub.lettersOf, same.fetchNode rfl]
  | closeNode node =>
      rw [Hub.lettersOf, Hub.lettersOf, same.subscribedNode? session rfl, unlockLetters,
        unlockLetters, same.heldNode? session rfl]
  | lockNode node =>
      rw [Hub.lettersOf, Hub.lettersOf, lockingLetters, lockingLetters,
        same.subscribedNode? session rfl, same.sessions session asks]
  | unlockNode node =>
      rw [Hub.lettersOf, Hub.lettersOf, unlockLetters, unlockLetters, same.heldNode? session rfl]
  | addSymbol map id x y =>
      rw [Hub.lettersOf, Hub.lettersOf, deeds]
      exact same.editLetters rfl session id _ _
  | deleteSymbol map id =>
      rw [Hub.lettersOf, Hub.lettersOf, deeds]
      exact same.editLetters rfl session id _ _
  | translateSymbol map id dx dy =>
      rw [Hub.lettersOf, Hub.lettersOf, deeds]
      exact same.editLetters rfl session id _ _
  | addConnection map id sym0 sym1 =>
      rw [Hub.lettersOf, Hub.lettersOf, deeds]
      exact same.editLetters rfl session id _ _
  | deleteConnection map id =>
      rw [Hub.lettersOf, Hub.lettersOf, deeds]
      exact same.editLetters rfl session id _ _
  | setNode node fields =>
      rw [Hub.lettersOf, Hub.lettersOf, deeds, Hub.deed?]
      cases (h.setFields session node fields).1.toOption with
      | none => rfl
      | some _ => simp only [Option.map_some, deedLetters, same.nodes node rfl]
  | login login password => rfl
  | closeMap map => rfl
  | renameSymbol map old new => rfl
  | renameConnection map old new => rfl
  | unsupported command => rfl

end AgreesOn

section Preserving

variable (stay : h.AllStay) {session : SessionId}

include stay

theorem Preserves.still : Preserves scope h h :=
  ⟨.refl h, stay⟩

section Elements

variable {α : Type} [MapElement α]
  (keeps : ∀ s p, (MapElement.withPlaceholders α s p).reader = s.reader)
  (asks : ¬ scope.session session)

include keeps asks

theorem preserves_acknowledge (old new : ElementId) :
    Preserves scope h (h.acknowledge α session old new).2 := by
  rcases h.acknowledge_cases α session old new with ⟨e, refused⟩ | ⟨s, ids, _, _, effect⟩
  · rw [refused]
    exact .still stay
  · rw [effect]
    exact (Preserves.still stay).amend asks fun s => keeps s ids

variable {map : MapId} (outside : ¬ scope.map map)

include outside

theorem preserves_addElement (temp : ElementId) (build : ElementId → α) :
    Preserves scope h (h.addElement session map temp build).2 := by
  rcases h.addElement_cases session map temp build with
    ⟨e, refused⟩ | ⟨m, id, _, _, _, _, _, effect⟩
  · rw [refused]
    exact .still stay
  · rw [effect]
    exact (((Preserves.still stay).putMap outside _).post _).amend asks
      (reader_recordPlaceholder keeps temp id)

theorem preserves_deleteElement (id : ElementId) :
    Preserves scope h (h.deleteElement α session map id).2 := by
  rcases h.deleteElement_cases (α := α) session map id with
    ⟨e, refused⟩ | ⟨m, _, k, ids, _, _, _, _, _, _, effect⟩
  · rw [refused]
    exact .still stay
  · rw [effect]
    exact (((Preserves.still stay).amend asks fun s => keeps s ids).putMap outside _).post _

end Elements

theorem preserves_logIn (asks : ¬ scope.session session) (login : String) :
    Preserves scope h (h.logIn session login).2 := by
  rw [logIn]
  split
  · exact (Preserves.still stay).amend (f := fun s => { s with login }) asks fun _ => rfl
  · exact .still stay

theorem preserves_sendMapList : Preserves scope h (h.sendMapList session) :=
  (Preserves.still stay).post [(session, .mapList (h.store.mapList.filter fun e => e.id ≠ 0))]

section Maps

variable {map : MapId} (outside : ¬ scope.map map)

include outside

theorem preserves_addConnection (asks : ¬ scope.session session) (temp sym0 sym1 : ElementId) :
    Preserves scope h (h.addConnection session map temp sym0 sym1).2 := by
  rw [addConnection]
  split
  · exact .still stay
  · exact preserves_addElement stay (fun _ _ => rfl) asks outside temp _

theorem preserves_translateSymbol (id : ElementId) (dx dy : Int32) :
    Preserves scope h (h.translateSymbol session map id dx dy).2 := by
  rw [translateSymbol]
  split
  · exact .still stay
  · dsimp only
    split
    · exact .still stay
    · split
      · exact .still stay
      · rw [notifyOthers_eq_post]
        exact ((Preserves.still stay).putMap outside _).post _

theorem preserves_openMap : Preserves scope h (h.openMap session map).2 := by
  rcases h.openMap_cases session map with ⟨_, refused⟩ | ⟨reason, _, _, refused⟩ |
    ⟨m, _, _, joined⟩ | ⟨diagram, store, _, _, read, loaded⟩
  · rw [refused]
    exact .still stay
  · rw [refused]
    exact .still stay
  · rw [joined]
    exact ((Preserves.still stay).putMap outside _).post _
  · obtain rfl : h.store = store := congrArg Prod.snd read
    rw [loaded]
    exact ((Preserves.still stay).putMap outside _).post _

theorem preserves_closeMap (stored : h.MapsStored) : Preserves scope h (h.closeMap session map).2 := by
  rw [closeMap]
  split
  · exact .still stay
  · rename_i m subscribed
    have left := (Preserves.still stay).putMap outside
      { m with subscribers := m.subscribers.erase session }
    dsimp only
    split
    · exact left.writeBackMap outside (stored map m (subscribedMap?_eq_some_iff.mp subscribed).1)
    · exact left

end Maps

section Nodes

variable {node : NodeId} (outside : ¬ scope.node node)

include outside

theorem preserves_lockNode (now : UInt32) : Preserves scope h (h.lockNode session node now).2 := by
  rw [lockNode]
  split
  · exact .still stay
  · split
    · exact .still stay
    · split
      · exact .still stay
      · dsimp only
        rw [lockFrames_eq_map]
        exact ((Preserves.still stay).putNode outside _).post _

theorem preserves_setFields (fields : NodeFields) :
    Preserves scope h (h.setFields session node fields).2 := by
  rw [setFields]
  split
  · exact .still stay
  · dsimp only
    rw [notifyOthers_eq_post]
    exact ((Preserves.still stay).putNode outside _).post _

theorem preserves_unlockNode : Preserves scope h (h.unlockNode session node).2 := by
  rw [unlockNode]
  split
  · exact .still stay
  · dsimp only
    rw [notifyAll_eq_post]
    exact ((Preserves.still stay).putNode outside _).post _

theorem preserves_openNode : Preserves scope h (h.openNode session node).2 := by
  rcases h.openNode_cases session node with ⟨reason, _, _, refused⟩ | ⟨store, _, read, missed⟩ |
    ⟨n, _, joined⟩ | ⟨record, store, _, read, loaded⟩
  · rw [refused]
    exact .still stay
  · obtain rfl : h.store = store := congrArg Prod.snd read
    rw [missed]
    exact (Preserves.still stay).post _
  · rw [joined]
    exact ((Preserves.still stay).putNode outside _).post _
  · obtain rfl : h.store = store := congrArg Prod.snd read
    rw [loaded]
    exact ((Preserves.still stay).putNode outside _).post _

omit stay in
theorem Preserves.leaveNode {h' : Hub MemoryStore} (preserves : Preserves scope h h') :
    Preserves scope h (h'.leaveNode session node) := by
  rw [Hub.leaveNode]
  split
  · exact preserves
  · dsimp only
    split
    · exact (preserves.putNode outside _).writeBackNode outside
    · exact preserves.putNode outside _

theorem preserves_closeNode : Preserves scope h (h.closeNode session node).2 := by
  rw [closeNode]
  split
  · exact .still stay
  · exact (preserves_unlockNode stay outside).leaveNode outside

end Nodes

end Preserving

/-- A request changes nothing that its scope has nothing to do with. -/
theorem preserves_apply {session : SessionId} {request : Request} (stay : h.AllStay)
    (stored : h.MapsStored) (apart : scope.Apart (request.scope session)) (now : UInt32) :
    Preserves scope h (h.apply session now request).2 := by
  have asks : ¬ scope.session session := fun inside => apart.session session inside rfl
  have map : ∀ {q}, request.map? = some q → ¬ scope.map q :=
    fun named inside => apart.map _ inside named
  have node : ∀ {q}, request.node? = some q → ¬ scope.node q :=
    fun named inside => apart.node _ inside named
  cases request with
  | login login password => exact preserves_logIn stay asks login
  | getMapList => exact preserves_sendMapList stay
  | openMap q => exact preserves_openMap stay (map rfl)
  | closeMap q => exact preserves_closeMap stay (map rfl) stored
  | addSymbol q id x y => exact preserves_addElement stay (fun _ _ => rfl) asks (map rfl) id _
  | renameSymbol q old new => exact preserves_acknowledge (α := Symbol) stay (fun _ _ => rfl) asks old new
  | deleteSymbol q id =>
      exact preserves_deleteElement (α := Symbol) stay (fun _ _ => rfl) asks (map rfl) id
  | translateSymbol q id dx dy => exact preserves_translateSymbol stay (map rfl) id dx dy
  | addConnection q id sym0 sym1 => exact preserves_addConnection stay (map rfl) asks id sym0 sym1
  | renameConnection q old new =>
      exact preserves_acknowledge (α := Connection) stay (fun _ _ => rfl) asks old new
  | deleteConnection q id =>
      exact preserves_deleteElement (α := Connection) stay (fun _ _ => rfl) asks (map rfl) id
  | openNode q => exact preserves_openNode stay (node rfl)
  | closeNode q => exact preserves_closeNode stay (node rfl)
  | setNode q fields => exact preserves_setFields stay (node rfl) fields
  | lockNode q => exact preserves_lockNode stay (node rfl) now
  | unlockNode q => exact preserves_unlockNode stay (node rfl)
  | unsupported command => exact .still stay

end TopoSync.Hub
