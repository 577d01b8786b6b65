import TopoSync.Proofs.Hub.Outcomes

/-!
# Requests and teardowns as trails

A request that is applied, a session that ends and a hub that is written back are each a succession
of changes.  A request contributes at most one deed, and it comes before the letters.
-/

namespace TopoSync.Hub

variable {σ : Type} [Store σ]

theorem trail_openMap {h : Hub σ} {session : SessionId}
    (known : h.router.isRegistered session = true) (map : MapId) :
    ∃ letters : List Letter, Trail h (letters.map .letter) (h.openMap session map).2 := by
  rcases h.openMap_cases session map with ⟨_, refused⟩ | ⟨reason, _, nothing, refused⟩ |
    ⟨m, real, found, joined⟩ | ⟨diagram, store, real, closed, answer, loaded⟩
  · rw [refused]
    exact ⟨[], .still h⟩
  · rw [refused]
    exact ⟨[], .single (.consulted h (.map map nothing))⟩
  · rw [joined]
    exact ⟨[_], .single (.mapJoined h session map m real known found)⟩
  · rw [loaded]
    exact ⟨[_], .single (.mapLoaded h session map real known closed answer)⟩

theorem trail_openNode {h : Hub σ} {session : SessionId}
    (known : h.router.isRegistered session = true) (node : NodeId) :
    ∃ letters : List Letter, Trail h (letters.map .letter) (h.openNode session node).2 := by
  rcases h.openNode_cases session node with ⟨reason, _, failed, refused⟩ |
    ⟨store, closed, answer, missed⟩ | ⟨n, found, joined⟩ | ⟨record, store, closed, answer, loaded⟩
  · rw [refused]
    exact ⟨[], .single (.consulted h (.node node failed))⟩
  · rw [missed]
    exact ⟨[_], .single (.nodeMissed h session node closed answer)⟩
  · rw [joined]
    exact ⟨[_], .single (.nodeJoined h session node n known found)⟩
  · rw [loaded]
    exact ⟨[_], .single (.nodeLoaded h session node known closed answer)⟩

theorem trail_sendMapList (h : Hub σ) (session : SessionId) :
    ∃ letters : List Letter, Trail h (letters.map .letter) (h.sendMapList session) := by
  rw [sendMapList]
  rcases answer : Store.listMaps h.store with ⟨e | entries, store⟩
  · have failed : (Store.listMaps h.store).1 = .error e := by rw [answer]
    have asked := Change.consulted h (.maps failed)
    rw [answer] at asked
    exact ⟨[], .single asked⟩
  · exact ⟨[(session, .mapList (entries.filter fun e => e.id ≠ 0))],
      .single (.mapsListed h session answer)⟩

/-- Closing a map posts nothing. -/
theorem trail_closeMap (h : Hub σ) (session : SessionId) (map : MapId) :
    Trail h [] (h.closeMap session map).2 := by
  rw [closeMap]
  split
  · exact .still h
  · rename_i m found
    obtain ⟨found, member⟩ := subscribedMap?_eq_some_iff.mp found
    dsimp only
    split
    · rename_i last
      have same : (h.putMap map { m with subscribers := m.subscribers.erase session }).writeBackMap
          map = h.writeBackMap map := by
        rw [writeBackMap_of_get? found, writeBackMap_of_get? (Table.get?_insert_self _ _ _)]
        simp only [maps_putMap, Table.erase_insert_self]
        rfl
      rw [same]
      exact .single (.mapGivenUp h session map m found member last)
    · rename_i others
      exact .single (.mapLeft h session map m found member (by simpa using others))

theorem trail_unlockNode (h : Hub σ) (session : SessionId) (node : NodeId) :
    ∃ letters : List Letter, Trail h (letters.map .letter) (h.unlockNode session node).2 := by
  rw [unlockNode]
  split
  · exact ⟨[], .still h⟩
  · rename_i n found
    obtain ⟨found, held⟩ := heldNode?_eq_some_iff.mp found
    dsimp only
    rw [notifyAll_eq_post]
    exact ⟨lettersToAll n.subscribers (.nodeUnlocked node),
      .single (.nodeUnlocked h session node n found held)⟩

/-- Leaving a node without its lock posts nothing. -/
theorem trail_leaveNode {h : Hub σ} {session : SessionId} {node : NodeId} {n : OpenNode}
    (found : h.nodes.get? node = some n) (member : session ∈ n.subscribers)
    (free : n.isHeldBy session = false) : Trail h [] (h.leaveNode session node) := by
  rw [leaveNode]
  rw [found]
  dsimp only
  split
  · rename_i last
    have same : (h.putNode node { n with subscribers := n.subscribers.erase session }).writeBackNode
        node = h.writeBackNode node := by
      rw [writeBackNode_of_get? found, writeBackNode_of_get? (Table.get?_insert_self _ _ _)]
      simp only [nodes_putNode, Table.erase_insert_self]
      rfl
    rw [same]
    exact .single (.nodeGivenUp h session node n found member free last)
  · rename_i others
    exact .single (.nodeLeft h session node n found member free (by simpa using others))

/-- Closing a node gives the lock back first. -/
theorem trail_closeNode (h : Hub σ) (session : SessionId) (node : NodeId) :
    ∃ letters : List Letter, Trail h (letters.map .letter) (h.closeNode session node).2 := by
  rw [closeNode]
  split
  · exact ⟨[], .still h⟩
  · rename_i n subscribed
    obtain ⟨found, member⟩ := subscribedNode?_eq_some_iff.mp subscribed
    rw [unlockNode]
    split
    · rename_i missing
      exact ⟨[], trail_leaveNode found member (heldNode?_eq_none found missing)⟩
    · rename_i n' holding
      obtain ⟨found', held⟩ := heldNode?_eq_some_iff.mp holding
      obtain rfl : n = n' := Option.some.inj (found.symm.trans found')
      dsimp only
      rw [notifyAll_eq_post]
      have unlock := Change.nodeUnlocked h session node n found held
      have leave := trail_leaveNode
        (h := (h.putNode node { n with holder := none }).post
          (lettersToAll n.subscribers (.nodeUnlocked node)))
        (n := { n with holder := none }) (Table.get?_insert_self _ _ _) member rfl
      exact ⟨lettersToAll n.subscribers (.nodeUnlocked node), .step_silent unlock leave⟩

theorem trail_lockNode (h : Hub σ) (session : SessionId) (node : NodeId) (now : UInt32) :
    ∃ letters : List Letter, Trail h (letters.map .letter) (h.lockNode session node now).2 := by
  rw [lockNode]
  split
  · exact ⟨[], .still h⟩
  · rename_i n subscribed
    obtain ⟨found, member⟩ := subscribedNode?_eq_some_iff.mp subscribed
    split
    · exact ⟨[], .still h⟩
    · rename_i free
      split
      · exact ⟨[], .still h⟩
      · rename_i s known
        dsimp only
        rw [lockFrames_eq_map]
        let holder : Holder := ⟨session, s.login, s.host, now⟩
        exact ⟨lockLetters node n.subscribers holder,
          .single (.nodeLocked h node n s holder found free member known rfl rfl)⟩

omit [Store σ] in
/-- Forgetting a placeholder is refused or changes what is kept of the session. -/
theorem acknowledge_cases (α : Type) [MapElement α] (h : Hub σ) (session : SessionId)
    (old new : ElementId) :
    (∃ e, h.acknowledge α session old new = (.error e, h)) ∨
    ∃ s ids, h.router.session? session = some s ∧
      (MapElement.placeholders α s).erase old new = .ok ids ∧
      h.acknowledge α session old new =
        (.ok (), h.amend session fun s => MapElement.withPlaceholders α s ids) := by
  rw [acknowledge]
  split
  · exact .inl ⟨_, rfl⟩
  · rename_i s known
    split
    · exact .inl ⟨_, rfl⟩
    · rename_i ids erased
      exact .inr ⟨s, ids, known, erased, rfl⟩

theorem trail_acknowledge {α : Type} [MapElement α]
    (keeps : ∀ s p, (MapElement.withPlaceholders α s p).reader = s.reader) (h : Hub σ)
    (session : SessionId) (old new : ElementId) :
    Trail h [] (h.acknowledge α session old new).2 := by
  rcases h.acknowledge_cases α session old new with ⟨e, refused⟩ | ⟨s, ids, known, erased, effect⟩
  · rw [refused]
    exact .still h
  · rw [effect]
    exact .single (.amended h session _ fun s => keeps s ids)

theorem trail_logIn (h : Hub σ) (session : SessionId) (login : String) :
    Trail h [] (h.logIn session login).2 := by
  rw [logIn]
  split
  · exact .single (.amended h session _ fun _ => rfl)
  · exact .still h

/-- The mark of the deed that a request amounts to, if it is accepted. -/
def deedMarks (h : Hub σ) (session : SessionId) (request : Request) : List Mark :=
  ((h.deed? session request).map (Mark.deed session)).toList

/-- A request that is applied leaves the mark of its deed, if it is one, and then letters. -/
theorem trail_apply {h : Hub σ} {session : SessionId}
    (known : h.router.isRegistered session = true) (now : UInt32) (request : Request) :
    ∃ letters : List Letter,
      Trail h (h.deedMarks session request ++ letters.map .letter)
        (h.apply session now request).2 := by
  cases request with
  | login login password => exact ⟨[], h.trail_logIn session login⟩
  | getMapList => exact h.trail_sendMapList session
  | openMap map => exact trail_openMap known map
  | closeMap map => exact ⟨[], h.trail_closeMap session map⟩
  | addSymbol map id x y => exact (h.edits_addSymbol session map id x y).settled.trail
  | renameSymbol map old new =>
      exact ⟨[], trail_acknowledge (α := Symbol) (fun _ _ => rfl) h session old new⟩
  | deleteSymbol map id => exact (h.edits_deleteSymbol session map 0 id).settled.trail
  | translateSymbol map id dx dy =>
      exact (h.edits_translateSymbol session map 0 id dx dy).settled.trail
  | addConnection map id sym0 sym1 =>
      exact (h.edits_addConnection session map id sym0 sym1).settled.trail
  | renameConnection map old new =>
      exact ⟨[], trail_acknowledge (α := Connection) (fun _ _ => rfl) h session old new⟩
  | deleteConnection map id => exact (h.edits_deleteConnection session map 0 id).settled.trail
  | openNode node => exact trail_openNode known node
  | closeNode node => exact h.trail_closeNode session node
  | setNode node fields => exact (h.setFields_settled session node fields).trail
  | lockNode node => exact h.trail_lockNode session node now
  | unlockNode node => exact h.trail_unlockNode session node
  | unsupported command => exact ⟨[], .still h⟩

end TopoSync.Hub
