import TopoSync.Proofs.Acts
import TopoSync.Store.Recorded

/-!
# What is known of the store

A hub knows its store by the answers alone.  If a store seen through a function answers as the store
that is seen does, then the hub over the one, seen through the function, is the hub over the other,
whatever requests are answered, sessions ended and events dealt with.
-/

namespace TopoSync

/-- Whether a store seen through a function gives the answers of the store that is seen, and is seen
in the same way afterwards. -/
structure Store.Mirrors {σ τ : Type} [Store σ] [Store τ] (f : σ → τ) : Prop where
  listMaps : ∀ s, Store.listMaps (f s) = ((Store.listMaps s).1, f (Store.listMaps s).2)
  loadMap : ∀ s map, Store.loadMap (f s) map = ((Store.loadMap s map).1, f (Store.loadMap s map).2)
  saveMap : ∀ s map contents, Store.saveMap (f s) map contents =
    ((Store.saveMap s map contents).1, f (Store.saveMap s map contents).2)
  loadNode : ∀ s node,
    Store.loadNode (f s) node = ((Store.loadNode s node).1, f (Store.loadNode s node).2)
  saveNode : ∀ s node fields, Store.saveNode (f s) node fields =
    ((Store.saveNode s node fields).1, f (Store.saveNode s node fields).2)

/-- A store that records its calls answers as the one that it passes them on to. -/
theorem Recorded.mirrors {σ : Type} [Store σ] : Store.Mirrors (Recorded.inner (σ := σ)) :=
  ⟨fun _ => rfl, fun _ _ => rfl, fun _ _ _ => rfl, fun _ _ => rfl, fun _ _ _ => rfl⟩

namespace Hub

variable {σ τ : Type}

/-- The hub with its store seen through a function. -/
def seen (f : σ → τ) (h : Hub σ) : Hub τ :=
  { h with store := f h.store }

/-- The outcome with the store seen through a function. -/
def seenOutcome (f : σ → τ) {α : Type} (o : Outcome σ α) : Outcome τ α :=
  (o.1, o.2.seen f)

variable (f : σ → τ) (h : Hub σ)

@[simp] theorem maps_seen : (h.seen f).maps = h.maps := rfl

@[simp] theorem nodes_seen : (h.seen f).nodes = h.nodes := rfl

@[simp] theorem router_seen : (h.seen f).router = h.router := rfl

theorem subscribedMap?_seen (session : SessionId) (map : MapId) :
    (h.seen f).subscribedMap? session map = h.subscribedMap? session map := rfl

theorem subscribedNode?_seen (session : SessionId) (node : NodeId) :
    (h.seen f).subscribedNode? session node = h.subscribedNode? session node := rfl

theorem heldNode?_seen (session : SessionId) (node : NodeId) :
    (h.seen f).heldNode? session node = h.heldNode? session node := rfl

section Blind

variable {α : Type} [MapElement α] (session : SessionId) (map : MapId)

theorem addElement_seen (temp : ElementId) (build : ElementId → α) :
    (h.seen f).addElement session map temp build =
      seenOutcome f (h.addElement session map temp build) := by
  rw [addElement, addElement, subscribedMap?_seen, router_seen]
  split
  · rfl
  · split
    · rfl
    · cases h.subscribedMap? session map with
      | none => rfl
      | some m =>
          dsimp only
          split <;> rfl

theorem deleteElement_seen (id : ElementId) :
    (h.seen f).deleteElement α session map id =
      seenOutcome f (h.deleteElement α session map id) := by
  rw [deleteElement, deleteElement, subscribedMap?_seen, router_seen]
  cases h.subscribedMap? session map with
  | none => rfl
  | some m =>
      cases h.router.session? session with
      | none => rfl
      | some s =>
          dsimp only
          split
          · rfl
          · split <;> rfl

theorem acknowledge_seen (old new : ElementId) :
    (h.seen f).acknowledge α session old new = seenOutcome f (h.acknowledge α session old new) := by
  rw [acknowledge, acknowledge, router_seen]
  cases h.router.session? session with
  | none => rfl
  | some s =>
      dsimp only
      split <;> rfl

theorem logIn_seen (login : String) :
    (h.seen f).logIn session login = seenOutcome f (h.logIn session login) := by
  rw [logIn, logIn, router_seen]
  split <;> rfl

theorem addConnection_seen (temp sym0 sym1 : ElementId) :
    (h.seen f).addConnection session map temp sym0 sym1 =
      seenOutcome f (h.addConnection session map temp sym0 sym1) := by
  rw [addConnection, addConnection, router_seen]
  cases h.router.session? session with
  | none => rfl
  | some s => exact h.addElement_seen f session map temp _

theorem translateSymbol_seen (id : ElementId) (dx dy : Int32) :
    (h.seen f).translateSymbol session map id dx dy =
      seenOutcome f (h.translateSymbol session map id dx dy) := by
  rw [translateSymbol, translateSymbol, router_seen, subscribedMap?_seen]
  cases h.router.session? session with
  | none => rfl
  | some s =>
      cases h.subscribedMap? session map with
      | none => rfl
      | some m =>
          dsimp only
          split <;> rfl

theorem setFields_seen (node : NodeId) (fields : NodeFields) :
    (h.seen f).setFields session node fields = seenOutcome f (h.setFields session node fields) := by
  rw [setFields, setFields, heldNode?_seen]
  cases h.heldNode? session node <;> rfl

theorem unlockNode_seen (node : NodeId) :
    (h.seen f).unlockNode session node = seenOutcome f (h.unlockNode session node) := by
  rw [unlockNode, unlockNode, heldNode?_seen]
  cases h.heldNode? session node <;> rfl

theorem lockNode_seen (node : NodeId) (now : UInt32) :
    (h.seen f).lockNode session node now = seenOutcome f (h.lockNode session node now) := by
  rw [lockNode, lockNode, subscribedNode?_seen, router_seen]
  cases h.subscribedNode? session node with
  | none => rfl
  | some n =>
      dsimp only
      cases n.holder with
      | some holder => rfl
      | none =>
          dsimp only
          cases h.router.session? session <;> rfl

end Blind

section Storing

variable [Store σ] [Store τ] {f} (mirrors : Store.Mirrors f)

include mirrors

theorem sendMapList_seen (session : SessionId) :
    (h.seen f).sendMapList session = (h.sendMapList session).seen f := by
  have answer : Store.listMaps (h.seen f).store = _ := mirrors.listMaps h.store
  rw [sendMapList, sendMapList, answer]
  rcases Store.listMaps h.store with ⟨_ | _, _⟩ <;> rfl

theorem fetchMap_seen (map : MapId) :
    (h.seen f).fetchMap map = seenOutcome f (h.fetchMap map) := by
  have answer := mirrors.loadMap h.store map
  rw [fetchMap, fetchMap, maps_seen]
  cases h.maps.get? map with
  | some m => rfl
  | none =>
      dsimp only [seen]
      rw [answer]
      rcases Store.loadMap h.store map with ⟨_ | _ | _, _⟩ <;> rfl

theorem openMap_seen (session : SessionId) (map : MapId) :
    (h.seen f).openMap session map = seenOutcome f (h.openMap session map) := by
  rw [openMap, openMap, h.fetchMap_seen mirrors]
  split
  · rfl
  · rcases h.fetchMap map with ⟨_ | _, _⟩ <;> rfl

theorem writeBackMap_seen (map : MapId) :
    (h.seen f).writeBackMap map = (h.writeBackMap map).seen f := by
  rw [writeBackMap, writeBackMap, maps_seen]
  cases h.maps.get? map with
  | none => rfl
  | some m =>
      dsimp only [seen]
      rw [mirrors.saveMap]

theorem closeMap_seen (session : SessionId) (map : MapId) :
    (h.seen f).closeMap session map = seenOutcome f (h.closeMap session map) := by
  rw [closeMap, closeMap, subscribedMap?_seen]
  cases h.subscribedMap? session map with
  | none => rfl
  | some m =>
      dsimp only
      split
      · exact congrArg (Prod.mk _) ((h.putMap map _).writeBackMap_seen mirrors map)
      · rfl

theorem fetchNode_seen (node : NodeId) :
    (h.seen f).fetchNode node = seenOutcome f (h.fetchNode node) := by
  have answer := mirrors.loadNode h.store node
  rw [fetchNode, fetchNode, nodes_seen]
  cases h.nodes.get? node with
  | some n => rfl
  | none =>
      dsimp only [seen]
      rw [answer]
      rcases Store.loadNode h.store node with ⟨_ | _ | _, _⟩ <;> rfl

theorem openNode_seen (session : SessionId) (node : NodeId) :
    (h.seen f).openNode session node = seenOutcome f (h.openNode session node) := by
  rw [openNode, openNode, h.fetchNode_seen mirrors]
  rcases h.fetchNode node with ⟨reason | _, _⟩
  · cases reason <;> rfl
  · rfl

theorem writeBackNode_seen (node : NodeId) :
    (h.seen f).writeBackNode node = (h.writeBackNode node).seen f := by
  rw [writeBackNode, writeBackNode, nodes_seen]
  cases h.nodes.get? node with
  | none => rfl
  | some n =>
      dsimp only [seen]
      rw [mirrors.saveNode]

theorem leaveNode_seen (session : SessionId) (node : NodeId) :
    (h.seen f).leaveNode session node = (h.leaveNode session node).seen f := by
  rw [leaveNode, leaveNode, nodes_seen]
  cases h.nodes.get? node with
  | none => rfl
  | some n =>
      dsimp only
      split
      · exact (h.putNode node _).writeBackNode_seen mirrors node
      · rfl

theorem closeNode_seen (session : SessionId) (node : NodeId) :
    (h.seen f).closeNode session node = seenOutcome f (h.closeNode session node) := by
  rw [closeNode, closeNode, subscribedNode?_seen, unlockNode_seen]
  cases h.subscribedNode? session node with
  | none => rfl
  | some n => exact congrArg (Prod.mk _) (leaveNode_seen _ mirrors session node)

omit [Store σ] [Store τ] mirrors in
/-- What is done for each item of a list is seen alike if it is for every single item. -/
theorem foldl_seen {β : Type} {step : Hub σ → β → Hub σ} {step' : Hub τ → β → Hub τ}
    (one : ∀ h b, step' (seen f h) b = (step h b).seen f) (items : List β) :
    items.foldl step' (h.seen f) = (items.foldl step h).seen f := by
  induction items generalizing h with
  | nil => rfl
  | cons b rest ih => rw [List.foldl_cons, one, ih, List.foldl_cons]

theorem flush_seen :
    (h.seen f).flushMaps.2.flushNodes.2 = h.flushMaps.2.flushNodes.2.seen f := by
  have maps : (h.seen f).flushMaps.2 = h.flushMaps.2.seen f :=
    h.foldl_seen (fun h map => h.writeBackMap_seen mirrors map) _
  rw [maps]
  exact h.flushMaps.2.foldl_seen (fun h node => h.writeBackNode_seen mirrors node) _

/-- A request has the same outcome. -/
theorem apply_seen (session : SessionId) (now : UInt32) (request : Request) :
    (h.seen f).apply session now request = seenOutcome f (h.apply session now request) := by
  cases request with
  | login login password => exact h.logIn_seen f session login
  | getMapList => exact congrArg (Prod.mk _) (h.sendMapList_seen mirrors session)
  | openMap map => exact h.openMap_seen mirrors session map
  | closeMap map => exact h.closeMap_seen mirrors session map
  | addSymbol map id x y =>
      exact congrArg dropValue (h.addElement_seen f session map id fun id => Symbol.placed id x y)
  | renameSymbol map old new => exact h.acknowledge_seen f session old new
  | deleteSymbol map id => exact congrArg dropValue (h.deleteElement_seen f session map id)
  | translateSymbol map id dx dy => exact h.translateSymbol_seen f session map id dx dy
  | addConnection map id sym0 sym1 =>
      exact congrArg dropValue (h.addConnection_seen f session map id sym0 sym1)
  | renameConnection map old new => exact h.acknowledge_seen f session old new
  | deleteConnection map id => exact congrArg dropValue (h.deleteElement_seen f session map id)
  | openNode node => exact h.openNode_seen mirrors session node
  | closeNode node => exact h.closeNode_seen mirrors session node
  | setNode node fields => exact h.setFields_seen f session node fields
  | lockNode node => exact h.lockNode_seen f session node now
  | unlockNode node => exact h.unlockNode_seen f session node
  | unsupported command => rfl

theorem answerFrame_seen (session : SessionId) (now : UInt32) (frame : Bytes) :
    ((h.seen f).answerFrame session now frame).2 = ((h.answerFrame session now frame).2).seen f := by
  rw [answerFrame_eq, answerFrame_eq]
  cases Request.ofFrame? frame with
  | none => rfl
  | some request => exact congrArg Prod.snd (h.apply_seen mirrors session now request)

theorem endSession_seen (session : SessionId) :
    (h.seen f).endSession session = (h.endSession session).seen f := by
  have maps : ((h.seen f).releaseMaps session).2 = (h.releaseMaps session).2.seen f :=
    h.foldl_seen (fun h map => congrArg Prod.snd (h.closeMap_seen mirrors session map)) _
  have nodes : ((h.seen f).releaseMaps session).2.releaseNodes session =
      ((h.releaseMaps session).2.nodesOf session |>.length,
        ((h.releaseMaps session).2.releaseNodes session).2.seen f) := by
    rw [maps]
    exact congrArg (Prod.mk _) ((h.releaseMaps session).2.foldl_seen
      (fun h node => congrArg Prod.snd (h.closeNode_seen mirrors session node)) _)
  rw [endSession, nodes]
  rfl

theorem endSessions_seen (pending : List SessionId) :
    (h.seen f).endSessions pending = (h.endSessions pending).seen f := by
  induction h, pending using endSessions.induct with
  | case1 h => rw [endSessions_nil, endSessions_nil]
  | case2 h id rest registered ended ih =>
      have ending := h.endSession_seen mirrors id
      rw [endSessions_of_registered registered,
        endSessions_of_registered (h := h.seen f) registered, ending]
      exact ih
  | case3 h id rest unknown ih =>
      have unknown : h.router.isRegistered id = false := by simpa using unknown
      rw [endSessions_of_not_registered unknown,
        endSessions_of_not_registered (h := h.seen f) unknown]
      exact ih

theorem reapFailed_seen : (h.seen f).reapFailed = h.reapFailed.seen f :=
  h.takeFailed.2.endSessions_seen mirrors h.takeFailed.1

end Storing

end Hub

namespace Engine

variable {σ τ : Type} [Store σ] [Store τ] {f : σ → τ}

/-- The engine with its store seen through a function. -/
def seen (f : σ → τ) (e : Engine σ) : Engine τ :=
  ⟨e.hub.seen f, e.maxFrameSize⟩

theorem receive_seen (mirrors : Store.Mirrors f) (e : Engine σ) (id : SessionId) (bytes : Bytes)
    (clock : Clock) : (e.seen f).receive id bytes clock = (e.receive id bytes clock).seen f := by
  have session : (e.seen f).hub.router.session? id = e.hub.router.session? id := rfl
  have limit : (e.seen f).maxFrameSize = e.maxFrameSize := rfl
  rw [receive, receive, session, limit]
  cases e.hub.router.session? id with
  | none => rfl
  | some s =>
      dsimp only
      rcases Framing.split e.maxFrameSize (s.pushBytes bytes).inbound with ⟨frames, rest, stop⟩
      let h := (e.hub.rebuffer id rest).answerFrames id clock frames
      have answered :
          Hub.answerFrames ((e.hub.rebuffer id rest).seen f) id clock frames = h.seen f :=
        (e.hub.rebuffer id rest).foldl_seen
          (fun h timed => h.answerFrame_seen mirrors id timed.1 timed.2) (clock.stamp frames)
      cases stop with
      | wantsMore =>
          have settled := h.reapFailed_seen mirrors
          rw [← answered] at settled
          exact congrArg (fun h => (⟨h, e.maxFrameSize⟩ : Engine τ)) settled
      | badLength length =>
          have settled := (h.disconnect id).reapFailed_seen mirrors
          rw [Hub.disconnect, ← h.endSessions_seen mirrors, ← answered] at settled
          exact congrArg (fun h => (⟨h, e.maxFrameSize⟩ : Engine τ)) settled

theorem move_seen (mirrors : Store.Mirrors f) (e : Engine σ) (m : Move) :
    (e.seen f).move m = (e.move m).seen f := by
  cases m with
  | retire id after => rfl
  | event event =>
      cases event with
      | connected id host reader => rfl
      | data id bytes clock => exact e.receive_seen mirrors id bytes clock
      | disconnected id =>
          exact congrArg (fun h => (⟨h, e.maxFrameSize⟩ : Engine τ))
            (e.hub.endSessions_seen mirrors [id])
      | shutdown =>
          exact congrArg (fun h => (⟨h, e.maxFrameSize⟩ : Engine τ)) (e.hub.flush_seen mirrors)

/-- A run goes the same way over a store that answers alike. -/
theorem after_seen (mirrors : Store.Mirrors f) (e : Engine σ) (moves : List Move) :
    (e.seen f).after moves = (e.after moves).seen f := by
  induction moves generalizing e with
  | nil => rfl
  | cons m rest ih =>
      have first := e.move_seen mirrors m
      rw [after, List.foldl_cons, first]
      exact ih (e.move m)

end Engine

end TopoSync
