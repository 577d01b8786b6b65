import TopoSync.Checked.Frames
import TopoSync.Checked.Reader
import TopoSync.Hub.Requests

/-!
# Operations of the hub step by step

Every operation that tells somebody something builds a frame, and a deletion takes an element out at
the position where it was found.  Here the operations are written with these steps, and the answer to
a frame with the steps by which the frame is read.  No operation fails, and an answer can only fail
for a frame without a whole header.
-/

namespace TopoSync

namespace Hub

variable {σ : Type}

/-- Queues a notification to one session. -/
def notify? (h : Hub σ) (session : SessionId) (n : Notification) : Option (Hub σ) := do
  let frame ← n.toFrame?
  return { h with router := (h.router.send session frame).2 }

/-- Queues a notification to every member of a roster but one. -/
def notifyOthers? (h : Hub σ) (members : Roster) (leftOut : SessionId) (n : Notification) :
    Option (Hub σ) := do
  let frame ← n.toFrame?
  return { h with router := (h.router.broadcast members.members frame (some leftOut)).2 }

/-- Queues a notification to every member of a roster. -/
def notifyAll? (h : Hub σ) (members : Roster) (n : Notification) : Option (Hub σ) := do
  let frame ← n.toFrame?
  return { h with router := (h.router.broadcast members.members frame none).2 }

@[simp] theorem notify?_eq (h : Hub σ) (session : SessionId) (n : Notification) :
    h.notify? session n = some (h.notify session n) := by
  rw [notify?, Notification.toFrame?_eq]
  rfl

@[simp] theorem notifyOthers?_eq (h : Hub σ) (members : Roster) (leftOut : SessionId)
    (n : Notification) :
    h.notifyOthers? members leftOut n = some (h.notifyOthers members leftOut n) := by
  rw [notifyOthers?, Notification.toFrame?_eq]
  rfl

@[simp] theorem notifyAll?_eq (h : Hub σ) (members : Roster) (n : Notification) :
    h.notifyAll? members n = some (h.notifyAll members n) := by
  rw [notifyAll?, Notification.toFrame?_eq]
  rfl

section Maps

/-- Adds an element under a placeholder and answers its number. -/
def addElement? {α : Type} [MapElement α] (h : Hub σ) (origin : SessionId) (map : MapId)
    (temp : ElementId) (build : ElementId → α) : Option (Outcome σ ElementId) := do
  if 0 ≤ temp then return (.error (.badPlaceholder (.notNegative temp)), h)
  else if h.router.isRegistered origin = false then return (.error (.unknownSession origin), h)
  else
    match h.subscribedMap? origin map with
    | none => return (.error (.mapNotOpen origin map), h)
    | some m =>
        let elements : List α := MapElement.elements m.diagram
        match Elements.nextFree? elements with
        | none => return (.error (.idsExhausted map (MapElement.noun α)), h)
        | some id =>
            let element := build id
            let diagram := MapElement.withElements m.diagram (elements ++ [element])
            let h := h.putMap map { m with diagram }
            let h ← h.notify? origin (MapElement.renamed α map temp id)
            let h ← h.notifyOthers? m.subscribers origin (MapElement.added map element)
            let router := h.router.updateSession origin fun s => s.recordPlaceholder α temp id
            return (.ok id, { h with router })

theorem addElement?_eq {α : Type} [MapElement α] (h : Hub σ) (origin : SessionId) (map : MapId)
    (temp : ElementId) (build : ElementId → α) :
    h.addElement? origin map temp build = some (h.addElement origin map temp build) := by
  rw [addElement?, addElement]
  split
  · rfl
  · split
    · rfl
    · cases h.subscribedMap? origin map with
      | none => rfl
      | some m =>
          dsimp only
          cases Elements.nextFree? (MapElement.elements m.diagram : List α) with
          | none => rfl
          | some id =>
              simp only [notify?_eq, notifyOthers?_eq, Option.bind_eq_bind, Option.bind_some]
              rfl

/-- Adds a connection.  Its ends may be placeholders of the session. -/
def addConnection? (h : Hub σ) (origin : SessionId) (map : MapId) (temp sym0 sym1 : ElementId) :
    Option (Outcome σ ElementId) :=
  match h.router.session? origin with
  | none => return (.error (.unknownSession origin), h)
  | some s =>
      h.addElement? origin map temp fun id =>
        (⟨id, s.symbolIds.resolve sym0, s.symbolIds.resolve sym1⟩ : Connection)

theorem addConnection?_eq (h : Hub σ) (origin : SessionId) (map : MapId)
    (temp sym0 sym1 : ElementId) :
    h.addConnection? origin map temp sym0 sym1 =
      some (h.addConnection origin map temp sym0 sym1) := by
  rw [addConnection?, addConnection]
  cases h.router.session? origin with
  | none => rfl
  | some s => exact h.addElement?_eq origin map temp _

/-- Deletes an element and answers its number. -/
def deleteElement? (α : Type) [MapElement α] (h : Hub σ) (origin : SessionId) (map : MapId)
    (id : ElementId) : Option (Outcome σ ElementId) := do
  match h.subscribedMap? origin map with
  | none => return (.error (.mapNotOpen origin map), h)
  | some m =>
      match h.router.session? origin with
      | none => return (.error (.unknownSession origin), h)
      | some s =>
          let ids := MapElement.placeholders α s
          let resolved := ids.resolve id
          let elements : List α := MapElement.elements m.diagram
          if Elements.contains elements resolved = false then
            return (.error (.unknownElement map (MapElement.noun α) resolved), h)
          else
            match if resolved = id then .ok ids else ids.erase id resolved with
            | .error reason => return (.error (.badPlaceholder reason), h)
            | .ok ids =>
                let left ← Elements.remove? elements resolved
                let h := h.putMap map { m with diagram := MapElement.withElements m.diagram left }
                let router := h.router.updateSession origin fun s =>
                  MapElement.withPlaceholders α s ids
                let h : Hub σ := { h with router }
                let h ← h.notifyOthers? m.subscribers origin (MapElement.deleted α map resolved)
                return (.ok resolved, h)

theorem deleteElement?_eq (α : Type) [MapElement α] (h : Hub σ) (origin : SessionId) (map : MapId)
    (id : ElementId) :
    h.deleteElement? α origin map id = some (h.deleteElement α origin map id) := by
  rw [deleteElement?, deleteElement]
  cases h.subscribedMap? origin map with
  | none => rfl
  | some m =>
      cases h.router.session? origin with
      | none => rfl
      | some s =>
          dsimp only
          split
          · rfl
          · generalize (if (MapElement.placeholders α s).resolve id = id then
              Except.ok (MapElement.placeholders α s) else _) = forgotten
            cases forgotten with
            | error reason => rfl
            | ok ids =>
                simp only [Elements.remove?_eq, notifyOthers?_eq, Option.bind_eq_bind,
                  Option.bind_some]
                rfl

/-- Moves a symbol by an offset. -/
def translateSymbol? (h : Hub σ) (origin : SessionId) (map : MapId) (id : ElementId)
    (dx dy : Int32) : Option (Outcome σ Unit) := do
  match h.router.session? origin with
  | none => return (.error (.unknownSession origin), h)
  | some s =>
      let resolved := s.symbolIds.resolve id
      match h.subscribedMap? origin map with
      | none => return (.error (.mapNotOpen origin map), h)
      | some m =>
          if Elements.contains m.diagram.symbols resolved = false then
            return (.error (.unknownElement map (MapElement.noun Symbol) resolved), h)
          else
            let symbols := Elements.update m.diagram.symbols resolved fun s => s.moved dx dy
            let h := h.putMap map { m with diagram := { m.diagram with symbols } }
            let h ← h.notifyOthers? m.subscribers origin (.symbolTranslated map resolved dx dy)
            return (.ok (), h)

theorem translateSymbol?_eq (h : Hub σ) (origin : SessionId) (map : MapId) (id : ElementId)
    (dx dy : Int32) :
    h.translateSymbol? origin map id dx dy = some (h.translateSymbol origin map id dx dy) := by
  rw [translateSymbol?, translateSymbol]
  cases h.router.session? origin with
  | none => rfl
  | some s =>
      cases h.subscribedMap? origin map with
      | none => rfl
      | some m =>
          dsimp only
          split
          · rfl
          · rw [notifyOthers?_eq]
            rfl

variable [Store σ]

/-- Subscribes a session to a map and sends it the contents. -/
def openMap? (h : Hub σ) (session : SessionId) (map : MapId) : Option (Outcome σ Unit) := do
  if map = 0 then return (.error .reservedMap, h)
  else
    match h.fetchMap map with
    | (.error e, h) => return (.error e, h)
    | (.ok m, h) =>
        let h := h.putMap map { m with subscribers := m.subscribers.insert session }
        let h ← h.notify? session (.mapSnapshot map m.diagram)
        return (.ok (), h)

theorem openMap?_eq (h : Hub σ) (session : SessionId) (map : MapId) :
    h.openMap? session map = some (h.openMap session map) := by
  rw [openMap?, openMap]
  split
  · rfl
  · rcases h.fetchMap map with ⟨_ | m, h'⟩
    · rfl
    · dsimp only
      rw [notify?_eq]
      rfl

end Maps

section Nodes

/-- The frames that announce a lock: the holder is told that the lock is its own. -/
def lockFrames? (node : NodeId) (members : Roster) (holder : Holder) :
    Option (List (SessionId × Frame)) := do
  let others ← (Notification.nodeLocked node .lockedRemote holder.view).toFrame?
  let own := others.withByte Notification.lockKindOffset LockKind.lockedLocal.code
  return members.members.map fun id => (id, if id = holder.session then own else others)

theorem lockFrames?_eq (node : NodeId) (members : Roster) (holder : Holder) :
    lockFrames? node members holder = some (lockFrames node members holder) := by
  rw [lockFrames?, Notification.toFrame?_eq]
  rfl

/-- Takes the lock of a node. -/
def lockNode? (h : Hub σ) (session : SessionId) (node : NodeId) (now : UInt32) :
    Option (Outcome σ Unit) := do
  match h.subscribedNode? session node with
  | none => return (.error (.nodeNotOpen session node), h)
  | some n =>
      match n.holder with
      | some holder => return (.error (.alreadyLocked node holder.session), h)
      | none =>
          match h.router.session? session with
          | none => return (.error (.unknownSession session), h)
          | some s =>
              let holder : Holder := ⟨session, s.login, s.host, now⟩
              let h := h.putNode node { n with holder := some holder }
              let frames ← lockFrames? node n.subscribers holder
              return (.ok (), { h with router := (h.router.deliver frames).2 })

theorem lockNode?_eq (h : Hub σ) (session : SessionId) (node : NodeId) (now : UInt32) :
    h.lockNode? session node now = some (h.lockNode session node now) := by
  rw [lockNode?, lockNode]
  cases h.subscribedNode? session node with
  | none => rfl
  | some n =>
      dsimp only
      cases n.holder with
      | some holder => rfl
      | none =>
          cases h.router.session? session with
          | none => rfl
          | some s =>
              dsimp only
              rw [lockFrames?_eq]
              rfl

/-- Replaces the fields of a node. -/
def setFields? (h : Hub σ) (session : SessionId) (node : NodeId) (fields : NodeFields) :
    Option (Outcome σ Unit) := do
  match h.heldNode? session node with
  | none => return (.error (.notLockHolder session node), h)
  | some n =>
      let h := h.putNode node { n with record := { n.record with fields } }
      let h ← h.notifyOthers? n.subscribers session (.nodeUpdated node fields)
      return (.ok (), h)

theorem setFields?_eq (h : Hub σ) (session : SessionId) (node : NodeId) (fields : NodeFields) :
    h.setFields? session node fields = some (h.setFields session node fields) := by
  rw [setFields?, setFields]
  cases h.heldNode? session node with
  | none => rfl
  | some n =>
      dsimp only
      rw [notifyOthers?_eq]
      rfl

/-- Gives the lock of a node back. -/
def unlockNode? (h : Hub σ) (session : SessionId) (node : NodeId) : Option (Outcome σ Unit) := do
  match h.heldNode? session node with
  | none => return (.error (.notLockHolder session node), h)
  | some n =>
      let h := h.putNode node { n with holder := none }
      let h ← h.notifyAll? n.subscribers (.nodeUnlocked node)
      return (.ok (), h)

theorem unlockNode?_eq (h : Hub σ) (session : SessionId) (node : NodeId) :
    h.unlockNode? session node = some (h.unlockNode session node) := by
  rw [unlockNode?, unlockNode]
  cases h.heldNode? session node with
  | none => rfl
  | some n =>
      dsimp only
      rw [notifyAll?_eq]
      rfl

variable [Store σ]

/-- Subscribes a session to a node and sends it the record and the lock as the session sees it. -/
def openNode? (h : Hub σ) (session : SessionId) (node : NodeId) : Option (Outcome σ Unit) := do
  match h.fetchNode node with
  | (.error (.nodeNotFound missing), h) =>
      let h ← h.notify? session (.nodeMissing missing)
      return (.error (.nodeNotFound missing), h)
  | (.error e, h) => return (.error e, h)
  | (.ok n, h) =>
      let h := h.putNode node { n with subscribers := n.subscribers.insert session }
      let h ← h.notify? session
        (.nodeSnapshot node (n.kindFor session) (n.holder.map Holder.view) n.record)
      return (.ok (), h)

theorem openNode?_eq (h : Hub σ) (session : SessionId) (node : NodeId) :
    h.openNode? session node = some (h.openNode session node) := by
  rw [openNode?, openNode]
  rcases h.fetchNode node with ⟨e | n, h'⟩
  · cases e with
    | nodeNotFound missing =>
        dsimp only
        rw [notify?_eq]
        rfl
    | _ => rfl
  · dsimp only
    rw [notify?_eq]
    rfl

/-- Gives the lock back, if the session holds it, and ends the session's subscription. -/
def closeNode? (h : Hub σ) (session : SessionId) (node : NodeId) : Option (Outcome σ Unit) := do
  match h.subscribedNode? session node with
  | none => return (.error (.nodeNotOpen session node), h)
  | some _ =>
      let unlocked ← h.unlockNode? session node
      return (.ok (), unlocked.2.leaveNode session node)

theorem closeNode?_eq (h : Hub σ) (session : SessionId) (node : NodeId) :
    h.closeNode? session node = some (h.closeNode session node) := by
  rw [closeNode?, closeNode]
  cases h.subscribedNode? session node with
  | none => rfl
  | some n =>
      dsimp only
      rw [unlockNode?_eq]
      rfl

/-- Ends every subscription of a session to a node, and counts them. -/
def releaseNodes? (h : Hub σ) (session : SessionId) : Option (Nat × Hub σ) := do
  let nodes := h.nodesOf session
  let h ← nodes.foldlM (fun h node => (h.closeNode? session node).map Prod.snd) h
  return (nodes.length, h)

theorem releaseNodes?_eq (h : Hub σ) (session : SessionId) :
    h.releaseNodes? session = some (h.releaseNodes session) := by
  have closed : (h.nodesOf session).foldlM
      (fun h node => (h.closeNode? session node).map Prod.snd) h =
        some (h.closeNodes session (h.nodesOf session)) :=
    Checked.foldlM_eq_some (fun h node _ => by rw [closeNode?_eq, Option.map_some]) h
  rw [releaseNodes?, closed]
  rfl

end Nodes

section Requests

variable [Store σ]

/-- Sends a session the list of maps, without the reserved one. -/
def sendMapList? (h : Hub σ) (session : SessionId) : Option (Hub σ) :=
  match Store.listMaps h.store with
  | (.error _, store) => some { h with store }
  | (.ok entries, store) =>
      notify? { h with store } session (.mapList (entries.filter fun e => e.id ≠ 0))

theorem sendMapList?_eq (h : Hub σ) (session : SessionId) :
    h.sendMapList? session = some (h.sendMapList session) := by
  rw [sendMapList?, sendMapList]
  rcases Store.listMaps h.store with ⟨_ | entries, store⟩
  · rfl
  · exact notify?_eq _ session _

/-- Does what a session asks for. -/
def carryOut? (h : Hub σ) (session : SessionId) (now : UInt32) : Request → Option (Outcome σ Unit)
  | .login login _ => some (h.logIn session login)
  | .getMapList => (h.sendMapList? session).map fun h => (.ok (), h)
  | .openMap map => h.openMap? session map
  | .closeMap map => some (h.closeMap session map)
  | .addSymbol map id x y =>
      (h.addElement? session map id fun id => Symbol.placed id x y).map dropValue
  | .renameSymbol _ old new => some (h.acknowledge Symbol session old new)
  | .deleteSymbol map id => (h.deleteElement? Symbol session map id).map dropValue
  | .translateSymbol map id dx dy => h.translateSymbol? session map id dx dy
  | .addConnection map id sym0 sym1 =>
      (h.addConnection? session map id sym0 sym1).map dropValue
  | .renameConnection _ old new => some (h.acknowledge Connection session old new)
  | .deleteConnection map id => (h.deleteElement? Connection session map id).map dropValue
  | .openNode node => h.openNode? session node
  | .closeNode node => h.closeNode? session node
  | .setNode node fields => h.setFields? session node fields
  | .lockNode node => h.lockNode? session node now
  | .unlockNode node => h.unlockNode? session node
  | .unsupported _ => some (.ok (), h)

/-- No request fails. -/
theorem carryOut?_eq (h : Hub σ) (session : SessionId) (now : UInt32) (request : Request) :
    h.carryOut? session now request = some (h.apply session now request) := by
  cases request with
  | login login password => rfl
  | getMapList =>
      rw [carryOut?, sendMapList?_eq]
      rfl
  | openMap map => exact h.openMap?_eq session map
  | closeMap map => rfl
  | addSymbol map id x y =>
      rw [carryOut?, addElement?_eq]
      rfl
  | renameSymbol map old new => rfl
  | deleteSymbol map id =>
      rw [carryOut?, deleteElement?_eq]
      rfl
  | translateSymbol map id dx dy => exact h.translateSymbol?_eq session map id dx dy
  | addConnection map id sym0 sym1 =>
      rw [carryOut?, addConnection?_eq]
      rfl
  | renameConnection map old new => rfl
  | deleteConnection map id =>
      rw [carryOut?, deleteElement?_eq]
      rfl
  | openNode node => exact h.openNode?_eq session node
  | closeNode node => exact h.closeNode?_eq session node
  | setNode node fields => exact h.setFields?_eq session node fields
  | lockNode node => exact h.lockNode?_eq session node now
  | unlockNode node => exact h.unlockNode?_eq session node
  | unsupported command => rfl

/-- Answers a frame of a session.  The length of the payload is worked out for every request, although
nothing depends on it. -/
def answerFrame? (h : Hub σ) (session : SessionId) (now : UInt32) (frame : Bytes) :
    Option (Except Rejection Unit × Hub σ) := do
  let code ← Frame.codeWord? frame
  match Command.ofCode? code with
  | none => return (.error (.unknownCommand code), h)
  | some command =>
      if frame.length < command.minFrameSize then
        return (.error (.tooShort command frame.length), h)
      else
        match ← Request.decode? command frame with
        | .error reason => return (.error (.malformed command reason), h)
        | .ok request =>
            let _ ← Checked.sub? frame.length Frame.headerSize
            match ← h.carryOut? session now request with
            | (.error reason, h) => return (.error (.refused command reason), h)
            | (.ok (), h) => return (.ok (), h)

/-- The answer to a frame with a whole header does not fail. -/
theorem answerFrame?_of_header (h : Hub σ) (session : SessionId) (now : UInt32) {frame : Bytes}
    (header : Frame.headerSize ≤ frame.length) (small : frame.length ≤ Checked.maxCount) :
    h.answerFrame? session now frame = some (h.answerFrame session now frame) := by
  rw [answerFrame?, answerFrame, Frame.codeWord?_of_header header]
  simp only [Option.bind_eq_bind, Option.bind_some]
  cases Command.ofCode? (Frame.codeWord frame) with
  | none => rfl
  | some command =>
      dsimp only
      split
      · rfl
      · rw [Request.decode?_eq small, Option.bind_some]
        cases Request.decode command frame with
        | error reason => rfl
        | ok request =>
            dsimp only
            rw [Checked.sub?_of_le header, Option.bind_some, carryOut?_eq, Option.bind_some]
            rcases h.apply session now request with ⟨_ | _, _⟩ <;> rfl

/-- The answer to a frame without a whole header fails: whoever cuts the frames has to see to it. -/
theorem answerFrame?_of_short (h : Hub σ) (session : SessionId) (now : UInt32) {frame : Bytes}
    (short : frame.length < Frame.headerSize) : h.answerFrame? session now frame = none := by
  rw [answerFrame?, Frame.codeWord?_of_short short]
  rfl

end Requests

end Hub

end TopoSync
