import TopoSync.Elements
import TopoSync.Hub.Basic

/-!
# Open maps

Symbols and connections have one life cycle.  A session proposes an element under a placeholder; the
hub gives it the least free number, tells the session about the number and everybody else who has the
map open about the element.  Deleting and moving accept the placeholder as well as the number.
-/

namespace TopoSync

/-- What the two kinds of element of a map have in common. -/
class MapElement (α : Type) extends Numbered α where
  /-- What an element is called in messages. -/
  noun : String
  /-- The elements of a diagram. -/
  elements : Diagram → List α
  /-- The diagram with other elements. -/
  withElements : Diagram → List α → Diagram
  /-- A session's placeholders for elements of this kind. -/
  placeholders : Session → Placeholders
  /-- The session with other placeholders. -/
  withPlaceholders : Session → Placeholders → Session
  /-- Tells a session the permanent number of an element that it added. -/
  renamed : MapId → ElementId → ElementId → Notification
  /-- Tells a session about a new element. -/
  added : MapId → α → Notification
  /-- Tells a session that an element is gone. -/
  deleted : MapId → ElementId → Notification

instance : MapElement Symbol where
  noun := "symbol"
  elements d := d.symbols
  withElements d symbols := { d with symbols }
  placeholders s := s.symbolIds
  withPlaceholders s symbolIds := { s with symbolIds }
  renamed := .symbolRenamed
  added map s := .symbolAdded map s.id s.x s.y
  deleted := .symbolDeleted

instance : MapElement Connection where
  noun := "connection"
  elements d := d.connections
  withElements d connections := { d with connections }
  placeholders s := s.connectionIds
  withPlaceholders s connectionIds := { s with connectionIds }
  renamed := .connectionRenamed
  added map c := .connectionAdded map c.id c.sym0 c.sym1
  deleted := .connectionDeleted

namespace Session

/-- Records what a placeholder stands for, unless it stands for something already. -/
def recordPlaceholder (α : Type) [MapElement α] (s : Session) (old new : ElementId) : Session :=
  match (MapElement.placeholders α s).insert old new with
  | .ok p => MapElement.withPlaceholders α s p
  | .error _ => s

end Session

namespace Hub

variable {σ : Type}

/-- An open map that a session subscribes to. -/
def subscribedMap? (h : Hub σ) (session : SessionId) (map : MapId) : Option OpenMap :=
  (h.maps.get? map).filter fun m => session ∈ m.subscribers

/-- The hub with an open map as given. -/
def putMap (h : Hub σ) (map : MapId) (m : OpenMap) : Hub σ :=
  { h with maps := h.maps.insert map m }

section Storing

variable [Store σ]

/-- The open map with a given number, read from the store if nobody has it open. -/
def fetchMap (h : Hub σ) (map : MapId) : Outcome σ OpenMap :=
  match h.maps.get? map with
  | some m => (.ok m, h)
  | none =>
      match Store.loadMap h.store map with
      | (.error reason, store) => (.error (.mapUnreadable map reason), { h with store })
      | (.ok none, store) => (.error (.mapNotFound map), { h with store })
      | (.ok (some diagram), store) => (.ok ⟨diagram, ∅⟩, { h with store })

/-- Subscribes a session to a map and sends it the contents. -/
def openMap (h : Hub σ) (session : SessionId) (map : MapId) : Outcome σ Unit :=
  if map = 0 then (.error .reservedMap, h)
  else
    match h.fetchMap map with
    | (.error e, h) => (.error e, h)
    | (.ok m, h) =>
        let h := h.putMap map { m with subscribers := m.subscribers.insert session }
        (.ok (), h.notify session (.mapSnapshot map m.diagram))

/-- Takes a map out of the hub and saves it.  A save that fails is not repeated. -/
def writeBackMap (h : Hub σ) (map : MapId) : Hub σ :=
  match h.maps.get? map with
  | none => h
  | some m =>
      { h with maps := h.maps.erase map, store := (Store.saveMap h.store map m.diagram).2 }

/-- Ends a session's subscription to a map.  The last one out has the map written back. -/
def closeMap (h : Hub σ) (session : SessionId) (map : MapId) : Outcome σ Unit :=
  match h.subscribedMap? session map with
  | none => (.error (.mapNotOpen session map), h)
  | some m =>
      let left := m.subscribers.erase session
      let h := h.putMap map { m with subscribers := left }
      (.ok (), if left.isEmpty then h.writeBackMap map else h)

/-- The maps that a session subscribes to. -/
def mapsOf (h : Hub σ) (session : SessionId) : List MapId :=
  (h.maps.entries.filter fun e => session ∈ e.2.subscribers).map Prod.fst

/-- Ends a session's subscriptions to some maps, one after the other. -/
def closeMaps (h : Hub σ) (session : SessionId) (maps : List MapId) : Hub σ :=
  maps.foldl (fun h map => (h.closeMap session map).2) h

/-- Ends every subscription of a session to a map, and counts them. -/
def releaseMaps (h : Hub σ) (session : SessionId) : Nat × Hub σ :=
  let maps := h.mapsOf session
  (maps.length, h.closeMaps session maps)

/-- Writes back some maps, one after the other. -/
def writeBackMaps (h : Hub σ) (maps : List MapId) : Hub σ :=
  maps.foldl writeBackMap h

/-- Writes back every open map, and counts them. -/
def flushMaps (h : Hub σ) : Nat × Hub σ :=
  (h.maps.size, h.writeBackMaps h.maps.keys)

end Storing

/-- Adds an element under a placeholder and answers its number.  The element stays added even if the
placeholder stands for something else already. -/
def addElement {α : Type} [MapElement α] (h : Hub σ) (origin : SessionId) (map : MapId)
    (temp : ElementId) (build : ElementId → α) : Outcome σ ElementId :=
  if 0 ≤ temp then (.error (.badPlaceholder (.notNegative temp)), h)
  else if h.router.isRegistered origin = false then (.error (.unknownSession origin), h)
  else
    match h.subscribedMap? origin map with
    | none => (.error (.mapNotOpen origin map), h)
    | some m =>
        let elements : List α := MapElement.elements m.diagram
        match Elements.nextFree? elements with
        | none => (.error (.idsExhausted map (MapElement.noun α)), h)
        | some id =>
            let element := build id
            let diagram := MapElement.withElements m.diagram (elements ++ [element])
            let h := h.putMap map { m with diagram }
            let h := h.notify origin (MapElement.renamed α map temp id)
            let h := h.notifyOthers m.subscribers origin (MapElement.added map element)
            let router := h.router.updateSession origin fun s => s.recordPlaceholder α temp id
            (.ok id, { h with router })

/-- Adds a symbol. -/
def addSymbol (h : Hub σ) (origin : SessionId) (map : MapId) (temp : ElementId) (x y : Int32) :
    Outcome σ ElementId :=
  h.addElement origin map temp fun id => Symbol.placed id x y

/-- Adds a connection.  Its ends may be placeholders of the session. -/
def addConnection (h : Hub σ) (origin : SessionId) (map : MapId) (temp sym0 sym1 : ElementId) :
    Outcome σ ElementId :=
  match h.router.session? origin with
  | none => (.error (.unknownSession origin), h)
  | some s =>
      h.addElement origin map temp fun id =>
        (⟨id, s.symbolIds.resolve sym0, s.symbolIds.resolve sym1⟩ : Connection)

/-- Deletes an element and answers its number.  A placeholder that was used to name the element is
forgotten. -/
def deleteElement (α : Type) [MapElement α] (h : Hub σ) (origin : SessionId) (map : MapId)
    (id : ElementId) : Outcome σ ElementId :=
  match h.subscribedMap? origin map with
  | none => (.error (.mapNotOpen origin map), h)
  | some m =>
      match h.router.session? origin with
      | none => (.error (.unknownSession origin), h)
      | some s =>
          let ids := MapElement.placeholders α s
          let resolved := ids.resolve id
          let elements : List α := MapElement.elements m.diagram
          if Elements.contains elements resolved = false then
            (.error (.unknownElement map (MapElement.noun α) resolved), h)
          else
            match if resolved = id then .ok ids else ids.erase id resolved with
            | .error reason => (.error (.badPlaceholder reason), h)
            | .ok ids =>
                let diagram := MapElement.withElements m.diagram (Elements.remove elements resolved)
                let h := h.putMap map { m with diagram }
                let router := h.router.updateSession origin fun s =>
                  MapElement.withPlaceholders α s ids
                let h := { h with router }
                (.ok resolved,
                  h.notifyOthers m.subscribers origin (MapElement.deleted α map resolved))

/-- Deletes a symbol.  Connections that end in it stay. -/
def deleteSymbol (h : Hub σ) (origin : SessionId) (map : MapId) (id : ElementId) :
    Outcome σ ElementId :=
  h.deleteElement Symbol origin map id

/-- Deletes a connection. -/
def deleteConnection (h : Hub σ) (origin : SessionId) (map : MapId) (id : ElementId) :
    Outcome σ ElementId :=
  h.deleteElement Connection origin map id

/-- Moves a symbol by an offset. -/
def translateSymbol (h : Hub σ) (origin : SessionId) (map : MapId) (id : ElementId)
    (dx dy : Int32) : Outcome σ Unit :=
  match h.router.session? origin with
  | none => (.error (.unknownSession origin), h)
  | some s =>
      let resolved := s.symbolIds.resolve id
      match h.subscribedMap? origin map with
      | none => (.error (.mapNotOpen origin map), h)
      | some m =>
          if Elements.contains m.diagram.symbols resolved = false then
            (.error (.unknownElement map (MapElement.noun Symbol) resolved), h)
          else
            let symbols := Elements.update m.diagram.symbols resolved fun s => s.moved dx dy
            let h := h.putMap map { m with diagram := { m.diagram with symbols } }
            (.ok (), h.notifyOthers m.subscribers origin (.symbolTranslated map resolved dx dy))

end Hub

end TopoSync
