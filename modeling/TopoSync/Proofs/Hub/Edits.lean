import TopoSync.Hub.Requests
import TopoSync.Proofs.Hub.Letters

/-!
# Edits and deeds

An edit is a change to the contents of a map in permanent numbers only.  The hub carries it out, and
everybody else who has the map open is told of it in one notification.  A deed is what an accepted
request changes: an edit of a map, or new fields for a node.
-/

namespace TopoSync

/-- A change to the contents of a map. -/
inductive Edit
  | symbolAdded (id : ElementId) (x y : Int32)
  | symbolRemoved (id : ElementId)
  | symbolMoved (id : ElementId) (dx dy : Int32)
  | connectionAdded (id sym0 sym1 : ElementId)
  | connectionRemoved (id : ElementId)
deriving DecidableEq, Repr

/-- The contents of a map after an edit.  Elements are added at the end; of several elements with one
number the first is moved or removed. -/
def Diagram.edited (d : Diagram) : Edit → Diagram
  | .symbolAdded id x y => { d with symbols := d.symbols ++ [Symbol.placed id x y] }
  | .symbolRemoved id => { d with symbols := Elements.remove d.symbols id }
  | .symbolMoved id dx dy =>
      { d with symbols := Elements.update d.symbols id fun s => s.moved dx dy }
  | .connectionAdded id sym0 sym1 => { d with connections := d.connections ++ [⟨id, sym0, sym1⟩] }
  | .connectionRemoved id => { d with connections := Elements.remove d.connections id }

namespace Edit

/-- What the others are told of an edit. -/
def notice (map : MapId) : Edit → Notification
  | symbolAdded id x y => .symbolAdded map id x y
  | symbolRemoved id => .symbolDeleted map id
  | symbolMoved id dx dy => .symbolTranslated map id dx dy
  | connectionAdded id sym0 sym1 => .connectionAdded map id sym0 sym1
  | connectionRemoved id => .connectionDeleted map id

/-- What the session that asked for an edit is told, given the placeholder that it used. -/
def receipt (map : MapId) (old : ElementId) : Edit → List Notification
  | symbolAdded id _ _ => [.symbolRenamed map old id]
  | connectionAdded id _ _ => [.connectionRenamed map old id]
  | symbolRemoved _ | symbolMoved .. | connectionRemoved _ => []

/-- Whether the hub would carry out an edit: a new number is the least free one, any other number is
in use. -/
def Fits (d : Diagram) : Edit → Prop
  | symbolAdded id _ _ => Elements.nextFree? d.symbols = some id
  | symbolRemoved id | symbolMoved id _ _ => Elements.contains d.symbols id = true
  | connectionAdded id _ _ => Elements.nextFree? d.connections = some id
  | connectionRemoved id => Elements.contains d.connections id = true

/-- The letters that an edit of a session gives rise to. -/
def letters (map : MapId) (members : Roster) (origin : SessionId) (old : ElementId) (e : Edit) :
    List Letter :=
  (e.receipt map old).map (fun n => (origin, n)) ++ lettersToOthers members origin (e.notice map)

/-- The session that asked gets its receipt, every other member the notice. -/
theorem addressed_letters (map : MapId) (members : Roster) (origin : SessionId) (old : ElementId)
    (e : Edit) (id : SessionId) :
    addressed id (e.letters map members origin old) =
      if id = origin then e.receipt map old
      else if id ∈ members then [e.notice map] else [] := by
  rw [letters, addressed_append, addressed_lettersToOthers]
  by_cases own : id = origin
  · subst own
    simp [addressed, List.filter_map, Function.comp_def]
  · have none : addressed id ((e.receipt map old).map fun n => (origin, n)) = [] := by
      simp [addressed, List.filter_map, Function.comp_def, Ne.symm own]
    simp [own, none]

/-- Whether an edit adds an element under a number. -/
structure Adds {α : Type} [MapElement α] (e : Edit) (element : α) (id : ElementId) : Prop where
  edited : ∀ d, d.edited e = MapElement.withElements d (MapElement.elements d ++ [element])
  fits : ∀ d, Elements.nextFree? (MapElement.elements d : List α) = some id → e.Fits d
  letters : ∀ map members origin old, e.letters map members origin old =
    (origin, MapElement.renamed α map old id) ::
      lettersToOthers members origin (MapElement.added map element)

theorem adds_symbol (id : ElementId) (x y : Int32) :
    (symbolAdded id x y).Adds (Symbol.placed id x y) id :=
  ⟨fun _ => rfl, fun _ free => free, fun _ _ _ _ => rfl⟩

theorem adds_connection (id sym0 sym1 : ElementId) :
    (connectionAdded id sym0 sym1).Adds (⟨id, sym0, sym1⟩ : Connection) id :=
  ⟨fun _ => rfl, fun _ free => free, fun _ _ _ _ => rfl⟩

/-- Whether an edit removes the element with a number. -/
structure Removes (α : Type) [MapElement α] (e : Edit) (id : ElementId) : Prop where
  edited : ∀ d, d.edited e =
    MapElement.withElements d (Elements.remove (MapElement.elements d : List α) id)
  fits : ∀ d, Elements.contains (MapElement.elements d : List α) id = true → e.Fits d
  letters : ∀ map members origin old, e.letters map members origin old =
    lettersToOthers members origin (MapElement.deleted α map id)

theorem removes_symbol (id : ElementId) : (symbolRemoved id).Removes Symbol id :=
  ⟨fun _ => rfl, fun _ present => present, fun _ _ _ _ => rfl⟩

theorem removes_connection (id : ElementId) : (connectionRemoved id).Removes Connection id :=
  ⟨fun _ => rfl, fun _ present => present, fun _ _ _ _ => rfl⟩

end Edit

/-- What an accepted request changes. -/
inductive Deed
  | edited (map : MapId) (edit : Edit)
  | fieldsSet (node : NodeId) (fields : NodeFields)
deriving DecidableEq, Repr

namespace Hub

variable {σ : Type}

/-- The permanent number behind a number that a session uses. -/
def permanent (α : Type) [MapElement α] (h : Hub σ) (session : SessionId) (id : ElementId) :
    ElementId :=
  match h.router.session? session with
  | some s => (MapElement.placeholders α s).resolve id
  | none => id

/-- The deed that a request amounts to, if it is accepted: what the session asks for, with its
placeholders replaced by permanent numbers. -/
def deed? (h : Hub σ) (session : SessionId) : Request → Option Deed
  | .addSymbol map id x y =>
      (h.addSymbol session map id x y).1.toOption.map fun new =>
        .edited map (.symbolAdded new x y)
  | .deleteSymbol map id =>
      (h.deleteSymbol session map id).1.toOption.map fun _ =>
        .edited map (.symbolRemoved (h.permanent Symbol session id))
  | .translateSymbol map id dx dy =>
      (h.translateSymbol session map id dx dy).1.toOption.map fun _ =>
        .edited map (.symbolMoved (h.permanent Symbol session id) dx dy)
  | .addConnection map id sym0 sym1 =>
      (h.addConnection session map id sym0 sym1).1.toOption.map fun new =>
        .edited map (.connectionAdded new (h.permanent Symbol session sym0)
          (h.permanent Symbol session sym1))
  | .deleteConnection map id =>
      (h.deleteConnection session map id).1.toOption.map fun _ =>
        .edited map (.connectionRemoved (h.permanent Connection session id))
  | .setNode node fields =>
      (h.setFields session node fields).1.toOption.map fun _ => .fieldsSet node fields
  | .login .. | .getMapList | .openMap _ | .closeMap _ | .renameSymbol .. | .renameConnection ..
  | .openNode _ | .closeNode _ | .lockNode _ | .unlockNode _ | .unsupported _ => none

theorem permanent_of_session? {α : Type} [MapElement α] {h : Hub σ} {id : SessionId} {s : Session}
    (known : h.router.session? id = some s) (number : ElementId) :
    h.permanent α id number = (MapElement.placeholders α s).resolve number := by
  rw [permanent, known]

end Hub

end TopoSync
