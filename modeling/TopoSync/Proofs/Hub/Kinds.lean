import TopoSync.Proofs.Hub.Edits

/-!
# The two kinds of element

Symbols and connections are numbered apart, and a session has a table of placeholders for either.
What a session means by a number is settled by the table for its kind.
-/

namespace TopoSync

/-- The kinds of element that a map has. -/
inductive ElementKind
  | symbol
  | connection
deriving DecidableEq, Repr

/-- The table of a session for one kind of element. -/
def Session.placeholdersFor (s : Session) : ElementKind → Placeholders
  | .symbol => s.symbolIds
  | .connection => s.connectionIds

/-- Whether a type of element is of a given kind. -/
structure ElementKind.Describes (kind : ElementKind) (α : Type) [MapElement α] : Prop where
  reads : ∀ s : Session, MapElement.placeholders α s = s.placeholdersFor kind
  writes : ∀ (s : Session) (p : Placeholders),
    (MapElement.withPlaceholders α s p).placeholdersFor kind = p
  spares : ∀ (s : Session) (p : Placeholders) other, other ≠ kind →
    (MapElement.withPlaceholders α s p).placeholdersFor other = s.placeholdersFor other

theorem describes_symbol : ElementKind.Describes .symbol Symbol where
  reads _ := rfl
  writes _ _ := rfl
  spares _ _ other apart := by
    cases other with
    | symbol => exact absurd rfl apart
    | connection => rfl

theorem describes_connection : ElementKind.Describes .connection Connection where
  reads _ := rfl
  writes _ _ := rfl
  spares _ _ other apart := by
    cases other with
    | symbol => rfl
    | connection => exact absurd rfl apart

/-- Recording a placeholder for one kind of element is nothing to the other kind. -/
theorem ElementKind.Describes.spares_record {kind : ElementKind} {α : Type} [MapElement α]
    (kinds : kind.Describes α) (s : Session) (old new : ElementId) {other : ElementKind}
    (apart : other ≠ kind) :
    (s.recordPlaceholder α old new).placeholdersFor other = s.placeholdersFor other := by
  rw [Session.recordPlaceholder]
  split
  · exact kinds.spares s _ other apart
  · rfl

namespace Placeholders

/-- What a placeholder stands for, once recorded, is not changed by recording another. -/
theorem get?_of_insert {p p' : Placeholders} {old new q k : ElementId}
    (stands : p.table.get? q = some k) (recorded : p.insert old new = .ok p') :
    p'.table.get? q = some k := by
  rw [insert] at recorded
  split at recorded
  · cases recorded
  · split at recorded
    · cases recorded
    · rename_i free
      obtain rfl := Except.ok.inj recorded
      have other : q ≠ old := by
        rintro rfl
        cases stands.symm.trans free
      rw [Table.get?_insert_of_ne other]
      exact stands

/-- Forgetting one placeholder is nothing to the others. -/
theorem get?_of_erase {p p' : Placeholders} {old new q k : ElementId}
    (stands : p.table.get? q = some k) (other : q ≠ old) (forgotten : p.erase old new = .ok p') :
    p'.table.get? q = some k := by
  rw [erase] at forgotten
  split at forgotten
  · cases forgotten
  · split at forgotten
    · obtain rfl := Except.ok.inj forgotten
      rw [Table.get?_erase, if_neg other]
      exact stands
    · cases forgotten

end Placeholders

namespace Hub

variable {σ : Type}

/-- The table of a connected session for one kind of element. -/
def placeholders? (h : Hub σ) (kind : ElementKind) (session : SessionId) : Option Placeholders :=
  (h.router.session? session).map fun s => s.placeholdersFor kind

/-- The permanent number that a session has recorded for a placeholder. -/
def recorded? (h : Hub σ) (kind : ElementKind) (session : SessionId) (id : ElementId) :
    Option ElementId :=
  (h.placeholders? kind session).bind fun p => p.table.get? id

/-- The number that a session means by a number. -/
def meant (h : Hub σ) (kind : ElementKind) (session : SessionId) (id : ElementId) : ElementId :=
  ((h.placeholders? kind session).map fun p => p.resolve id).getD id

theorem meant_of_recorded {h : Hub σ} {kind : ElementKind} {session : SessionId}
    {id k : ElementId} (negative : id < 0) (recorded : h.recorded? kind session id = some k) :
    h.meant kind session id = k := by
  obtain ⟨p, known, stands⟩ := Option.bind_eq_some_iff.mp recorded
  rw [meant, known, Option.map_some, Option.getD_some, Placeholders.resolve,
    if_neg (Int32.not_le.mpr negative), stands, Option.getD_some]

/-- A placeholder that stands for nothing is taken as a number. -/
theorem meant_of_unrecorded {h : Hub σ} {kind : ElementKind} {session : SessionId} {id : ElementId}
    (unrecorded : h.recorded? kind session id = none) : h.meant kind session id = id := by
  rw [meant]
  cases known : h.placeholders? kind session with
  | none => rfl
  | some p =>
      have free : p.table.get? id = none := by rwa [recorded?, known] at unrecorded
      rw [Option.map_some, Option.getD_some, Placeholders.resolve]
      split
      · rfl
      · rw [free, Option.getD_none]

theorem permanent_eq_meant {kind : ElementKind} {α : Type} [MapElement α]
    (kinds : kind.Describes α) (h : Hub σ) (session : SessionId) (id : ElementId) :
    h.permanent α session id = h.meant kind session id := by
  rw [permanent, meant, placeholders?]
  cases h.router.session? session with
  | none => rfl
  | some s => rw [Option.map_some, Option.map_some, Option.getD_some, ← kinds.reads]

theorem placeholders?_post (h : Hub σ) (letters : List Letter) (kind : ElementKind)
    (session : SessionId) :
    (h.post letters).placeholders? kind session = h.placeholders? kind session := by
  rw [placeholders?, placeholders?, post, Router.session?_deliver, Option.map_map]
  cases kind <;> rfl

theorem placeholders?_amend (h : Hub σ) (id : SessionId) (f : Session → Session)
    (kind : ElementKind) (session : SessionId) :
    (h.amend id f).placeholders? kind session =
      (h.router.session? session).map fun s =>
        (if session = id then f s else s).placeholdersFor kind := by
  rw [placeholders?, amend, Router.session?_updateSession]
  split
  · rw [Option.map_map]
    rfl
  · rfl

end Hub

end TopoSync
