import TopoSync.Proofs.Hub.Contents
import TopoSync.Proofs.Hub.Recording
import TopoSync.Proofs.Numbers
import TopoSync.Proofs.Parts
import TopoSync.Proofs.Rows
import TopoSync.Store.Memory

/-!
# Permanent numbers

What sessions share is in permanent numbers, which are not negative: a new element gets one, and what a
session calls by a placeholder is looked up in its table, where only such numbers are recorded.  The
exception are the ends of a connection.  They are looked up as well, but nothing checks that they are
found, so a placeholder that stands for nothing can be let through.
-/

namespace TopoSync

/-- Whether the numbers in the contents of a map are permanent, apart from ends of connections that are
let through. -/
structure Diagram.Resolved (through : ElementId → Prop) (d : Diagram) : Prop where
  symbols : ∀ s ∈ d.symbols, 0 ≤ s.id
  connections : ∀ c ∈ d.connections, 0 ≤ c.id
  ends : ∀ c ∈ d.connections, ∀ id, id = c.sym0 ∨ id = c.sym1 → id < 0 → through id

/-- Whether the ends of a new connection are permanent numbers or are let through. -/
def Edit.Resolved (through : ElementId → Prop) : Edit → Prop
  | connectionAdded _ sym0 sym1 => ∀ id, id = sym0 ∨ id = sym1 → id < 0 → through id
  | symbolAdded .. | symbolRemoved _ | symbolMoved .. | connectionRemoved _ => True

namespace Notification

/-- Whether the numbers of elements in a notification are permanent, apart from ends of connections
that are let through and from the placeholder that is told to be replaced. -/
def Resolved (through : MapId → ElementId → Prop) : Notification → Prop
  | mapSnapshot map diagram => diagram.Resolved (through map)
  | symbolRenamed _ _ new | connectionRenamed _ _ new => 0 ≤ new
  | symbolAdded _ id .. | symbolDeleted _ id | symbolTranslated _ id .. | connectionDeleted _ id =>
      0 ≤ id
  | connectionAdded map id sym0 sym1 =>
      0 ≤ id ∧ ∀ q, q = sym0 ∨ q = sym1 → q < 0 → through map q
  | mapList _ | nodeMissing _ | nodeSnapshot .. | nodeUpdated .. | nodeLocked .. | nodeUnlocked _ =>
      True

/-- The kind and the map of the element whose placeholder is told to be replaced, with the
placeholder. -/
def replaced? : Notification → Option (ElementKind × MapId × ElementId)
  | symbolRenamed map old _ => some (.symbol, map, old)
  | connectionRenamed map old _ => some (.connection, map, old)
  | mapList _ | mapSnapshot .. | symbolAdded .. | symbolDeleted .. | symbolTranslated ..
  | connectionAdded .. | connectionDeleted .. | nodeMissing _ | nodeSnapshot .. | nodeUpdated ..
  | nodeLocked .. | nodeUnlocked _ => none

end Notification

theorem Elements.exists_of_mem_update {α : Type} [Numbered α] {xs : List α} {id : ElementId}
    {f : α → α} {y : α} (member : y ∈ update xs id f) : ∃ x ∈ xs, y = x ∨ y = f x := by
  induction xs with
  | nil => cases member
  | cons x rest ih =>
      unfold update at member
      split at member
      · rcases List.mem_cons.mp member with same | later
        · exact ⟨x, List.mem_cons_self, .inr same⟩
        · exact ⟨y, List.mem_cons_of_mem _ later, .inl rfl⟩
      · rcases List.mem_cons.mp member with same | later
        · exact ⟨x, List.mem_cons_self, .inl same⟩
        · obtain ⟨z, listed, same⟩ := ih later
          exact ⟨z, List.mem_cons_of_mem _ listed, same⟩

/-- A new number is permanent. -/
theorem Elements.nonneg_of_nextFree? {α : Type} [Numbered α] {xs : List α} {id : ElementId}
    (found : nextFree? xs = some id) : 0 ≤ id :=
  Int32.le_trans (by decide) (one_le_of_nextFree? found)

namespace Diagram

variable {d : Diagram} {e : Edit} {through also : ElementId → Prop}

theorem Resolved.mono (resolved : d.Resolved through) (more : ∀ id, through id → also id) :
    d.Resolved also where
  symbols := resolved.symbols
  connections := resolved.connections
  ends c member id isEnd negative := more id (resolved.ends c member id isEnd negative)

theorem Resolved.of_alike {d' : Diagram} (resolved : d.Resolved through) (alike : d.Alike d') :
    d'.Resolved through where
  symbols s member := by
    obtain ⟨s', listed, same⟩ := List.mem_map.mp
      (alike.symbols.mem_iff.mpr (List.mem_map_of_mem member))
    have number : s'.id = s.id := congrArg Prod.fst same
    exact number ▸ resolved.symbols s' listed
  connections c member := resolved.connections c (alike.connections.mem_iff.mpr member)
  ends c member := resolved.ends c (alike.connections.mem_iff.mpr member)

/-- An edit with permanent ends keeps numbers permanent. -/
theorem Resolved.edited (resolved : d.Resolved through) (fits : e.Fits d)
    (ends : e.Resolved through) : (d.edited e).Resolved through := by
  cases e with
  | symbolAdded id x y =>
      refine ⟨fun s member => ?_, resolved.connections, resolved.ends⟩
      rcases List.mem_append.mp member with before | new
      · exact resolved.symbols s before
      · rw [List.mem_singleton.mp new]
        exact Elements.nonneg_of_nextFree? fits
  | symbolRemoved id =>
      exact ⟨fun s member => resolved.symbols s (List.mem_of_mem_eraseP member),
        resolved.connections, resolved.ends⟩
  | symbolMoved id dx dy =>
      refine ⟨fun s member => ?_, resolved.connections, resolved.ends⟩
      obtain ⟨s', before, rfl | rfl⟩ := Elements.exists_of_mem_update member
      · exact resolved.symbols s before
      · exact resolved.symbols s' before
  | connectionAdded id sym0 sym1 =>
      refine ⟨resolved.symbols, fun c member => ?_, fun c member => ?_⟩
      · rcases List.mem_append.mp member with before | new
        · exact resolved.connections c before
        · rw [List.mem_singleton.mp new]
          exact Elements.nonneg_of_nextFree? fits
      · rcases List.mem_append.mp member with before | new
        · exact resolved.ends c before
        · rw [List.mem_singleton.mp new]
          exact ends
  | connectionRemoved id =>
      exact ⟨resolved.symbols,
        fun c member => resolved.connections c (List.mem_of_mem_eraseP member),
        fun c member => resolved.ends c (List.mem_of_mem_eraseP member)⟩

/-- What an edit adds, takes out or moves goes by a permanent number. -/
theorem Resolved.nonneg_subject (resolved : d.Resolved through) (fits : e.Fits d) :
    0 ≤ e.subject.2 := by
  have inUse : ∀ {α : Type} [Numbered α] {xs : List α} {id : ElementId},
      (∀ x ∈ xs, 0 ≤ Numbered.number x) → Elements.contains xs id = true → 0 ≤ id := by
    intro α _ xs id permanent present
    obtain ⟨x, member, rfl⟩ := List.mem_map.mp (Elements.contains_iff_mem_numbers.mp present)
    exact permanent x member
  cases e with
  | symbolAdded | connectionAdded => exact Elements.nonneg_of_nextFree? fits
  | symbolRemoved | symbolMoved => exact inUse resolved.symbols fits
  | connectionRemoved => exact inUse resolved.connections fits

end Diagram

namespace Edit

variable {e : Edit} {through : MapId → ElementId → Prop} {map : MapId}

theorem resolved_notice (permanent : 0 ≤ e.subject.2) (ends : e.Resolved (through map)) :
    (e.notice map).Resolved through := by
  cases e with
  | connectionAdded id sym0 sym1 => exact ⟨permanent, ends⟩
  | symbolAdded | symbolRemoved | symbolMoved | connectionRemoved => exact permanent

theorem replaced?_notice (map : MapId) (e : Edit) : (e.notice map).replaced? = none := by
  cases e <;> rfl

/-- The receipt for an addition tells the placeholder to be replaced under which it was made. -/
theorem resolved_receipt (through : MapId → ElementId → Prop) {old : ElementId} {n : Notification}
    (permanent : 0 ≤ e.subject.2) (member : n ∈ e.receipt map old) :
    n.Resolved through ∧ e.isAddition = true ∧ n.replaced? = some (e.subject.1, map, old) := by
  cases e with
  | symbolAdded | connectionAdded =>
      obtain rfl := List.mem_singleton.mp member
      exact ⟨permanent, rfl, rfl⟩
  | symbolRemoved | symbolMoved | connectionRemoved => cases member

end Edit

namespace Hub

variable {σ : Type}

/-- Whether placeholders stand for permanent numbers only. -/
def Translates (h : Hub σ) : Prop :=
  ∀ kind session id k, h.recorded? kind session id = some k → 0 ≤ k

theorem Translates.start (store : σ) : Translates ({ store } : Hub σ) := by
  intro kind session id k recorded
  cases recorded

/-- What a session calls by a number is called by a permanent one, unless the number is a placeholder
that stands for nothing. -/
theorem Translates.unrecorded_of_neg {h : Hub σ} (ok : h.Translates) {kind : ElementKind}
    {session : SessionId} {id : ElementId} (negative : h.meant kind session id < 0) :
    h.recorded? kind session id = none ∧ h.meant kind session id = id := by
  cases recorded : h.recorded? kind session id with
  | none => exact ⟨rfl, meant_of_unrecorded recorded⟩
  | some k =>
      exfalso
      obtain ⟨p, known, stands⟩ := Option.bind_eq_some_iff.mp recorded
      rw [meant, known, Option.map_some, Option.getD_some, Placeholders.resolve] at negative
      split at negative
      · exact Int32.not_lt.mpr ‹0 ≤ id› negative
      · rw [stands, Option.getD_some] at negative
        exact Int32.not_lt.mpr (ok kind session id k recorded) negative

section Tables

variable {h : Hub σ} {kind : ElementKind} {session : SessionId} {id k : ElementId}

section Elements

variable {α : Type} [MapElement α] (kinds : kind.Describes α)

include kinds

/-- Adding an element records a new number at most. -/
theorem recorded?_of_added {map : MapId} {temp : ElementId} {build : ElementId → α}
    (recorded : (h.addElement session map temp build).2.recorded? kind session id = some k) :
    h.recorded? kind session id = some k ∨ 0 ≤ k := by
  rcases h.addElement_cases session map temp build with
    ⟨e, refused⟩ | ⟨m, number, _, _, _, _, free, effect⟩
  · rw [refused] at recorded
    exact .inl recorded
  · have added : (h.addElement session map temp build).1 = .ok number := by rw [effect]
    obtain ⟨_, p, known, renewed⟩ := placeholders?_addElement kinds added
    rw [recorded?, renewed, Option.bind_some] at recorded
    rw [recorded?, known, Option.bind_some]
    rw [Placeholders.insert] at recorded
    split at recorded
    · exact .inl recorded
    · split at recorded
      · exact .inl recorded
      · dsimp only [Except.toOption, Option.getD_some] at recorded
        rw [Table.get?_insert] at recorded
        split at recorded
        · cases recorded
          exact .inr (Elements.nonneg_of_nextFree? free)
        · exact .inl recorded

omit kinds in
theorem get?_of_get?_erase {p p' : Placeholders} {old new : ElementId}
    (erased : p.erase old new = .ok p') (stands : p'.table.get? id = some k) :
    p.table.get? id = some k := by
  rw [Placeholders.erase] at erased
  split at erased
  · cases erased
  · split at erased
    · obtain rfl := Except.ok.inj erased
      rw [Table.get?_erase] at stands
      split at stands
      · cases stands
      · exact stands
    · cases erased

theorem recorded?_of_acknowledged {old new : ElementId}
    (recorded : (h.acknowledge α session old new).2.recorded? kind session id = some k) :
    h.recorded? kind session id = some k := by
  rcases h.acknowledge_cases α session old new with ⟨e, refused⟩ | ⟨s, ids, known, erased, effect⟩
  · rwa [refused] at recorded
  · have table := placeholders?_of_session? known kind
    rw [effect, recorded?, placeholders?_withPlaceholders kinds table] at recorded
    rw [recorded?, table]
    rw [kinds.reads] at erased
    exact get?_of_get?_erase erased recorded

theorem recorded?_of_deleted {map : MapId} {number : ElementId}
    (recorded : (h.deleteElement α session map number).2.recorded? kind session id = some k) :
    h.recorded? kind session id = some k := by
  rcases h.deleteElement_cases (α := α) session map number with
    ⟨e, refused⟩ | ⟨m, s, n, ids, _, _, known, _, forgotten, _, effect⟩
  · rwa [refused] at recorded
  · have table := placeholders?_of_session? known kind
    have renewed := placeholders?_withPlaceholders kinds table ids
    rw [effect, recorded?_of_placeholders? (placeholders?_post ..), recorded?] at recorded
    have stands := (congrArg (Option.bind · _) renewed).symm.trans recorded
    rw [recorded?, table, Option.bind_some]
    rw [kinds.reads] at forgotten
    split at forgotten
    · obtain rfl := Except.ok.inj forgotten
      exact stands
    · exact get?_of_get?_erase forgotten stands

end Elements

variable [Store σ]

/-- A request records a new number at most. -/
theorem recorded?_of_apply {q : SessionId} {now : UInt32} {request : Request}
    (recorded : (h.apply q now request).2.recorded? kind session id = some k) :
    h.recorded? kind session id = some k ∨ 0 ≤ k := by
  by_cases here : request.tableKind?.map (fun kind => (q, kind)) = some (session, kind)
  · obtain ⟨own, concerned, same⟩ := Option.map_eq_some_iff.mp here
    obtain ⟨rfl, rfl⟩ := Prod.mk.inj same
    cases request with
    | addSymbol map temp x y =>
        obtain rfl := Option.some.inj concerned
        exact recorded?_of_added describes_symbol recorded
    | addConnection map temp sym0 sym1 =>
        obtain rfl := Option.some.inj concerned
        rw [apply, addConnection] at recorded
        split at recorded
        · exact .inl recorded
        · exact recorded?_of_added describes_connection recorded
    | renameSymbol map old new =>
        obtain rfl := Option.some.inj concerned
        exact .inl (recorded?_of_acknowledged describes_symbol recorded)
    | renameConnection map old new =>
        obtain rfl := Option.some.inj concerned
        exact .inl (recorded?_of_acknowledged describes_connection recorded)
    | deleteSymbol map number =>
        obtain rfl := Option.some.inj concerned
        exact .inl (recorded?_of_deleted describes_symbol recorded)
    | deleteConnection map number =>
        obtain rfl := Option.some.inj concerned
        exact .inl (recorded?_of_deleted describes_connection recorded)
    | _ => cases concerned
  · have same := (h.sameBut_apply q now request).tables session kind here
    exact .inl ((recorded?_of_placeholders? same id).symm.trans recorded)

/-- So placeholders stand for permanent numbers after every act. -/
theorem Translates.perform (ok : h.Translates) (a : Act) : (h.perform a).Translates := by
  intro kind session id k recorded
  by_cases other : a.tableOwner? ≠ some session
  · rw [recorded?_of_placeholders? (placeholders?_perform other)] at recorded
    exact ok kind session id k recorded
  have own : a.tableOwner? = some session := Classical.not_not.mp other
  cases a with
  | answer q now frame =>
      rw [Hub.perform, answerFrame_eq] at recorded
      split at recorded
      · exact ok kind session id k recorded
      · exact (recorded?_of_apply recorded).elim (ok kind session id k) fun permanent => permanent
  | connect q host reader =>
      obtain rfl := Option.some.inj own
      rw [recorded?, placeholders?, Hub.perform, Router.session?_register, if_pos rfl] at recorded
      cases kind <;> cases recorded
  | finish q =>
      obtain rfl := Option.some.inj own
      have gone : ((h.endSession q).takeFailed.2).router.session? q = none := by
        show (h.endSession q).router.session? q = none
        rw [endSession, Router.session?_unregister, if_pos rfl]
      rw [recorded?, placeholders?, Hub.perform, gone] at recorded
      cases recorded
  | _ => cases own

end Tables

end Hub

section Stores

/-- Whether the maps of a store hold permanent numbers, and will as long as such contents are saved,
whatever is let through in them. -/
def Store.Resolved {σ : Type} [Store σ] (store : σ) : Prop :=
  ∀ through : MapId → ElementId → Prop, ∃ Sound : σ → Prop,
    Store.Upholds Sound (fun map d => d.Resolved (through map)) ∧ Sound store

theorem MemoryStore.resolved_iff {store : MemoryStore} :
    Store.Resolved store ↔
      ∀ map entry, store.maps.get? map = some entry → entry.2.Resolved fun _ => False := by
  constructor
  · exact fun resolved => upheld_iff.mp (resolved fun _ _ => False)
  · intro permanent through
    refine upheld_iff.mpr fun map entry found => ?_
    exact (permanent map entry found).mono fun _ => False.elim

/-- Nor does a database give anything else back than was in its tables or was saved. -/
theorem Database.resolved_iff {store : Database} :
    Store.Resolved store ↔
      ∀ map contents, store.map? map = some contents → contents.Resolved fun _ => False := by
  constructor
  · intro resolved map contents read
    obtain ⟨Sound, upholds, sound⟩ := resolved fun _ _ => False
    exact upholds.loaded sound (congrArg Except.ok read)
  · intro permanent through
    refine ⟨fun store => ∀ map contents, store.map? map = some contents →
      contents.Resolved (through map), ?_, fun map contents read =>
        (permanent map contents read).mono fun _ => False.elim⟩
    constructor
    case listMaps => exact fun sound => sound
    case loadMap => exact fun sound _ => sound
    case loadNode => exact fun sound _ => sound
    case loaded => exact fun sound _ _ read => sound _ _ (Except.ok.inj read)
    case saveMap =>
      intro s sound map contents resolved q after read
      have saving : (Store.saveMap s map contents).2 = (s.commit (s.putMap map contents)).2 := rfl
      rw [saving] at read
      cases saved : s.putMap map contents with
      | error e =>
          rw [saved] at read
          exact sound q after read
      | ok s' =>
          rw [saved] at read
          obtain ⟨known, rfl⟩ := map?_eq_some_iff.mp read
          obtain ⟨maps, _⟩ := tables_putMap saved
          refine Diagram.Resolved.of_alike ?_ (alike_putMap saved q)
          split
          · rename_i here
            exact here ▸ resolved
          · exact sound q _ (map?_eq_some_iff.mpr ⟨maps ▸ known, rfl⟩)
    case saveNode =>
      intro s sound node fields map contents read
      obtain ⟨known, rfl⟩ := map?_eq_some_iff.mp read
      obtain ⟨maps, alike⟩ := s.alike_saveNode node fields map
      exact (sound map _ (map?_eq_some_iff.mpr ⟨maps ▸ known, rfl⟩)).of_alike alike

end Stores

end TopoSync
