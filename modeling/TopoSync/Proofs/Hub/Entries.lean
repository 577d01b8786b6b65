import TopoSync.Proofs.Numbers
import TopoSync.Proofs.Placeholding

/-!
# Entries of the tables of placeholders

An entry comes about when an element is added under a placeholder that stands for nothing.  It goes
when its session acknowledges the number of the element or deletes an element under the placeholder.
Nothing else makes a difference to a table: not a placeholder that is used again, not an
acknowledgement of another number, and nothing that is refused.
-/

namespace TopoSync

namespace Request

/-- The placeholder and the number that a request acknowledges. -/
def acknowledged? : Request → Option (ElementKind × ElementId × ElementId)
  | renameSymbol _ old new => some (.symbol, old, new)
  | renameConnection _ old new => some (.connection, old, new)
  | login .. | getMapList | openMap _ | closeMap _ | addSymbol .. | deleteSymbol ..
  | translateSymbol .. | addConnection .. | deleteConnection .. | openNode _ | closeNode _
  | setNode .. | lockNode _ | unlockNode _ | unsupported _ => none

/-- The number by which a request calls the element that it wants to delete. -/
def deleted? : Request → Option (ElementKind × ElementId)
  | deleteSymbol _ id => some (.symbol, id)
  | deleteConnection _ id => some (.connection, id)
  | login .. | getMapList | openMap _ | closeMap _ | addSymbol .. | renameSymbol ..
  | translateSymbol .. | addConnection .. | renameConnection .. | openNode _ | closeNode _
  | setNode .. | lockNode _ | unlockNode _ | unsupported _ => none

end Request

/-- The number of a new element is positive. -/
theorem Edit.one_le_subject {d : Diagram} {e : Edit} (fits : e.Fits d)
    (adds : e.isAddition = true) : 1 ≤ e.subject.2 := by
  cases e with
  | symbolAdded | connectionAdded => exact Elements.one_le_of_nextFree? fits
  | _ => cases adds

namespace Placeholders

variable {p p' : Placeholders} {old new : ElementId}

/-- A placeholder is recorded if it is free, and otherwise stands for what it stood for. -/
theorem get?_insert_or_same (negative : old < 0) (p : Placeholders) (new q : ElementId) :
    ((p.insert old new).toOption.getD p).table.get? q =
      if q = old ∧ p.table.get? old = none then some new else p.table.get? q := by
  rw [insert, if_neg (Int32.not_le.mpr negative)]
  cases found : p.table.get? old with
  | some existing => simp [Except.toOption]
  | none =>
      simp only [Except.toOption, Option.getD_some, and_true]
      exact Table.get?_insert _ _ _ _

theorem get?_of_erase_ok (erased : p.erase old new = .ok p') (q : ElementId) :
    p.table.get? old = some new ∧ p'.table.get? q = if q = old then none else p.table.get? q := by
  rw [erase] at erased
  split at erased
  · cases erased
  · rename_i actual found
    split at erased
    · rename_i same
      obtain rfl := Except.ok.inj erased
      exact ⟨found.trans (congrArg some same), Table.get?_erase _ _ _⟩
    · cases erased

/-- An entry that is there can be taken out. -/
theorem erase_ne_error (stands : p.table.get? old = some new) (reason : PlaceholderError) :
    p.erase old new ≠ .error reason := by
  intro failed
  rw [erase, stands] at failed
  dsimp only at failed
  rw [if_pos rfl] at failed
  cases failed

end Placeholders

namespace Hub

variable {σ : Type}

/-- Whether a request of a session adds an element under a placeholder that stands for nothing, and
the element gets a given number. -/
def Assigns (h : Hub σ) (session : SessionId) (request : Request) (kind : ElementKind)
    (id k : ElementId) : Prop :=
  h.recorded? kind session id = none ∧
    ∃ map e, request.addition? = some (kind, map, id) ∧
      h.deed? session request = some (.edited map e) ∧ e.subject.2 = k

/-- Whether a request of a session acknowledges a number for a placeholder, or deletes an element
under the placeholder. -/
def Drops [Store σ] (h : Hub σ) (session : SessionId) (now : UInt32) (request : Request)
    (kind : ElementKind) (id k : ElementId) : Prop :=
  request.acknowledged? = some (kind, id, k) ∨
    request.deleted? = some (kind, id) ∧ (h.apply session now request).1 = .ok ()

/-- Whether entries are of placeholders, which are negative, and of numbers of elements, which are
positive. -/
def ProperTables (h : Hub σ) : Prop :=
  ∀ kind session id k, h.recorded? kind session id = some k → id < 0 ∧ 0 < k

theorem ProperTables.start (store : σ) : ProperTables ({ store } : Hub σ) := by
  intro kind session id k recorded
  cases recorded

/-- What a number means is a number that means itself. -/
theorem ProperTables.meant_meant {h : Hub σ} (proper : h.ProperTables) (kind : ElementKind)
    (session : SessionId) (id : ElementId) :
    h.meant kind session (h.meant kind session id) = h.meant kind session id := by
  cases recorded : h.recorded? kind session id with
  | none => rw [meant_of_unrecorded recorded, meant_of_unrecorded recorded]
  | some k =>
      obtain ⟨negative, positive⟩ := proper kind session id k recorded
      have unrecorded : h.recorded? kind session k = none := by
        refine Option.eq_none_iff_forall_ne_some.mpr fun k' there => ?_
        exact Int32.lt_asymm positive (proper kind session k k' there).1
      rw [meant_of_recorded negative recorded, meant_of_unrecorded unrecorded]

variable {h : Hub σ} {kind : ElementKind} {session : SessionId} {id k : ElementId}

section Elements

variable {α : Type} [MapElement α] (kinds : kind.Describes α)

include kinds

/-- Adding an element makes an entry if the placeholder is free, and otherwise none. -/
theorem recorded?_addElement_iff (h : Hub σ) (session : SessionId) (map : MapId) (temp : ElementId)
    (build : ElementId → α) (id k : ElementId) :
    (h.addElement session map temp build).2.recorded? kind session id = some k ↔
      (h.recorded? kind session id = none ∧ id = temp ∧
          (h.addElement session map temp build).1 = .ok k) ∨
        h.recorded? kind session id = some k := by
  rcases verdict : (h.addElement session map temp build).1 with reason | number
  · rcases h.addElement_cases session map temp build with
      ⟨e, refused⟩ | ⟨_, _, _, _, _, _, _, effect⟩
    · rw [refused]
      simp
    · rw [effect] at verdict
      cases verdict
  · obtain ⟨negative, p, known, renewed⟩ := placeholders?_addElement kinds verdict
    rw [recorded?, renewed, recorded?, known, Option.bind_some, Option.bind_some,
      p.get?_insert_or_same negative number id]
    by_cases here : id = temp
    · subst here
      cases found : p.table.get? id <;> simp
    · simp [here]

/-- An acknowledgement takes out the entry that it names, if it is there. -/
theorem recorded?_acknowledge_iff (h : Hub σ) (session : SessionId) (old new : ElementId) :
    (h.acknowledge α session old new).2.recorded? kind session id = some k ↔
      h.recorded? kind session id = some k ∧ ¬ (old = id ∧ new = k) := by
  rw [acknowledge]
  cases known : h.router.session? session with
  | none =>
      have none : h.recorded? kind session id = none := by
        rw [recorded?, placeholders?, known]
        rfl
      simp [none]
  | some s =>
      have table := placeholders?_of_session? known kind
      have before : h.recorded? kind session id = (s.placeholdersFor kind).table.get? id := by
        rw [recorded?, table, Option.bind_some]
      rw [before]
      dsimp only
      rw [kinds.reads]
      cases erased : (s.placeholdersFor kind).erase old new with
      | error reason =>
          dsimp only
          rw [before]
          refine ⟨fun stands => ⟨stands, ?_⟩, And.left⟩
          rintro ⟨rfl, rfl⟩
          exact Placeholders.erase_ne_error stands reason erased
      | ok ids =>
          obtain ⟨there, after⟩ := Placeholders.get?_of_erase_ok erased id
          have renewed := placeholders?_withPlaceholders kinds table ids
          have now : (h.amend session fun s => MapElement.withPlaceholders α s ids).recorded? kind
              session id = ids.table.get? id := by
            rw [recorded?, renewed, Option.bind_some]
          refine (iff_of_eq (congrArg (· = some k) now)).trans ?_
          rw [after]
          by_cases here : id = old
          · subst here
            rw [there]
            simp
          · simp [here, Ne.symm here]

/-- A deletion takes out the entry of the placeholder that it is made under, if it is accepted. -/
theorem recorded?_deleteElement_iff (proper : h.ProperTables) (session : SessionId) (map : MapId)
    (number id k : ElementId) :
    (h.deleteElement α session map number).2.recorded? kind session id = some k ↔
      h.recorded? kind session id = some k ∧
        ¬ (number = id ∧ ∃ n, (h.deleteElement α session map number).1 = .ok n) := by
  rcases h.deleteElement_cases (α := α) session map number with
    ⟨e, refused⟩ | ⟨m, s, n, ids, _, _, known, means, forgotten, _, effect⟩
  · rw [refused]
    simp
  · have table := placeholders?_of_session? known kind
    have before : h.recorded? kind session id = (s.placeholdersFor kind).table.get? id := by
      rw [recorded?, table, Option.bind_some]
    have renewed := placeholders?_withPlaceholders kinds table ids
    have after : (h.deleteElement α session map number).2.recorded? kind session id =
        ids.table.get? id := by
      rw [effect, recorded?_of_placeholders? (placeholders?_post ..), recorded?]
      exact congrArg (Option.bind · _) renewed
    rw [after, before, effect]
    rw [kinds.reads] at forgotten
    split at forgotten
    · -- the element was called by its own number, which is no placeholder with an entry
      rename_i own
      rw [← Except.ok.inj forgotten]
      refine ⟨fun stands => ⟨stands, ?_⟩, And.left⟩
      rintro ⟨rfl, -⟩
      obtain ⟨negative, positive⟩ := proper kind session number k (before.trans stands)
      rw [permanent_eq_meant kinds, meant_of_recorded negative (before.trans stands)] at means
      exact Int32.lt_asymm positive (means.symm.trans own ▸ negative)
    · obtain ⟨_, stands⟩ := Placeholders.get?_of_erase_ok forgotten id
      rw [stands]
      by_cases here : id = number
      · simp [here]
      · simp [here, Ne.symm here]

omit kinds in
/-- The placeholder under which an element is deleted can always be forgotten. -/
theorem deleteElement_ne_badPlaceholder (h : Hub σ) (session : SessionId) (map : MapId)
    (number : ElementId) (reason : PlaceholderError) :
    (h.deleteElement α session map number).1 ≠ .error (.badPlaceholder reason) := by
  rw [deleteElement]
  split
  · simp
  · split
    · simp
    · rename_i s _
      dsimp only
      split
      · simp
      · split
        · rename_i failed
          split at failed
          · cases failed
          · rename_i other
            rw [Placeholders.erase_resolve other] at failed
            cases failed
        · simp

end Elements

/-- An accepted addition assigns the number that it answers. -/
theorem assigns_of_addition_iff {request : Request} {map : MapId} {temp : ElementId}
    {answer : Except Refusal ElementId} {edit : ElementId → Edit}
    (asks : request.addition? = some (kind, map, temp))
    (done : h.deed? session request = answer.toOption.map fun new => .edited map (edit new))
    (subject : ∀ new, (edit new).subject.2 = new) :
    h.Assigns session request kind id k ↔
      h.recorded? kind session id = none ∧ id = temp ∧ answer = .ok k := by
  rw [Assigns, asks, done]
  constructor
  · rintro ⟨free, q, e, here, edited, rfl⟩
    obtain ⟨new, added, same⟩ := Option.map_eq_some_iff.mp edited
    obtain ⟨rfl, rfl⟩ := Deed.edited.inj same
    obtain ⟨_, placeholder⟩ := Prod.mk.inj (Prod.mk.inj (Option.some.inj here)).2
    rw [subject]
    exact ⟨free, placeholder.symm, eq_ok_of_toOption added⟩
  · rintro ⟨free, rfl, rfl⟩
    exact ⟨free, map, edit k, rfl, rfl, subject k⟩

theorem recorded?_addConnection_iff (h : Hub σ) (session : SessionId) (map : MapId)
    (temp sym0 sym1 : ElementId) :
    (h.addConnection session map temp sym0 sym1).2.recorded? .connection session id = some k ↔
      (h.recorded? .connection session id = none ∧ id = temp ∧
          (h.addConnection session map temp sym0 sym1).1 = .ok k) ∨
        h.recorded? .connection session id = some k := by
  rw [addConnection]
  split
  · simp
  · exact recorded?_addElement_iff describes_connection h session map temp _ id k

/-- A request makes entries and takes them out only in the table that it concerns. -/
theorem tableKind?_of_assigns {request : Request} (assigns : h.Assigns session request kind id k) :
    request.tableKind? = some kind := by
  obtain ⟨_, map, e, asks, _⟩ := assigns
  cases request with
  | addSymbol | addConnection => exact congrArg some (Prod.mk.inj (Option.some.inj asks)).1
  | _ => cases asks

variable [Store σ]

theorem tableKind?_of_drops {now : UInt32} {request : Request}
    (drops : h.Drops session now request kind id k) : request.tableKind? = some kind := by
  rcases drops with acknowledges | ⟨deletes, _⟩
  · cases request with
    | renameSymbol | renameConnection =>
        exact congrArg some (Prod.mk.inj (Option.some.inj acknowledges)).1
    | _ => cases acknowledges
  · cases request with
    | deleteSymbol | deleteConnection =>
        exact congrArg some (Prod.mk.inj (Option.some.inj deletes)).1
    | _ => cases deletes

/-- A deletion takes out an entry exactly if it is accepted and made under the placeholder. -/
theorem drops_of_deletion_iff {α : Type} [MapElement α] {now : UInt32} {request : Request}
    (map : MapId) {number : ElementId} (asks : request.acknowledged? = none)
    (deletes : request.deleted? = some (kind, number))
    (answer : (h.apply session now request).1 =
      (h.deleteElement α session map number).1.map fun _ => ()) :
    h.Drops session now request kind id k ↔
      number = id ∧ ∃ n, (h.deleteElement α session map number).1 = .ok n := by
  rw [Drops, asks, deletes, answer]
  cases (h.deleteElement α session map number).1 <;> simp [Except.map]

/-- A request makes an entry or takes one out only for the session that asks, and as it says. -/
theorem recorded?_apply_iff (proper : h.ProperTables) (q : SessionId) (now : UInt32)
    (request : Request) :
    (h.apply q now request).2.recorded? kind session id = some k ↔
      q = session ∧ h.Assigns session request kind id k ∨
        h.recorded? kind session id = some k ∧
          ¬ (q = session ∧ h.Drops session now request kind id k) := by
  by_cases here : q = session ∧ request.tableKind? = some kind
  · obtain ⟨rfl, concerned⟩ := here
    have keeps : ∀ request : Request, request.acknowledged? = none → request.deleted? = none →
        ¬ h.Drops q now request kind id k := by
      rintro request asks deletes (acknowledges | ⟨under, _⟩)
      · cases asks.symm.trans acknowledges
      · cases deletes.symm.trans under
    have makes : ∀ request : Request, request.addition? = none →
        ¬ h.Assigns q request kind id k := by
      rintro request idle ⟨_, map, e, asks, _⟩
      cases idle.symm.trans asks
    cases request with
    | addSymbol map temp x y =>
        obtain rfl := Option.some.inj concerned
        have step := recorded?_addElement_iff describes_symbol h q map temp
          (fun id => Symbol.placed id x y) id k
        have assigns : h.Assigns q (.addSymbol map temp x y) .symbol id k ↔ _ :=
          assigns_of_addition_iff rfl rfl fun _ => rfl
        rw [apply, dropValue, addSymbol, step, assigns, addSymbol]
        simp [keeps (.addSymbol map temp x y) rfl rfl]
    | addConnection map temp sym0 sym1 =>
        obtain rfl := Option.some.inj concerned
        have assigns : h.Assigns q (.addConnection map temp sym0 sym1) .connection id k ↔ _ :=
          assigns_of_addition_iff rfl rfl fun _ => rfl
        rw [apply, dropValue, recorded?_addConnection_iff, assigns]
        simp [keeps (.addConnection map temp sym0 sym1) rfl rfl]
    | renameSymbol map old new =>
        obtain rfl := Option.some.inj concerned
        rw [apply, recorded?_acknowledge_iff describes_symbol]
        simp [makes (.renameSymbol map old new) rfl, Drops, Request.acknowledged?,
          Request.deleted?]
    | renameConnection map old new =>
        obtain rfl := Option.some.inj concerned
        rw [apply, recorded?_acknowledge_iff describes_connection]
        simp [makes (.renameConnection map old new) rfl, Drops, Request.acknowledged?,
          Request.deleted?]
    | deleteSymbol map number =>
        obtain rfl := Option.some.inj concerned
        have drops : h.Drops q now (.deleteSymbol map number) .symbol id k ↔ _ :=
          drops_of_deletion_iff (α := Symbol) map rfl rfl rfl
        have step := recorded?_deleteElement_iff describes_symbol proper q map number id k
        rw [apply, dropValue, deleteSymbol, step, drops]
        simp [makes (.deleteSymbol map number) rfl]
    | deleteConnection map number =>
        obtain rfl := Option.some.inj concerned
        have drops : h.Drops q now (.deleteConnection map number) .connection id k ↔ _ :=
          drops_of_deletion_iff (α := Connection) map rfl rfl rfl
        have step := recorded?_deleteElement_iff describes_connection proper q map number id k
        rw [apply, dropValue, deleteConnection, step, drops]
        simp [makes (.deleteConnection map number) rfl]
    | _ => cases concerned
  · have same : (h.apply q now request).2.recorded? kind session id =
        h.recorded? kind session id := by
      refine recorded?_of_placeholders? ((h.sameBut_apply q now request).tables session kind ?_) id
      intro concerned
      obtain ⟨own, sort, pair⟩ := Option.map_eq_some_iff.mp concerned
      obtain ⟨rfl, rfl⟩ := Prod.mk.inj pair
      exact here ⟨rfl, sort⟩
    have idle : ¬ (q = session ∧ h.Assigns session request kind id k) :=
      fun assigns => here ⟨assigns.1, tableKind?_of_assigns assigns.2⟩
    have still : ¬ (q = session ∧ h.Drops session now request kind id k) :=
      fun drops => here ⟨drops.1, tableKind?_of_drops drops.2⟩
    simp only [same, idle, still, false_or, not_false_eq_true, and_true]

/-- A request to delete an element is never refused because of a placeholder. -/
theorem apply_ne_badPlaceholder {request : Request} {named : ElementKind × ElementId}
    (deletes : request.deleted? = some named) (h : Hub σ) (session : SessionId) (now : UInt32)
    (reason : PlaceholderError) :
    (h.apply session now request).1 ≠ .error (.badPlaceholder reason) := by
  have drop : ∀ {o : Except Refusal ElementId}, o ≠ .error (.badPlaceholder reason) →
      o.map (fun _ => ()) ≠ .error (.badPlaceholder reason) := by
    intro o other
    cases o <;> simp_all [Except.map]
  cases request with
  | deleteSymbol map id => exact drop (h.deleteElement_ne_badPlaceholder session map id reason)
  | deleteConnection map id => exact drop (h.deleteElement_ne_badPlaceholder session map id reason)
  | _ => cases deletes

/-- What an element that is added goes by is positive. -/
theorem pos_of_assigns {request : Request}
    (assigns : h.Assigns session request kind id k) : id < 0 ∧ 0 < k := by
  obtain ⟨free, map, e, asks, done, rfl⟩ := assigns
  refine ⟨(recorded?_of_addition asks done free 0).1, ?_⟩
  obtain ⟨_, adds⟩ := subject_of_addition asks done
  rcases apply_of_editedMap? (editedMap?_of_deed? done) h 0 with
    ⟨idle, _⟩ | ⟨e', done', _, d, _, fits, _⟩
  · cases done.symm.trans idle
  · obtain rfl : e = e' := by simpa using done.symm.trans done'
    exact Int32.lt_of_lt_of_le (by decide) (Edit.one_le_subject fits adds)

/-- So the tables stay proper. -/
theorem ProperTables.apply (proper : h.ProperTables) (q : SessionId) (now : UInt32)
    (request : Request) : (h.apply q now request).2.ProperTables := by
  intro kind session id k recorded
  rcases (recorded?_apply_iff proper q now request).mp recorded with ⟨_, assigns⟩ | ⟨before, _⟩
  · exact pos_of_assigns assigns
  · exact proper kind session id k before

end Hub

end TopoSync
