import TopoSync.Proofs.Counterparts
import TopoSync.Proofs.Hub.Postings

/-!
# Moving symbols

A request to move a symbol adds an offset to where it is, with wrap-around.  Whether the request is
accepted, and who is told, depends on the subscribers of the map and on the numbers in use, and neither
changes when a symbol is moved.  So moves of one map can be made in either order.
-/

namespace TopoSync

/-- Changes of elements can be exchanged if they keep the numbers and can be exchanged for one
element. -/
theorem Elements.update_comm {α : Type} [Numbered α] {f g : α → α}
    (keeps : ∀ x, Numbered.number (f x) = Numbered.number x)
    (keeps' : ∀ x, Numbered.number (g x) = Numbered.number x) (comm : ∀ x, g (f x) = f (g x))
    (xs : List α) (i j : ElementId) :
    update (update xs i f) j g = update (update xs j g) i f := by
  induction xs with
  | nil => rfl
  | cons x rest ih =>
      by_cases here : Numbered.number x = i
      · subst here
        by_cases there : Numbered.number x = j
        · simp [update, there, keeps, keeps', comm]
        · simp [update, there, keeps]
      · by_cases there : Numbered.number x = j
        · subst there
          simp [update, here, keeps']
        · simp [update, here, there, ih]

theorem Symbol.moved_moved (s : Symbol) (dx dy dx' dy' : Int32) :
    (s.moved dx dy).moved dx' dy' = (s.moved dx' dy').moved dx dy := by
  simp only [moved, Int32.add_assoc, Int32.add_comm dx dx', Int32.add_comm dy dy']

/-- Whether two open maps have the same subscribers and the same numbers of symbols. -/
structure OpenMap.Similar (m m' : OpenMap) : Prop where
  subscribers : m'.subscribers = m.subscribers
  numbers : Elements.numbers m'.diagram.symbols = Elements.numbers m.diagram.symbols

/-- The map after a session has asked for a symbol to be moved. -/
def OpenMap.moved (m : OpenMap) (session : SessionId) (id : ElementId) (dx dy : Int32) : OpenMap :=
  if session ∈ m.subscribers ∧ Elements.contains m.diagram.symbols id = true then
    { m with diagram := m.diagram.edited (.symbolMoved id dx dy) }
  else m

namespace OpenMap

theorem similar_moved (m : OpenMap) (session : SessionId) (id : ElementId) (dx dy : Int32) :
    m.Similar (m.moved session id dx dy) := by
  rw [moved]
  split
  · exact ⟨rfl, Elements.numbers_update (Diagram.number_moved dx dy) _ _⟩
  · exact ⟨rfl, rfl⟩

/-- Symbols can be moved in either order. -/
theorem moved_moved (m : OpenMap) (session session' : SessionId) (id id' : ElementId)
    (dx dy dx' dy' : Int32) :
    (m.moved session id dx dy).moved session' id' dx' dy' =
      (m.moved session' id' dx' dy').moved session id dx dy := by
  have one := m.similar_moved session id dx dy
  have two := m.similar_moved session' id' dx' dy'
  rw [moved, one.subscribers, Elements.contains_congr (.of_eq one.numbers),
    moved.eq_def (m.moved session' id' dx' dy'), two.subscribers,
    Elements.contains_congr (.of_eq two.numbers)]
  by_cases here : session ∈ m.subscribers ∧ Elements.contains m.diagram.symbols id = true <;>
    by_cases there : session' ∈ m.subscribers ∧ Elements.contains m.diagram.symbols id' = true
  · have either := Elements.update_comm (Diagram.number_moved dx dy) (Diagram.number_moved dx' dy')
      (fun s => s.moved_moved dx dy dx' dy') m.diagram.symbols id id'
    rw [if_pos there, if_pos here, moved, moved, if_pos here, if_pos there]
    simp only [Diagram.edited, either]
  · rw [if_neg there, if_pos here, moved, moved, if_pos here, if_neg there]
  · rw [if_pos there, if_neg here, moved, moved, if_neg here, if_pos there]
  · rw [if_neg there, if_neg here, moved, moved, if_neg here, if_neg there]

end OpenMap

namespace Hub

variable {h h' : Hub MemoryStore} {session : SessionId} {map : MapId}

theorem subscribedMap?_eq_none {σ : Type} {h : Hub σ} {m : OpenMap} (found : h.maps.get? map = some m)
    (absent : ¬ session ∈ m.subscribers) : h.subscribedMap? session map = none := by
  rw [subscribedMap?, found, Option.filter_some, if_neg (by simpa using absent)]

/-- A request to move a symbol moves it on the map and does nothing else but post letters. -/
theorem translateSymbol_moved {s : Session} (known : h.router.session? session = some s)
    (map : MapId) (id : ElementId) (dx dy : Int32) :
    (h.translateSymbol session map id dx dy).2.maps.get? map =
        (h.maps.get? map).map (fun m => m.moved session (s.symbolIds.resolve id) dx dy) ∧
      (h.translateSymbol session map id dx dy).2.store = h.store := by
  rw [translateSymbol, known]
  dsimp only
  cases found : h.maps.get? map with
  | none =>
      have closed : h.subscribedMap? session map = none := by rw [subscribedMap?, found]; rfl
      rw [closed]
      exact ⟨found, rfl⟩
  | some m =>
      rw [Option.map_some, OpenMap.moved]
      by_cases member : session ∈ m.subscribers
      · rw [subscribedMap?_eq_some_iff.mpr ⟨found, member⟩]
        dsimp only
        split
        · rename_i absent
          rw [if_neg (by simp [absent])]
          exact ⟨found, rfl⟩
        · rename_i present
          rw [if_pos ⟨member, by simpa using present⟩, notifyOthers_eq_post]
          exact ⟨Table.get?_insert_self _ _ _, rfl⟩
      · rw [subscribedMap?_eq_none found member, if_neg fun both => member both.1]
        exact ⟨found, rfl⟩

/-- Whether it is accepted, and what it gives rise to, depends on the subscribers and on the numbers in
use only. -/
theorem translateSymbol_similar
    (sessions : h'.router.session? session = h.router.session? session)
    (open_ : Option.Rel OpenMap.Similar (h.maps.get? map) (h'.maps.get? map)) (now : UInt32)
    (id : ElementId) (dx dy : Int32) :
    (h'.translateSymbol session map id dx dy).1 = (h.translateSymbol session map id dx dy).1 ∧
      h'.lettersOf session now (.translateSymbol map id dx dy) =
        h.lettersOf session now (.translateSymbol map id dx dy) := by
  have answer : (h'.translateSymbol session map id dx dy).1 =
      (h.translateSymbol session map id dx dy).1 := by
    rw [translateSymbol, translateSymbol, sessions]
    split
    · rfl
    · dsimp only
      rcases none_or_some_of_rel open_ with ⟨found, found'⟩ | ⟨m, m', found, found', similar⟩
      · rw [subscribedMap?, subscribedMap?, found, found']
        rfl
      · by_cases member : session ∈ m.subscribers
        · have member' : session ∈ m'.subscribers := similar.subscribers ▸ member
          rw [subscribedMap?_eq_some_iff.mpr ⟨found, member⟩,
            subscribedMap?_eq_some_iff.mpr ⟨found', member'⟩]
          dsimp only
          rw [Elements.contains_congr (.of_eq similar.numbers)]
          split <;> rfl
        · have absent' : ¬ session ∈ m'.subscribers := similar.subscribers ▸ member
          rw [subscribedMap?_eq_none found member, subscribedMap?_eq_none found' absent']
  refine ⟨answer, ?_⟩
  have permanent : h'.permanent Symbol session id = h.permanent Symbol session id := by
    rw [Hub.permanent, Hub.permanent, sessions]
  rw [lettersOf, lettersOf, deed?, deed?, answer, permanent]
  cases (h.translateSymbol session map id dx dy).1.toOption with
  | none => rfl
  | some _ =>
      rcases none_or_some_of_rel open_ with ⟨found, found'⟩ | ⟨m, m', found, found', similar⟩
      · simp only [Option.map_some, deedLetters, found, found']
      · simp only [Option.map_some, deedLetters, found, found', similar.subscribers]

end Hub

end TopoSync
