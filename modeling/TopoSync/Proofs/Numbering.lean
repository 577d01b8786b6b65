import TopoSync.Proofs.Episodes
import TopoSync.Proofs.Hub.Contents
import TopoSync.Proofs.Placeholding
import TopoSync.Proofs.PrimaryKeys
import TopoSync.Store.Memory

/-!
# Numbers in a run

A store whose maps have distinct numbers gives them to the hub, every edit keeps them distinct, and
what the hub saves has distinct numbers again.  So numbers stay distinct through any succession of
readings, edits and saves, and a store in tables takes every save.
-/

namespace TopoSync

namespace Store

variable {σ : Type} [Store σ] {Sound : σ → Prop}

/-- Whether a condition on a store outlasts every call, provided that what is saved has distinct
numbers, and whether what is read under it has distinct numbers. -/
structure Upkeep (Sound : σ → Prop) : Prop where
  listMaps : ∀ {s}, Sound s → Sound (Store.listMaps s).2
  loadMap : ∀ {s}, Sound s → ∀ map, Sound (Store.loadMap s map).2
  loaded : ∀ {s}, Sound s → ∀ {map contents},
    (Store.loadMap s map).1 = .ok (some contents) → contents.Distinct
  saveMap : ∀ {s}, Sound s → ∀ map {contents}, contents.Distinct →
    Sound (Store.saveMap s map contents).2
  loadNode : ∀ {s}, Sound s → ∀ node, Sound (Store.loadNode s node).2
  saveNode : ∀ {s}, Sound s → ∀ node fields, Sound (Store.saveNode s node fields).2

/-- Whether the maps of a store have distinct numbers, and will have them as long as contents with
distinct numbers are saved. -/
def Tidy (store : σ) : Prop :=
  ∃ Sound : σ → Prop, Upkeep Sound ∧ Sound store

end Store

/-- Distinct numbers are a condition on the contents of maps like any other. -/
theorem Store.Upkeep.upholds {σ : Type} [Store σ] {Sound : σ → Prop} (upkeep : Upkeep Sound) :
    Upholds Sound fun _ contents => contents.Distinct where
  listMaps := upkeep.listMaps
  loadMap := upkeep.loadMap
  loaded := upkeep.loaded
  saveMap sound _ _ distinct := upkeep.saveMap sound _ distinct
  loadNode := upkeep.loadNode
  saveNode := upkeep.saveNode

theorem Store.Upholds.upkeep {σ : Type} [Store σ] {Sound : σ → Prop}
    (upholds : Upholds Sound fun _ contents => contents.Distinct) : Upkeep Sound where
  listMaps := upholds.listMaps
  loadMap := upholds.loadMap
  loaded := upholds.loaded
  saveMap sound _ _ distinct := upholds.saveMap sound distinct
  loadNode := upholds.loadNode
  saveNode := upholds.saveNode

theorem MemoryStore.tidy_iff {store : MemoryStore} :
    Store.Tidy store ↔
      ∀ map entry, store.maps.get? map = some entry → entry.2.Distinct := by
  rw [← upheld_iff]
  constructor
  · exact fun ⟨Sound, upkeep, sound⟩ => ⟨Sound, upkeep.upholds, sound⟩
  · exact fun ⟨Sound, upholds, sound⟩ => ⟨Sound, upholds.upkeep, sound⟩

/-- A store in tables has distinct numbers whatever is in the tables. -/
theorem Database.tidy (store : Database) : Store.Tidy store := by
  refine ⟨fun _ => True, ?_, trivial⟩
  constructor
  case loaded => exact fun _ _ _ read => distinct_of_map? (Except.ok.inj read)
  all_goals intros; trivial

/-- The contents that a call saves, if it saves this map. -/
def StoreCall.savedTo? (map : MapId) : StoreCall → Option Diagram
  | mapSaved q contents _ => if q = map then some contents else none
  | _ => none

namespace Recorded

variable {σ : Type}

/-- Whether every map that was saved had distinct numbers. -/
def SavesDistinct (s : Recorded σ) : Prop :=
  ∀ map contents answer, .mapSaved map contents answer ∈ s.calls → contents.Distinct

/-- What was last saved of a map. -/
def lastSaved? (s : Recorded σ) (map : MapId) : Option Diagram :=
  s.calls.reverse.findSome? (StoreCall.savedTo? map)

theorem lastSaved?_of_call {s s' : Recorded σ} {c : StoreCall} (called : s'.calls = s.calls ++ [c])
    (map : MapId) : s'.lastSaved? map = (c.savedTo? map).or (s.lastSaved? map) := by
  rw [lastSaved?, called, List.reverse_append, List.findSome?_append, lastSaved?,
    List.reverse_singleton, List.findSome?_singleton]

end Recorded

/-- The record of calls is kept up with the store. -/
theorem Store.Upkeep.recorded {σ : Type} [Store σ] {Sound : σ → Prop} (upkeep : Upkeep Sound) :
    Upkeep fun s : Recorded σ => Sound s.inner ∧ s.SavesDistinct :=
  upkeep.upholds.recorded.upkeep

namespace Recorded

/-- Whether a database has taken every save, and has of each map what was last saved of it. -/
structure Faithful (s : Recorded Database) : Prop where
  answered : ∀ map contents answer, .mapSaved map contents answer ∈ s.calls → answer = .ok ()
  kept : ∀ map contents, s.lastSaved? map = some contents → s.inner.Holds map contents

theorem Faithful.start (store : Database) : Faithful ⟨store, []⟩ where
  answered := nofun
  kept := nofun

/-- A call that saves no map and leaves the rows of every map changes nothing. -/
theorem Faithful.of_call {s s' : Recorded Database} {c : StoreCall} (ok : s.Faithful)
    (called : s'.calls = s.calls ++ [c]) (idle : ∀ map, c.savedTo? map = none)
    (rows : ∀ map contents, s.inner.Holds map contents → s'.inner.Holds map contents) :
    s'.Faithful where
  answered map contents answer member := by
    rw [called, List.mem_append, List.mem_singleton] at member
    rcases member with earlier | rfl
    · exact ok.answered map contents answer earlier
    · exact absurd (idle map) (by simp [StoreCall.savedTo?])
  kept map contents last := by
    rw [lastSaved?_of_call called, idle, Option.none_or] at last
    exact rows map contents (ok.kept map contents last)

/-- Saving distinct numbers makes the database have them. -/
theorem Faithful.saveMap {s : Recorded Database} (ok : s.Faithful) (map : MapId)
    {contents : Diagram} (distinct : contents.Distinct) :
    (Store.saveMap s map contents).2.Faithful := by
  obtain ⟨d, taken, held, others⟩ := s.inner.saveMap_of_distinct map distinct
  have saved : (Store.saveMap s map contents).2 =
      ⟨d, s.calls ++ [.mapSaved map contents (.ok ())]⟩ := by
    show (⟨(Store.saveMap s.inner map contents).2,
      s.calls ++ [.mapSaved map contents (Store.saveMap s.inner map contents).1]⟩ :
        Recorded Database) = _
    rw [taken]
  rw [saved]
  constructor
  · intro q contents' answer member
    rcases List.mem_append.mp member with earlier | last
    · exact ok.answered q contents' answer earlier
    · exact (StoreCall.mapSaved.inj (List.mem_singleton.mp last)).2.2
  · intro q contents' last
    rw [lastSaved?_of_call (s := s) rfl, StoreCall.savedTo?] at last
    by_cases here : map = q
    · subst here
      rw [if_pos rfl, Option.some_or] at last
      cases last
      exact held
    · rw [if_neg here, Option.none_or] at last
      exact others q (Ne.symm here) contents' (ok.kept q contents' last)

/-- So a database stays faithful whatever is asked of it. -/
theorem upkeep_faithful : Store.Upkeep Faithful where
  listMaps ok := ok.of_call rfl (fun _ => rfl) fun _ _ held => held
  loadMap ok _ := ok.of_call rfl (fun _ => rfl) fun _ _ held => held
  loaded _ _ _ read := Database.distinct_of_map? (Except.ok.inj read)
  saveMap ok map _ distinct := ok.saveMap map distinct
  loadNode ok _ := ok.of_call rfl (fun _ => rfl) fun _ _ held => held
  saveNode ok node fields :=
    ok.of_call rfl (fun _ => rfl) fun _ _ held => held.saveNode node fields

end Recorded

namespace Hub

variable {σ : Type} {h : Hub σ} {Sound : σ → Prop}

/-- Whether the store of a hub is sound and every open map has distinct numbers. -/
structure WellNumbered (Sound : σ → Prop) (h : Hub σ) : Prop where
  store : Sound h.store
  maps : ∀ map m, h.maps.get? map = some m → m.diagram.Distinct

theorem wellNumbered_iff :
    h.WellNumbered Sound ↔ h.Confined Sound fun _ contents => contents.Distinct :=
  ⟨fun ok => ⟨ok.store, ok.maps⟩, fun ok => ⟨ok.store, ok.maps⟩⟩

variable [Store σ]

/-- Every act that makes sense keeps numbers distinct, since edits do. -/
theorem wellNumbered_perform (upkeep : Store.Upkeep Sound) {a : Act} (enabled : a.Enabled h)
    (ok : h.WellNumbered Sound) : (h.perform a).WellNumbered Sound := by
  refine wellNumbered_iff.mpr (confined_perform upkeep.upholds enabled (wellNumbered_iff.mp ok) ?_)
  intro deed _
  cases deed with
  | edited map edit => exact fun _ fits distinct => distinct.edited fits
  | fieldsSet node fields => trivial

/-- An edit of distinct numbers that is carried out is made as it should be. -/
theorem turns_perform (ok : h.WellNumbered Sound) {a : Act} {map : MapId} {edit : Edit}
    (done : h.deedDone? a = some (.edited map edit)) :
    ∃ before after, h.shown? map = some before ∧ (h.perform a).shown? map = some after ∧
      edit.Turns before after := by
  obtain ⟨before, shows, fits, shows'⟩ := editedTo_perform done
  obtain ⟨m, found, rfl⟩ := Option.map_eq_some_iff.mp shows
  exact ⟨m.diagram, _, shows, shows', (ok.maps map m found).turns fits⟩

end Hub

/-- At every moment of a run from a sound store, the store is sound and numbers are distinct. -/
theorem Engine.wellNumbered_of_run {σ : Type} [Store σ] {Sound : σ → Prop}
    (upkeep : Store.Upkeep Sound) (store : σ) (sound : Sound store) (maxFrameSize : Nat)
    (moves : List Move) (performed : Nat) :
    let e := Engine.start store maxFrameSize
    (e.hub.performAll ((e.acts moves).take performed)).WellNumbered Sound := by
  intro e
  have enabled := e.enabled_acts moves
  rw [← List.take_append_drop performed (e.acts moves)] at enabled
  have start : e.hub.WellNumbered Sound := ⟨sound, nofun⟩
  exact Hub.performAll_keeps (fun _ _ => Hub.wellNumbered_perform upkeep)
    (Hub.along_append.mp enabled).1 start

/-- Numbers stay distinct in every run from a store whose maps have distinct numbers.  At every moment,
what is open and what was saved has distinct numbers, and whoever edits a map makes of it what the edit
says: a new element gets a positive number that no element of its kind in the map has, and under a
number that is taken out no element of its kind is left, while the others stay in order.  A store in
memory is such a store exactly if its maps have distinct numbers; a database always is one, it takes
every save, and at every moment it has of a map what was last saved of it. -/
theorem numbers_stay_distinct :
    (∀ {σ : Type} [Store σ] {store : σ}, Store.Tidy store → ∀ maxFrameSize moves,
      let e := Engine.start (Recorded.mk store []) maxFrameSize
      (e.after moves).seen Recorded.inner = (Engine.start store maxFrameSize).after moves ∧
      (e.after moves).hub = e.hub.performAll (e.acts moves) ∧
      ∀ performed : Nat,
        let h := e.hub.performAll ((e.acts moves).take performed)
        (∀ map m, h.maps.get? map = some m → m.diagram.Distinct) ∧
        (∀ map contents answer, .mapSaved map contents answer ∈ h.store.calls →
          contents.Distinct) ∧
        ∀ a map edit, h.deedDone? a = some (.edited map edit) →
          ∃ before after, h.shown? map = some before ∧ (h.perform a).shown? map = some after ∧
            edit.Turns before after) ∧
    (∀ store : MemoryStore, Store.Tidy store ↔
      ∀ map entry, store.maps.get? map = some entry → entry.2.Distinct) ∧
    ∀ store : Database, Store.Tidy store ∧ ∀ maxFrameSize moves performed,
      let e := Engine.start (Recorded.mk store []) maxFrameSize
      let h := e.hub.performAll ((e.acts moves).take performed)
      (∀ map contents answer, .mapSaved map contents answer ∈ h.store.calls → answer = .ok ()) ∧
      ∀ map contents, h.store.lastSaved? map = some contents →
        h.store.inner.Holds map contents := by
  refine ⟨?_, fun store => MemoryStore.tidy_iff, fun store => ⟨store.tidy, ?_⟩⟩
  · rintro σ _ store ⟨Sound, upkeep, sound⟩ maxFrameSize moves e
    refine ⟨(e.after_seen Recorded.mirrors moves).symm, e.hub_after moves, ?_⟩
    intro performed h
    have ok := Engine.wellNumbered_of_run upkeep.recorded ⟨store, []⟩ ⟨sound, nofun⟩ maxFrameSize moves
      performed
    exact ⟨ok.maps, ok.store.2, fun a map edit done => Hub.turns_perform ok done⟩
  · intro maxFrameSize moves performed e h
    have ok := Engine.wellNumbered_of_run Recorded.upkeep_faithful ⟨store, []⟩ (.start store)
      maxFrameSize moves performed
    exact ⟨ok.store.answered, ok.store.kept⟩

/-- A map with two symbols whose numbers leave a gap. -/
def gappedPlan : MemoryStore :=
  MemoryStore.insertMap {} 7 "plan" { symbols := [Symbol.placed 1 0 0, Symbol.placed 3 0 0] }

/-- A session adds a symbol, deletes another one, adds a second symbol and leaves the map. -/
def gapsFilled : List Move :=
  [.event (.connected ⟨1⟩ "a" .staying),
    sending ⟨1⟩ .openMap [7],
    sending ⟨1⟩ .addSymbol [7, -1, 3, 4],
    sending ⟨1⟩ .deleteSymbol [7, 1],
    sending ⟨1⟩ .addSymbol [7, -2, 5, 6],
    sending ⟨1⟩ .closeMap [7]]

theorem numbers_stay_distinct_gapsFilled :
    let e := Engine.start (Recorded.mk gappedPlan []) 1000
    let h := e.hub.performAll ((e.acts gapsFilled).take 11)
    let adding : Act := .answer ⟨1⟩ 0 (asking .addSymbol [7, -2, 5, 6])
    (e.acts gapsFilled)[11]? = some adding ∧
    (∃ before after, h.shown? 7 = some before ∧ (h.perform adding).shown? 7 = some after ∧
      (Edit.symbolAdded 1 5 6).Turns before after) ∧
    ∃ contents answer, .mapSaved 7 contents answer ∈ (e.after gapsFilled).hub.store.calls ∧
      contents.Distinct ∧ Elements.numbers contents.symbols = [3, 2, 1] := by
  intro e h adding
  have tidy : Store.Tidy gappedPlan := by
    refine (numbers_stay_distinct.2.1 gappedPlan).mpr fun map entry found => ?_
    have stored := Table.mem_entries_iff.mpr found
    rw [show gappedPlan.maps.entries = [(7, "plan",
      { symbols := [Symbol.placed 1 0 0, Symbol.placed 3 0 0] })] by decide_cbv,
      List.mem_singleton] at stored
    cases stored
    decide
  obtain ⟨_, whole, moments⟩ := numbers_stay_distinct.1 tidy 1000 gapsFilled
  obtain ⟨_, _, edits⟩ := moments 11
  obtain ⟨_, saved, _⟩ := moments (e.acts gapsFilled).length
  have done : (e.hub.performAll ((e.acts gapsFilled).take 11)).deedDone? adding =
      some (.edited 7 (.symbolAdded 1 5 6)) := by decide_cbv
  have last : .mapSaved 7 { symbols := [Symbol.placed 3 0 0, Symbol.placed 2 3 4,
      Symbol.placed 1 5 6] } (.ok ()) ∈ (e.after gapsFilled).hub.store.calls := by
    have calls : (e.after gapsFilled).hub.store.calls.getLast? = some (.mapSaved 7
        { symbols := [Symbol.placed 3 0 0, Symbol.placed 2 3 4, Symbol.placed 1 5 6] } (.ok ())) := by
      cbv
    exact List.mem_of_getLast? calls
  refine ⟨by decide_cbv, edits adding 7 (.symbolAdded 1 5 6) done, _, _, last, ?_, by decide_cbv⟩
  rw [List.take_length, ← whole] at saved
  exact saved 7 _ _ last

end TopoSync
