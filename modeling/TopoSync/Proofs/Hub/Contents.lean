import TopoSync.Proofs.Deeds
import TopoSync.Store.Memory
import TopoSync.Store.Recorded

/-!
# What maps contain

A condition on the contents of maps holds throughout a run if the store gives only such contents as
long as it is given only such contents, and if the edits that are made keep it.  Nothing else that the
hub does makes contents of its own.
-/

namespace TopoSync

/-- Whether a condition on a store outlasts every call, provided that only allowed contents are saved,
and whether only allowed contents are read under it. -/
structure Store.Upholds {σ : Type} [Store σ] (Sound : σ → Prop)
    (Allowed : MapId → Diagram → Prop) : Prop where
  listMaps : ∀ {s}, Sound s → Sound (Store.listMaps s).2
  loadMap : ∀ {s}, Sound s → ∀ map, Sound (Store.loadMap s map).2
  loaded : ∀ {s}, Sound s → ∀ {map contents},
    (Store.loadMap s map).1 = .ok (some contents) → Allowed map contents
  saveMap : ∀ {s}, Sound s → ∀ {map contents}, Allowed map contents →
    Sound (Store.saveMap s map contents).2
  loadNode : ∀ {s}, Sound s → ∀ node, Sound (Store.loadNode s node).2
  saveNode : ∀ {s}, Sound s → ∀ node fields, Sound (Store.saveNode s node fields).2

namespace Recorded

variable {σ : Type}

/-- Whether every map that was saved had allowed contents. -/
def SavesOnly (Allowed : MapId → Diagram → Prop) (s : Recorded σ) : Prop :=
  ∀ map contents answer, .mapSaved map contents answer ∈ s.calls → Allowed map contents

theorem SavesOnly.of_call {Allowed : MapId → Diagram → Prop} {s s' : Recorded σ} {c : StoreCall}
    (before : s.SavesOnly Allowed) (called : s'.calls = s.calls ++ [c])
    (last : ∀ map contents answer, c = .mapSaved map contents answer → Allowed map contents) :
    s'.SavesOnly Allowed := by
  intro map contents answer member
  rw [called, List.mem_append, List.mem_singleton] at member
  rcases member with earlier | same
  · exact before map contents answer earlier
  · exact last map contents answer same.symm

end Recorded

/-- The record of calls is kept up with the store. -/
theorem Store.Upholds.recorded {σ : Type} [Store σ] {Sound : σ → Prop}
    {Allowed : MapId → Diagram → Prop} (upholds : Upholds Sound Allowed) :
    Upholds (fun s : Recorded σ => Sound s.inner ∧ s.SavesOnly Allowed) Allowed where
  listMaps := fun ⟨sound, saves⟩ => ⟨upholds.listMaps sound, saves.of_call rfl nofun⟩
  loadMap := fun ⟨sound, saves⟩ map => ⟨upholds.loadMap sound map, saves.of_call rfl nofun⟩
  loaded := fun ⟨sound, _⟩ _ _ read => upholds.loaded sound read
  saveMap := fun ⟨sound, saves⟩ _ _ allowed =>
    ⟨upholds.saveMap sound allowed, saves.of_call rfl fun _ _ _ same => by
      obtain ⟨rfl, rfl, _⟩ := StoreCall.mapSaved.inj same
      exact allowed⟩
  loadNode := fun ⟨sound, saves⟩ node => ⟨upholds.loadNode sound node, saves.of_call rfl nofun⟩
  saveNode := fun ⟨sound, saves⟩ node fields =>
    ⟨upholds.saveNode sound node fields, saves.of_call rfl nofun⟩

namespace MemoryStore

variable {Allowed : MapId → Diagram → Prop}

theorem upholds_stored (Allowed : MapId → Diagram → Prop) :
    Store.Upholds
      (fun s : MemoryStore => ∀ map entry, s.maps.get? map = some entry → Allowed map entry.2)
      Allowed where
  listMaps sound := sound
  loadMap sound _ := sound
  loaded sound map _ read := by
    obtain ⟨entry, found, rfl⟩ := Option.map_eq_some_iff.mp (Except.ok.inj read)
    exact sound map entry found
  saveMap sound map contents allowed := by
    dsimp only [Store.saveMap]
    split
    · exact sound
    · exact Table.holds_insert (P := fun map (entry : String × Diagram) => Allowed map entry.2)
        allowed sound
  loadNode sound _ := sound
  saveNode sound node fields := by
    dsimp only [Store.saveNode]
    split
    · exact sound
    · exact sound

/-- A store in memory gives back what it was given, so its maps are all there is to look at. -/
theorem upheld_iff {store : MemoryStore} :
    (∃ Sound : MemoryStore → Prop, Store.Upholds Sound Allowed ∧ Sound store) ↔
      ∀ map entry, store.maps.get? map = some entry → Allowed map entry.2 := by
  constructor
  · rintro ⟨Sound, upholds, sound⟩ map entry found
    have read : (Store.loadMap store map).1 = .ok (some entry.2) := by
      show Except.ok ((store.maps.get? map).map Prod.snd) = _
      rw [found]
      rfl
    exact upholds.loaded sound read
  · exact fun allowed => ⟨_, upholds_stored Allowed, allowed⟩

end MemoryStore

namespace Hub

variable {σ : Type} {Sound : σ → Prop} {Allowed : MapId → Diagram → Prop} {h h' : Hub σ}

/-- Whether the store of a hub is sound and every open map has allowed contents. -/
structure Confined (Sound : σ → Prop) (Allowed : MapId → Diagram → Prop) (h : Hub σ) : Prop where
  store : Sound h.store
  maps : ∀ map m, h.maps.get? map = some m → Allowed map m.diagram

/-- Whether an edit of a map makes allowed contents of allowed ones. -/
def EditKeeps (Allowed : MapId → Diagram → Prop) : Deed → Prop
  | .edited map edit => ∀ d : Diagram, edit.Fits d → Allowed map d → Allowed map (d.edited edit)
  | .fieldsSet .. => True

namespace Confined

/-- Nothing else of a hub matters. -/
theorem of_same (ok : h.Confined Sound Allowed) (store : h'.store = h.store)
    (maps : h'.maps = h.maps) : h'.Confined Sound Allowed where
  store := store ▸ ok.store
  maps := maps ▸ ok.maps

theorem withStore (ok : h.Confined Sound Allowed) {store : σ} (sound : Sound store) :
    Confined Sound Allowed { h with store } where
  store := sound
  maps := ok.maps

theorem putMap (ok : h.Confined Sound Allowed) {map : MapId} {diagram : Diagram}
    (allowed : Allowed map diagram) (subscribers : Roster) :
    (h.putMap map ⟨diagram, subscribers⟩).Confined Sound Allowed where
  store := ok.store
  maps := Table.holds_insert (P := fun map (m : OpenMap) => Allowed map m.diagram) allowed ok.maps

variable [Store σ]

theorem writeBackMap (upholds : Store.Upholds Sound Allowed) (ok : h.Confined Sound Allowed)
    (map : MapId) : (h.writeBackMap map).Confined Sound Allowed := by
  cases found : h.maps.get? map with
  | none =>
      rw [Hub.writeBackMap, found]
      exact ok
  | some m =>
      rw [writeBackMap_of_get? found]
      exact ⟨upholds.saveMap ok.store (ok.maps map m found), Table.holds_erase ok.maps⟩

theorem writeBackNode (upholds : Store.Upholds Sound Allowed) (ok : h.Confined Sound Allowed)
    (node : NodeId) : (h.writeBackNode node).Confined Sound Allowed := by
  cases found : h.nodes.get? node with
  | none =>
      rw [Hub.writeBackNode, found]
      exact ok
  | some n =>
      rw [writeBackNode_of_get? found]
      exact ⟨upholds.saveNode ok.store node n.record.fields, ok.maps⟩

end Confined

variable [Store σ]

/-- Every change keeps the hub confined if its edit, in case it is one, keeps contents allowed. -/
theorem Change.confined (upholds : Store.Upholds Sound Allowed) {marks : List Mark}
    (change : Change h marks h') (ok : h.Confined Sound Allowed)
    (keeps : ∀ session deed, .deed session deed ∈ marks → EditKeeps Allowed deed) :
    h'.Confined Sound Allowed := by
  -- Readings, edits and saves matter; every other change leaves the store and what maps contain.
  cases change with
  | consulted asked =>
      refine ok.withStore ?_
      cases asked with
      | maps failed => exact upholds.listMaps ok.store
      | map map nothing => exact upholds.loadMap ok.store map
      | node node failed => exact upholds.loadNode ok.store node
  | mapsListed session listed =>
      have answer := congrArg Prod.snd listed
      subst answer
      exact (ok.withStore (upholds.listMaps ok.store)).of_same rfl rfl
  | nodeMissed session node closed missing =>
      have answer := congrArg Prod.snd missing
      subst answer
      exact (ok.withStore (upholds.loadNode ok.store node)).of_same rfl rfl
  | amended id f keeps => exact ok.of_same rfl rfl
  | mapJoined session map m real known found =>
      exact (ok.putMap (ok.maps map m found) _).of_same rfl rfl
  | mapLoaded session map real known closed loaded =>
      have read := upholds.loaded ok.store (congrArg Prod.fst loaded)
      have answer := congrArg Prod.snd loaded
      subst answer
      exact ((ok.withStore (upholds.loadMap ok.store map)).putMap read _).of_same rfl rfl
  | mapEdited session map m edit old found member fits =>
      have edited := keeps session (.edited map edit) List.mem_cons_self m.diagram fits
        (ok.maps map m found)
      exact (ok.putMap edited _).of_same rfl rfl
  | mapLeft session map m found member others => exact ok.putMap (ok.maps map m found) _
  | mapGivenUp session map m found member last => exact ok.writeBackMap upholds map
  | mapFlushed map => exact ok.writeBackMap upholds map
  | nodeLoaded session node known closed loaded =>
      have answer := congrArg Prod.snd loaded
      subst answer
      exact (ok.withStore (upholds.loadNode ok.store node)).of_same rfl rfl
  | nodeGivenUp session node n found member free last => exact ok.writeBackNode upholds node
  | nodeFlushed node => exact ok.writeBackNode upholds node
  | _ => exact ok.of_same rfl rfl

theorem Trail.confined (upholds : Store.Upholds Sound Allowed) {marks : List Mark}
    (trail : Trail h marks h') (ok : h.Confined Sound Allowed)
    (keeps : ∀ session deed, .deed session deed ∈ marks → EditKeeps Allowed deed) :
    h'.Confined Sound Allowed := by
  induction trail with
  | still => exact ok
  | step change _ ih =>
      have first := change.confined upholds ok fun s d member =>
        keeps s d (List.mem_append_left _ member)
      exact ih first fun s d member => keeps s d (List.mem_append_right _ member)

omit [Store σ] in
theorem mem_deedsIn_of_mem {marks : List Mark} {session : SessionId} {deed : Deed}
    (member : .deed session deed ∈ marks) : deed ∈ deedsIn marks :=
  List.mem_filterMap.mpr ⟨_, member, rfl⟩

/-- An act keeps the hub confined if the edit that it makes, in case it makes one, keeps contents
allowed. -/
theorem confined_perform (upholds : Store.Upholds Sound Allowed) {a : Act}
    (enabled : a.Enabled h) (ok : h.Confined Sound Allowed)
    (keeps : ∀ deed, h.deedDone? a = some deed → EditKeeps Allowed deed) :
    (h.perform a).Confined Sound Allowed := by
  cases place : a.isOuter with
  | true =>
      obtain ⟨maps, _, store, _⟩ := h.shared_of_outer place
      exact ok.of_same store maps
  | false =>
      obtain ⟨letters, ends, trail⟩ := trail_act enabled place
      refine trail.confined upholds ok fun s d member => keeps d ?_
      have listed := mem_deedsIn_of_mem member
      rw [deedsIn_append, deedsIn_append, deedsIn_letters, deedsIn_ends, List.append_nil,
        List.append_nil, deedsIn_deedMarksOf, Option.mem_toList] at listed
      exact listed

end Hub

end TopoSync
