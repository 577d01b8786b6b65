import Mathlib.Data.List.Chain
import TopoSync.Proofs.Deeds
import TopoSync.Proofs.Hub.Mirroring
import TopoSync.Proofs.Hub.Savings

/-!
# Caching episodes

A map is open for an episode: it begins when the map is read from the store and ends when the map is
saved, whether or not the save succeeds.  With a store that records its calls, the episodes of a map
are there to be read, and they never overlap: reading and saving take turns, and the map is open
exactly while the last of the two is a reading.
-/

namespace TopoSync

/-- What a call of the store is to one map or node: its contents are brought, or they are saved. -/
inductive Phase
  | loaded
  | saved
deriving DecidableEq, Repr

namespace StoreCall

/-- What a call is to a map.  A reading that brings nothing is nothing. -/
def mapPhase? (map : MapId) : StoreCall → Option Phase
  | mapLoaded q (.ok (some _)) => if q = map then some .loaded else none
  | mapSaved q _ _ => if q = map then some .saved else none
  | _ => none

/-- What a call is to a node. -/
def nodePhase? (node : NodeId) : StoreCall → Option Phase
  | nodeLoaded q (.ok (some _)) => if q = node then some .loaded else none
  | nodeSaved q _ _ => if q = node then some .saved else none
  | _ => none

/-- The map that a call saves, with its contents. -/
def mapSave? : StoreCall → Option (MapId × Diagram)
  | mapSaved map contents _ => some (map, contents)
  | _ => none

/-- The node that a call saves, with its fields. -/
def nodeSave? : StoreCall → Option (NodeId × NodeFields)
  | nodeSaved node fields _ => some (node, fields)
  | _ => none

end StoreCall

/-- Whether phases are those of successive episodes, the last of which may be going on. -/
structure Episodes (phases : List Phase) (goingOn : Bool) : Prop where
  alternate : phases.IsChain (· ≠ ·)
  first : phases.head? ≠ some .saved
  last : phases.getLast? = some .loaded ↔ goingOn = true

namespace Episodes

variable {phases : List Phase}

theorem none : Episodes [] false where
  alternate := .nil
  first := nofun
  last := by simp

/-- An episode begins. -/
theorem load (episodes : Episodes phases false) : Episodes (phases ++ [.loaded]) true where
  alternate := by
    refine List.isChain_append.mpr ⟨episodes.alternate, .singleton _, ?_⟩
    rintro p before q here
    obtain rfl : .loaded = q := by simpa using here
    rintro rfl
    exact Bool.false_ne_true (episodes.last.mp before)
  first := by
    cases phases with
    | nil => simp
    | cons p rest => exact episodes.first
  last := by simp

/-- An episode ends. -/
theorem save (episodes : Episodes phases true) : Episodes (phases ++ [.saved]) false where
  alternate := by
    refine List.isChain_append.mpr ⟨episodes.alternate, .singleton _, ?_⟩
    rintro p before q here
    obtain rfl : .saved = q := by simpa using here
    have reading : p = .loaded := by
      have last := episodes.last.mpr rfl
      exact Option.some.inj (before.symm.trans last)
    rw [reading]
    nofun
  first := by
    cases phases with
    | nil => exact absurd (episodes.last.mpr rfl) (by simp)
    | cons p rest => exact episodes.first
  last := by simp

section Tables

variable {κ α : Type} [DecidableEq κ] {t : Table κ α} {phases phases' : κ → List Phase} {k : κ}

/-- What is not open and is read begins an episode; those of the others go on. -/
theorem insert (all : ∀ q, Episodes (phases q) (t.contains q)) (closed : t.get? k = .none)
    (called : ∀ q, phases' q = phases q ++ (if k = q then some .loaded else .none).toList) (a : α)
    (q : κ) :
    Episodes (phases' q) ((t.insert k a).contains q) := by
  rw [called, Table.contains_insert]
  by_cases here : q = k
  · subst here
    have before := all q
    rw [Table.contains_eq_isSome, closed] at before
    simpa using before.load
  · simpa [here, Ne.symm here] using all q

/-- What is open and is saved ends its episode; those of the others go on. -/
theorem erase (all : ∀ q, Episodes (phases q) (t.contains q)) {a : α} (found : t.get? k = some a)
    (called : ∀ q, phases' q = phases q ++ (if k = q then some .saved else .none).toList) (q : κ) :
    Episodes (phases' q) ((t.erase k).contains q) := by
  rw [called, Table.contains_erase]
  by_cases here : q = k
  · subst here
    have before := all q
    rw [Table.contains_eq_isSome, found] at before
    simpa using before.save
  · simpa [here, Ne.symm here] using all q

end Tables

end Episodes

namespace Recorded

variable {σ : Type}

/-- What the calls so far were to a map. -/
def mapPhases (s : Recorded σ) (map : MapId) : List Phase :=
  s.calls.filterMap (StoreCall.mapPhase? map)

/-- What the calls so far were to a node. -/
def nodePhases (s : Recorded σ) (node : NodeId) : List Phase :=
  s.calls.filterMap (StoreCall.nodePhase? node)

theorem mapPhases_of_call {s s' : Recorded σ} {c : StoreCall} (called : s'.calls = s.calls ++ [c])
    (map : MapId) : s'.mapPhases map = s.mapPhases map ++ (c.mapPhase? map).toList := by
  rw [mapPhases, called, List.filterMap_append, ← mapPhases]
  cases phase : c.mapPhase? map <;> simp [phase]

theorem nodePhases_of_call {s s' : Recorded σ} {c : StoreCall} (called : s'.calls = s.calls ++ [c])
    (node : NodeId) : s'.nodePhases node = s.nodePhases node ++ (c.nodePhase? node).toList := by
  rw [nodePhases, called, List.filterMap_append, ← nodePhases]
  cases phase : c.nodePhase? node <;> simp [phase]

/-- Whether the calls added to a record save some maps and some nodes, in order, and no others. -/
def Saves (s s' : Recorded σ) (maps : List (MapId × Diagram)) (nodes : List (NodeId × NodeFields)) :
    Prop :=
  ∃ calls, s'.calls = s.calls ++ calls ∧ calls.filterMap StoreCall.mapSave? = maps ∧
    calls.filterMap StoreCall.nodeSave? = nodes

namespace Saves

theorem refl (s : Recorded σ) : s.Saves s [] [] :=
  ⟨[], (List.append_nil _).symm, rfl, rfl⟩

theorem trans {s s₁ s₂ : Recorded σ} {maps maps' : List (MapId × Diagram)}
    {nodes nodes' : List (NodeId × NodeFields)} (first : s.Saves s₁ maps nodes)
    (second : s₁.Saves s₂ maps' nodes') : s.Saves s₂ (maps ++ maps') (nodes ++ nodes') := by
  obtain ⟨calls, called, rfl, rfl⟩ := first
  obtain ⟨calls', called', rfl, rfl⟩ := second
  refine ⟨calls ++ calls', ?_, List.filterMap_append, List.filterMap_append⟩
  rw [called', called, List.append_assoc]

variable [Store σ]

theorem saveMaps (s : Recorded σ) (maps : List (MapId × Diagram)) :
    s.Saves (Store.saveMaps s maps) maps [] := by
  induction maps generalizing s with
  | nil => exact .refl s
  | cons e rest ih =>
      have one : s.Saves (Store.saveMap s e.1 e.2).2 [e] [] :=
        ⟨[.mapSaved e.1 e.2 (Store.saveMap s e.1 e.2).1], rfl, rfl, rfl⟩
      exact one.trans (ih _)

theorem saveNodes (s : Recorded σ) (nodes : List (NodeId × NodeFields)) :
    s.Saves (Store.saveNodes s nodes) [] nodes := by
  induction nodes generalizing s with
  | nil => exact .refl s
  | cons e rest ih =>
      have one : s.Saves (Store.saveNode s e.1 e.2).2 [] [e] :=
        ⟨[.nodeSaved e.1 e.2 (Store.saveNode s e.1 e.2).1], rfl, rfl, rfl⟩
      exact one.trans (ih _)

end Saves

end Recorded

namespace Hub

variable {σ : Type} [Store σ] {h h' : Hub (Recorded σ)}

/-- Whether every map and node is open exactly while one of its episodes goes on. -/
structure Episodic (h : Hub (Recorded σ)) : Prop where
  maps : ∀ map, Episodes (h.store.mapPhases map) (h.maps.contains map)
  nodes : ∀ node, Episodes (h.store.nodePhases node) (h.nodes.contains node)

namespace Episodic

omit [Store σ] in
/-- Nothing changes for anybody if the calls are to nobody and the same maps and nodes are open. -/
theorem of_same (ok : h.Episodic) {calls : List StoreCall}
    (called : h'.store.calls = h.store.calls ++ calls)
    (noMap : ∀ map, calls.filterMap (StoreCall.mapPhase? map) = [])
    (noNode : ∀ node, calls.filterMap (StoreCall.nodePhase? node) = [])
    (maps : ∀ map, h'.maps.contains map = h.maps.contains map)
    (nodes : ∀ node, h'.nodes.contains node = h.nodes.contains node) : h'.Episodic where
  maps map := by
    rw [Recorded.mapPhases, called, List.filterMap_append, noMap, List.append_nil, maps]
    exact ok.maps map
  nodes node := by
    rw [Recorded.nodePhases, called, List.filterMap_append, noNode, List.append_nil, nodes]
    exact ok.nodes node

omit [Store σ] in
theorem of_uncalled (ok : h.Episodic) (same : h'.store = h.store)
    (maps : ∀ map, h'.maps.contains map = h.maps.contains map)
    (nodes : ∀ node, h'.nodes.contains node = h.nodes.contains node) : h'.Episodic := by
  have called : h'.store.calls = h.store.calls ++ [] := by rw [same, List.append_nil]
  exact ok.of_same called (fun _ => rfl) (fun _ => rfl) maps nodes

theorem consulted (ok : h.Episodic) {store : Recorded σ} (asked : Store.Asked h.store store) :
    Episodic { h with store } := by
  cases asked with
  | maps failed =>
      exact ok.of_same rfl (fun _ => rfl) (fun _ => rfl) (fun _ => rfl) (fun _ => rfl)
  | map map nothing =>
      refine ok.of_same rfl (fun q => ?_) (fun _ => rfl) (fun _ => rfl) (fun _ => rfl)
      have idle : (StoreCall.mapLoaded map (Store.loadMap h.store map).1).mapPhase? q = none := by
        rcases answer : (Store.loadMap h.store map).1 with _ | _ | diagram
        · rfl
        · rfl
        · exact absurd answer (nothing diagram)
      exact List.filterMap_cons_none idle
  | node node failed =>
      refine ok.of_same rfl (fun _ => rfl) (fun q => ?_) (fun _ => rfl) (fun _ => rfl)
      have idle : (StoreCall.nodeLoaded node (Store.loadNode h.store node).1).nodePhase? q =
          none := by rw [failed]; rfl
      exact List.filterMap_cons_none idle

/-- A map that is read from the store begins an episode. -/
theorem mapLoaded (ok : h.Episodic) {map : MapId} {diagram : Diagram} {store : Recorded σ}
    (closed : h.maps.get? map = none)
    (loaded : Store.loadMap h.store map = (.ok (some diagram), store)) (m : OpenMap) :
    (putMap { h with store } map m).Episodic := by
  have given : (Store.loadMap h.store.inner map).1 = .ok (some diagram) := congrArg Prod.fst loaded
  have called : store.calls = h.store.calls ++ [.mapLoaded map (.ok (some diagram))] := by
    have answer : (Store.loadMap h.store map).2 = store := congrArg Prod.snd loaded
    rw [← given, ← answer]
    rfl
  constructor
  · exact Episodes.insert ok.maps closed (Recorded.mapPhases_of_call called) m
  · intro node
    have phases := Recorded.nodePhases_of_call called node
    exact (phases.trans (List.append_nil _)) ▸ ok.nodes node

theorem nodeLoaded (ok : h.Episodic) {node : NodeId} {record : NodeRecord} {store : Recorded σ}
    (closed : h.nodes.get? node = none)
    (loaded : Store.loadNode h.store node = (.ok (some record), store)) (n : OpenNode) :
    (putNode { h with store } node n).Episodic := by
  have given : (Store.loadNode h.store.inner node).1 = .ok (some record) := congrArg Prod.fst loaded
  have called : store.calls = h.store.calls ++ [.nodeLoaded node (.ok (some record))] := by
    have answer : (Store.loadNode h.store node).2 = store := congrArg Prod.snd loaded
    rw [← given, ← answer]
    rfl
  constructor
  · intro map
    have phases := Recorded.mapPhases_of_call called map
    exact (phases.trans (List.append_nil _)) ▸ ok.maps map
  · exact Episodes.insert ok.nodes closed (Recorded.nodePhases_of_call called) n

/-- Whatever becomes of the save, writing a map back ends its episode. -/
theorem writeBackMap (ok : h.Episodic) (map : MapId) : (h.writeBackMap map).Episodic := by
  cases found : h.maps.get? map with
  | none =>
      rw [Hub.writeBackMap, found]
      exact ok
  | some m =>
      have called : (h.writeBackMap map).store.calls =
          h.store.calls ++ [.mapSaved map m.diagram (Store.saveMap h.store map m.diagram).1] := by
        rw [writeBackMap_of_get? found]
        rfl
      constructor
      · rw [maps_writeBackMap]
        exact Episodes.erase ok.maps found (Recorded.mapPhases_of_call called)
      · intro node
        rw [nodes_writeBackMap, Recorded.nodePhases_of_call called]
        exact (List.append_nil _).symm ▸ ok.nodes node

theorem writeBackNode (ok : h.Episodic) (node : NodeId) : (h.writeBackNode node).Episodic := by
  cases found : h.nodes.get? node with
  | none =>
      rw [Hub.writeBackNode, found]
      exact ok
  | some n =>
      have called : (h.writeBackNode node).store.calls = h.store.calls ++
          [.nodeSaved node n.record.fields (Store.saveNode h.store node n.record.fields).1] := by
        rw [writeBackNode_of_get? found]
        rfl
      constructor
      · intro map
        rw [maps_writeBackNode, Recorded.mapPhases_of_call called]
        exact (List.append_nil _).symm ▸ ok.maps map
      · rw [nodes_writeBackNode]
        exact Episodes.erase ok.nodes found (Recorded.nodePhases_of_call called)

end Episodic

/-- Every change keeps the episodes in order. -/
theorem Change.episodic {marks : List Mark} (change : Change h marks h') (ok : h.Episodic) :
    h'.Episodic := by
  cases change with
  | consulted asked => exact ok.consulted asked
  | mapsListed session listed =>
      have answer := congrArg Prod.snd listed
      subst answer
      exact ok.of_same rfl (fun _ => rfl) (fun _ => rfl) (fun _ => rfl) (fun _ => rfl)
  | nodeMissed session node closed missing =>
      have nothing : (Store.loadNode h.store.inner node).1 = .ok none := congrArg Prod.fst missing
      have answer := congrArg Prod.snd missing
      subst answer
      refine ok.of_same rfl (fun _ => rfl) (fun q => ?_) (fun _ => rfl) (fun _ => rfl)
      have idle : (StoreCall.nodeLoaded node (Store.loadNode h.store.inner node).1).nodePhase? q =
          none := by rw [nothing]; rfl
      exact List.filterMap_cons_none idle
  | amended id f keeps => exact ok.of_uncalled rfl (fun _ => rfl) fun _ => rfl
  | mapJoined session map m real known found =>
      exact ok.of_uncalled rfl (Table.contains_insert_of_get? found _) fun _ => rfl
  | mapLoaded session map real known closed loaded =>
      exact (ok.mapLoaded closed loaded _).of_uncalled rfl (fun _ => rfl) fun _ => rfl
  | mapEdited session map m edit old found member fits =>
      exact ok.of_uncalled rfl (Table.contains_insert_of_get? found _) fun _ => rfl
  | mapLeft session map m found member others =>
      exact ok.of_uncalled rfl (Table.contains_insert_of_get? found _) fun _ => rfl
  | mapGivenUp session map m found member last => exact ok.writeBackMap map
  | mapFlushed map => exact ok.writeBackMap map
  | nodeJoined session node n known found =>
      exact ok.of_uncalled rfl (fun _ => rfl) (Table.contains_insert_of_get? found _)
  | nodeLoaded session node known closed loaded =>
      exact (ok.nodeLoaded closed loaded _).of_uncalled rfl (fun _ => rfl) fun _ => rfl
  | nodeLocked node n s holder found free member known login host =>
      exact ok.of_uncalled rfl (fun _ => rfl) (Table.contains_insert_of_get? found _)
  | nodeUpdated session node n fields found held =>
      exact ok.of_uncalled rfl (fun _ => rfl) (Table.contains_insert_of_get? found _)
  | nodeUnlocked session node n found held =>
      exact ok.of_uncalled rfl (fun _ => rfl) (Table.contains_insert_of_get? found _)
  | nodeLeft session node n found member free others =>
      exact ok.of_uncalled rfl (fun _ => rfl) (Table.contains_insert_of_get? found _)
  | nodeGivenUp session node n found member free last => exact ok.writeBackNode node
  | nodeFlushed node => exact ok.writeBackNode node
  | sessionEnded session noMap noNode => exact ok.of_uncalled rfl (fun _ => rfl) fun _ => rfl
  | marksCleared => exact ok.of_uncalled rfl (fun _ => rfl) fun _ => rfl

/-- So does every act that makes sense. -/
theorem episodic_perform {a : Act} (enabled : a.Enabled h) (ok : h.Episodic) :
    (h.perform a).Episodic := by
  cases place : a.isOuter with
  | true =>
      obtain ⟨maps, nodes, store, _⟩ := h.shared_of_outer place
      exact ok.of_uncalled store (fun _ => by rw [maps]) fun _ => by rw [nodes]
  | false =>
      obtain ⟨_, _, trail⟩ := trail_act enabled place
      exact trail.keeps (fun change => change.episodic) ok

theorem episodic_performAll {acts : List Act} (enabled : Along Act.Enabled h acts)
    (ok : h.Episodic) : (h.performAll acts).Episodic :=
  performAll_keeps (fun _ _ => episodic_perform) enabled ok

/-- A question saves nothing. -/
theorem saves_consulted (h : Hub (Recorded σ)) (a : Act) : h.store.Saves (h.consulted a) [] [] := by
  cases a with
  | answer session now frame =>
      rw [consulted]
      cases Request.ofFrame? frame with
      | none => exact .refl _
      | some request =>
          cases request with
          | getMapList => exact ⟨[_], rfl, rfl, rfl⟩
          | openMap map =>
              dsimp only [asked]
              split
              · exact .refl _
              · exact ⟨[_], rfl, rfl, rfl⟩
          | openNode node =>
              dsimp only [asked]
              split
              · exact .refl _
              · exact ⟨[_], rfl, rfl, rfl⟩
          | _ => exact .refl _
  | _ => exact .refl _

/-- The saves of an act are of what it gives up. -/
theorem saves_perform (h : Hub (Recorded σ)) (a : Act) :
    h.store.Saves (h.perform a).store (h.mapsGivenUp a) (h.nodesGivenUp a) := by
  rw [store_perform]
  have both := ((h.saves_consulted a).trans (.saveMaps _ (h.mapsGivenUp a))).trans
    (.saveNodes _ (h.nodesGivenUp a))
  rwa [List.nil_append, List.append_nil, List.nil_append] at both

end Hub

/-- A run over any store whose calls are recorded is the run over the store itself.  At any moment of
it, the readings and saves of a map or node take turns, beginning with a reading that brings the
contents, and the last one is a reading exactly while the map or node is open.  What an act saves is
what was open for a single session that ends or closes it, or what was open at the shutdown: each once
and with its contents at that moment, and whether or not the save succeeds. -/
theorem episodes_of_run {σ : Type} [Store σ] (store : σ) (maxFrameSize : Nat) (moves : List Move) :
    let e := Engine.start (Recorded.mk store []) maxFrameSize
    (e.after moves).seen Recorded.inner = (Engine.start store maxFrameSize).after moves ∧
    (e.after moves).hub = e.hub.performAll (e.acts moves) ∧
    ∀ performed : Nat,
      let h := e.hub.performAll ((e.acts moves).take performed)
      (∀ map, (h.store.mapPhases map).IsChain (· ≠ ·) ∧
        (h.store.mapPhases map).head? ≠ some .saved ∧
        ((h.store.mapPhases map).getLast? = some .loaded ↔ ∃ m, h.maps.get? map = some m)) ∧
      (∀ node, (h.store.nodePhases node).IsChain (· ≠ ·) ∧
        (h.store.nodePhases node).head? ≠ some .saved ∧
        ((h.store.nodePhases node).getLast? = some .loaded ↔ ∃ n, h.nodes.get? node = some n)) ∧
      ∀ a, ∃ calls, (h.perform a).store.calls = h.store.calls ++ calls ∧
        ((calls.filterMap StoreCall.mapSave?).map Prod.fst).Nodup ∧
        (∀ map contents, (map, contents) ∈ calls.filterMap StoreCall.mapSave? ↔
          ∃ m, h.maps.get? map = some m ∧ m.diagram = contents ∧
            (a = .flush ∨ ∃ session, m.subscribers.members = [session] ∧
              (a = .finish session ∨ ∃ now frame, a = .answer session now frame ∧
                Request.ofFrame? frame = some (.closeMap map)))) ∧
        ((calls.filterMap StoreCall.nodeSave?).map Prod.fst).Nodup ∧
        ∀ node fields, (node, fields) ∈ calls.filterMap StoreCall.nodeSave? ↔
          ∃ n, h.nodes.get? node = some n ∧ n.record.fields = fields ∧
            (a = .flush ∨ ∃ session, n.subscribers.members = [session] ∧
              (a = .finish session ∨ ∃ now frame, a = .answer session now frame ∧
                Request.ofFrame? frame = some (.closeNode node))) := by
  intro e
  refine ⟨?_, e.hub_after moves, ?_⟩
  · exact (e.after_seen Recorded.mirrors moves).symm
  · intro performed h
    have enabled := e.enabled_acts moves
    rw [← List.take_append_drop performed (e.acts moves)] at enabled
    have start : e.hub.Episodic := ⟨fun _ => .none, fun _ => .none⟩
    have ok : h.Episodic := Hub.episodic_performAll (Hub.along_append.mp enabled).1 start
    refine ⟨fun map => ?_, fun node => ?_, fun a => ?_⟩
    · obtain ⟨alternate, first, last⟩ := ok.maps map
      rw [Table.contains_eq_isSome, Option.isSome_iff_exists] at last
      exact ⟨alternate, first, last⟩
    · obtain ⟨alternate, first, last⟩ := ok.nodes node
      rw [Table.contains_eq_isSome, Option.isSome_iff_exists] at last
      exact ⟨alternate, first, last⟩
    · obtain ⟨calls, called, maps, nodes⟩ := h.saves_perform a
      refine ⟨calls, called, ?_, ?_, ?_, ?_⟩
      · rw [maps]
        exact h.nodup_mapsGivenUp a
      · intro map contents
        simp only [maps, Hub.mem_mapsGivenUp_iff, Act.givesUp_iff]
      · rw [nodes]
        exact h.nodup_nodesGivenUp a
      · intro node fields
        simp only [nodes, Hub.mem_nodesGivenUp_iff, Act.givesUp_iff]

end TopoSync
