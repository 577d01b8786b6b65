import Mathlib
import TopoSync.Proofs.Deeds
import TopoSync.Store.Memory

/-!
# Nothing is lost and nothing is invented

What a map or node contains is what its open copy contains, or what the store keeps if nobody has it
open.  With a store in memory that takes what it is given, this changes by deeds and by nothing else:
opening reads back what the last one out has written, a copy that is written back replaces what it was
read from, and writing keeps the names of maps and the interfaces of nodes.
-/

namespace TopoSync

/-- What maps and nodes contain, and what the store keeps beside it. -/
@[ext]
structure Holdings where
  diagram? : MapId → Option Diagram
  record? : NodeId → Option NodeRecord
  /-- The name of a map in the store. -/
  mapName? : MapId → Option String
  /-- The interfaces of a node in the store. -/
  interfaces? : NodeId → Option (List Interface)

namespace Deed

/-- The new fields that a deed gives a node. -/
def fieldsOf? (node : NodeId) : Deed → Option NodeFields
  | edited .. => none
  | fieldsSet q fields => if q = node then some fields else none

end Deed

namespace Holdings

/-- The holdings after a deed. -/
def after (k : Holdings) : Deed → Holdings
  | .edited map edit =>
      { k with
        diagram? := Function.update k.diagram? map ((k.diagram? map).map fun d => d.edited edit) }
  | .fieldsSet node fields =>
      { k with
        record? := Function.update k.record? node
          ((k.record? node).map fun r => { r with fields }) }

/-- The holdings after some deeds, one after the other. -/
def afterAll (k : Holdings) (deeds : List Deed) : Holdings :=
  deeds.foldl after k

/-- A map contains what it contained, with its edits made in order. -/
theorem diagram?_afterAll (k : Holdings) (deeds : List Deed) (map : MapId) :
    (k.afterAll deeds).diagram? map =
      (k.diagram? map).map fun d => (deeds.filterMap (Deed.editOf? map)).foldl Diagram.edited d := by
  induction deeds generalizing k with
  | nil => simp [afterAll]
  | cons d rest ih =>
      rw [afterAll, List.foldl_cons, ← afterAll, ih]
      cases d with
      | fieldsSet node fields => rfl
      | edited q edit =>
          by_cases here : q = map
          · subst here
            simp [after, Deed.editOf?, Function.comp_def]
          · simp [after, Deed.editOf?, here, Function.update_of_ne (Ne.symm here)]

/-- A node has the fields that it was given last. -/
theorem record?_afterAll (k : Holdings) (deeds : List Deed) (node : NodeId) :
    (k.afterAll deeds).record? node =
      (k.record? node).map fun r =>
        { r with fields := (deeds.filterMap (Deed.fieldsOf? node)).getLast?.getD r.fields } := by
  induction deeds generalizing k with
  | nil => simp [afterAll]
  | cons d rest ih =>
      rw [afterAll, List.foldl_cons, ← afterAll, ih]
      cases d with
      | edited map edit => rfl
      | fieldsSet q fields =>
          by_cases here : q = node
          · subst here
            simp [after, Deed.fieldsOf?, Function.comp_def, List.getLast?_cons]
          · simp [after, Deed.fieldsOf?, here, Function.update_of_ne (Ne.symm here)]

/-- No deed concerns the names of maps and the interfaces of nodes in the store. -/
theorem kept_afterAll (k : Holdings) (deeds : List Deed) :
    (k.afterAll deeds).mapName? = k.mapName? ∧ (k.afterAll deeds).interfaces? = k.interfaces? := by
  induction deeds generalizing k with
  | nil => exact ⟨rfl, rfl⟩
  | cons d rest ih =>
      have same : (k.after d).mapName? = k.mapName? ∧ (k.after d).interfaces? = k.interfaces? := by
        cases d <;> exact ⟨rfl, rfl⟩
      exact ⟨(ih (k.after d)).1.trans same.1, (ih (k.after d)).2.trans same.2⟩

end Holdings

namespace MemoryStore

theorem get?_maps_putMap (m : MemoryStore) (map : MapId) (contents : Diagram) (q : MapId) :
    (m.putMap map contents).maps.get? q =
      if q = map then some (((m.maps.get? map).map Prod.fst).getD "", contents)
      else m.maps.get? q :=
  Table.get?_insert _ _ _ _

theorem get?_nodes_putNode (m : MemoryStore) (node : NodeId) (fields : NodeFields) (q : NodeId) :
    (m.putNode node fields).nodes.get? q =
      if q = node then some { (m.nodes.get? node).getD {} with fields } else m.nodes.get? q :=
  Table.get?_insert _ _ _ _

theorem saveMap_of_taking {m : MemoryStore} (taking : m.refusing = false) (map : MapId)
    (contents : Diagram) : Store.saveMap m map contents = (.ok (), m.putMap map contents) := by
  simp [Store.saveMap, taking]

theorem saveNode_of_taking {m : MemoryStore} (taking : m.refusing = false) (node : NodeId)
    (fields : NodeFields) : Store.saveNode m node fields = (.ok (), m.putNode node fields) := by
  simp [Store.saveNode, taking]

/-- What a store in memory keeps. -/
def holdings (m : MemoryStore) : Holdings where
  diagram? map := (m.maps.get? map).map Prod.snd
  record? node := m.nodes.get? node
  mapName? map := (m.maps.get? map).map Prod.fst
  interfaces? node := (m.nodes.get? node).map NodeRecord.interfaces

end MemoryStore

namespace Hub

/-- What maps and nodes contain: their open copies, or what the store keeps. -/
def holdings (h : Hub MemoryStore) : Holdings :=
  { h.store.holdings with
    diagram? := fun map => ((h.maps.get? map).map OpenMap.diagram).or (h.store.holdings.diagram? map)
    record? := fun node =>
      ((h.nodes.get? node).map OpenNode.record).or (h.store.holdings.record? node) }

/-- Whether the store takes what it is given, and keeps a map or node with the same interfaces for
everything that is open. -/
structure Backed (h : Hub MemoryStore) : Prop where
  taking : h.store.refusing = false
  map_kept : ∀ map m, h.maps.get? map = some m → ∃ kept, h.store.maps.get? map = some kept
  node_kept : ∀ node n, h.nodes.get? node = some n →
    ∃ kept, h.store.nodes.get? node = some kept ∧ kept.interfaces = n.record.interfaces

variable {h : Hub MemoryStore}

theorem holdings_putMap (h : Hub MemoryStore) (map : MapId) (m : OpenMap) :
    (h.putMap map m).holdings =
      { h.holdings with diagram? := Function.update h.holdings.diagram? map (some m.diagram) } := by
  refine Holdings.ext (funext fun q => ?_) rfl rfl rfl
  by_cases here : q = map
  · subst here
    simp [holdings, Table.get?_insert_self]
  · simp [holdings, Table.get?_insert_of_ne here, Function.update_of_ne here]

theorem holdings_putNode (h : Hub MemoryStore) (node : NodeId) (n : OpenNode) :
    (h.putNode node n).holdings =
      { h.holdings with record? := Function.update h.holdings.record? node (some n.record) } := by
  refine Holdings.ext rfl (funext fun q => ?_) rfl rfl
  by_cases here : q = node
  · subst here
    simp [holdings, Table.get?_insert_self]
  · simp [holdings, Table.get?_insert_of_ne here, Function.update_of_ne here]

theorem diagram?_of_closed {map : MapId} (closed : h.maps.get? map = none) :
    h.holdings.diagram? map = (h.store.maps.get? map).map Prod.snd := by
  simp [holdings, closed, MemoryStore.holdings]

theorem record?_of_closed {node : NodeId} (closed : h.nodes.get? node = none) :
    h.holdings.record? node = h.store.nodes.get? node := by
  simp [holdings, closed, MemoryStore.holdings]

theorem diagram?_of_get? {map : MapId} {m : OpenMap} (found : h.maps.get? map = some m) :
    h.holdings.diagram? map = some m.diagram := by
  simp [holdings, found]

theorem record?_of_get? {node : NodeId} {n : OpenNode} (found : h.nodes.get? node = some n) :
    h.holdings.record? node = some n.record := by
  simp [holdings, found]

namespace Backed

theorem start {store : MemoryStore} (taking : store.refusing = false) :
    Backed { store } where
  taking := taking
  map_kept _ _ found := nomatch found
  node_kept _ _ found := nomatch found

theorem post (ok : h.Backed) (letters : List Letter) : (h.post letters).Backed :=
  ⟨ok.taking, ok.map_kept, ok.node_kept⟩

theorem amend (ok : h.Backed) (id : SessionId) (f : Session → Session) : (h.amend id f).Backed :=
  ⟨ok.taking, ok.map_kept, ok.node_kept⟩

theorem putMap (ok : h.Backed) {map : MapId} (m : OpenMap)
    (kept : ∃ kept, h.store.maps.get? map = some kept) : (h.putMap map m).Backed where
  taking := ok.taking
  map_kept := Table.holds_insert
    (P := fun q _ => ∃ kept, h.store.maps.get? q = some kept) kept ok.map_kept
  node_kept := ok.node_kept

theorem putNode (ok : h.Backed) {node : NodeId} (n : OpenNode)
    (kept : ∃ kept, h.store.nodes.get? node = some kept ∧ kept.interfaces = n.record.interfaces) :
    (h.putNode node n).Backed where
  taking := ok.taking
  map_kept := ok.map_kept
  node_kept := Table.holds_insert
    (P := fun q (n : OpenNode) => ∃ kept, h.store.nodes.get? q = some kept ∧
      kept.interfaces = n.record.interfaces) kept ok.node_kept

theorem writeBackMap (ok : h.Backed) (map : MapId) : (h.writeBackMap map).Backed := by
  cases found : h.maps.get? map with
  | none =>
      rw [Hub.writeBackMap, found]
      exact ok
  | some m =>
      rw [writeBackMap_of_get? found, MemoryStore.saveMap_of_taking ok.taking]
      refine ⟨ok.taking, ?_, ok.node_kept⟩
      refine Table.holds_erase (P := fun q _ => ∃ kept, (h.store.putMap map m.diagram).maps.get? q =
        some kept) fun q m' open' => ?_
      rw [MemoryStore.get?_maps_putMap]
      split
      · exact ⟨_, rfl⟩
      · exact ok.map_kept q m' open'

theorem writeBackNode (ok : h.Backed) (node : NodeId) : (h.writeBackNode node).Backed := by
  cases found : h.nodes.get? node with
  | none =>
      rw [Hub.writeBackNode, found]
      exact ok
  | some n =>
      rw [writeBackNode_of_get? found, MemoryStore.saveNode_of_taking ok.taking]
      refine ⟨ok.taking, ok.map_kept, fun q n' open' => ?_⟩
      have other : q ≠ node := by
        rintro rfl
        rw [Table.get?_erase, if_pos rfl] at open'
        cases open'
      rw [Table.get?_erase, if_neg other] at open'
      rw [MemoryStore.get?_nodes_putNode, if_neg other]
      exact ok.node_kept q n' open'

end Backed

/-- Writing a map back puts its contents where they count from then on, under its name. -/
theorem holdings_writeBackMap (ok : h.Backed) (map : MapId) :
    (h.writeBackMap map).holdings = h.holdings := by
  cases found : h.maps.get? map with
  | none => rw [writeBackMap, found]
  | some m =>
      obtain ⟨kept, stored⟩ := ok.map_kept map m found
      rw [writeBackMap_of_get? found, MemoryStore.saveMap_of_taking ok.taking]
      refine Holdings.ext (funext fun q => ?_) rfl (funext fun q => ?_) rfl
      · by_cases here : q = map
        · subst here
          simp [holdings, MemoryStore.holdings, MemoryStore.get?_maps_putMap, Table.get?_erase, found]
        · simp [holdings, MemoryStore.holdings, MemoryStore.get?_maps_putMap, Table.get?_erase, here]
      · by_cases here : q = map
        · subst here
          simp [holdings, MemoryStore.holdings, MemoryStore.get?_maps_putMap, stored]
        · simp [holdings, MemoryStore.holdings, MemoryStore.get?_maps_putMap, here]

/-- Writing a node back puts its fields where they count from then on, with its interfaces. -/
theorem holdings_writeBackNode (ok : h.Backed) (node : NodeId) :
    (h.writeBackNode node).holdings = h.holdings := by
  cases found : h.nodes.get? node with
  | none => rw [writeBackNode, found]
  | some n =>
      obtain ⟨kept, stored, interfaces⟩ := ok.node_kept node n found
      rw [writeBackNode_of_get? found, MemoryStore.saveNode_of_taking ok.taking]
      refine Holdings.ext rfl (funext fun q => ?_) rfl (funext fun q => ?_)
      · by_cases here : q = node
        · subst here
          simp [holdings, MemoryStore.holdings, MemoryStore.get?_nodes_putNode, Table.get?_erase,
            found, stored, interfaces]
        · simp [holdings, MemoryStore.holdings, MemoryStore.get?_nodes_putNode, Table.get?_erase,
            here]
      · by_cases here : q = node
        · subst here
          simp [holdings, MemoryStore.holdings, MemoryStore.get?_nodes_putNode, stored]
        · simp [holdings, MemoryStore.holdings, MemoryStore.get?_nodes_putNode, here]

/-- An open copy with the contents that a map has anyway makes no difference. -/
theorem Backed.reopenMap (ok : h.Backed) {map : MapId} {diagram : Diagram}
    (kept : ∃ kept, h.store.maps.get? map = some kept)
    (same : h.holdings.diagram? map = some diagram) (subscribers : Roster) (letters : List Letter) :
    ((h.putMap map ⟨diagram, subscribers⟩).post letters).Backed ∧
      ((h.putMap map ⟨diagram, subscribers⟩).post letters).holdings = h.holdings := by
  refine ⟨(ok.putMap _ kept).post letters, (holdings_putMap h map _).trans ?_⟩
  rw [← same, Function.update_eq_self]

theorem Backed.reopenNode (ok : h.Backed) {node : NodeId} {record : NodeRecord}
    (kept : ∃ kept, h.store.nodes.get? node = some kept ∧ kept.interfaces = record.interfaces)
    (same : h.holdings.record? node = some record) (holder : Option Holder) (subscribers : Roster)
    (letters : List Letter) :
    ((h.putNode node ⟨record, holder, subscribers⟩).post letters).Backed ∧
      ((h.putNode node ⟨record, holder, subscribers⟩).post letters).holdings = h.holdings := by
  refine ⟨(ok.putNode _ kept).post letters, (holdings_putNode h node _).trans ?_⟩
  rw [← same, Function.update_eq_self]

/-- Reading changes nothing in a store in memory. -/
theorem eq_of_asked {store store' : MemoryStore} (asked : Store.Asked store store') :
    store' = store := by
  cases asked <;> rfl

/-- A change alters the holdings by its deed, if it is one, and by nothing else. -/
theorem Change.holdings {h' : Hub MemoryStore} {marks : List Mark} (change : Change h marks h')
    (ok : h.Backed) : h'.Backed ∧ h'.holdings = h.holdings.afterAll (deedsIn marks) := by
  cases change with
  | consulted asked =>
      obtain rfl := eq_of_asked asked
      exact ⟨ok, rfl⟩
  | mapsListed session listed =>
      cases listed
      exact ⟨ok.post _, rfl⟩
  | nodeMissed session node closed missing =>
      obtain rfl : h.store = _ := congrArg Prod.snd missing
      exact ⟨ok.post _, rfl⟩
  | amended id f keeps => exact ⟨ok.amend id f, rfl⟩
  | mapJoined session map m real known found =>
      exact ok.reopenMap (ok.map_kept map m found) (diagram?_of_get? found) _ _
  | mapLoaded session map real known closed loaded =>
      obtain rfl : h.store = _ := congrArg Prod.snd loaded
      have stored := Except.ok.inj (congrArg Prod.fst loaded)
      obtain ⟨kept, found, _⟩ := Option.map_eq_some_iff.mp stored
      exact ok.reopenMap ⟨kept, found⟩ ((diagram?_of_closed closed).trans stored) _ _
  | mapEdited session map m edit old found member fits =>
      refine ⟨(ok.putMap _ (ok.map_kept map m found)).post _,
        (holdings_putMap h map _).trans ?_⟩
      rw [deedsIn_deed, deedsIn_letters, Holdings.afterAll, List.foldl_cons, List.foldl_nil,
        Holdings.after, diagram?_of_get? found]
      rfl
  | mapLeft session map m found member others =>
      exact ok.reopenMap (ok.map_kept map m found) (diagram?_of_get? found) _ []
  | mapGivenUp session map m found member last =>
      exact ⟨ok.writeBackMap map, holdings_writeBackMap ok map⟩
  | mapFlushed map => exact ⟨ok.writeBackMap map, holdings_writeBackMap ok map⟩
  | nodeJoined session node n known found =>
      exact ok.reopenNode (ok.node_kept node n found) (record?_of_get? found) _ _ _
  | nodeLoaded session node known closed loaded =>
      obtain rfl : h.store = _ := congrArg Prod.snd loaded
      have stored := Except.ok.inj (congrArg Prod.fst loaded)
      exact ok.reopenNode ⟨_, stored, rfl⟩ ((record?_of_closed closed).trans stored) _ _ _
  | nodeLocked node n s holder found free member known login host =>
      rw [deedsIn_letters]
      exact ok.reopenNode (ok.node_kept node n found) (record?_of_get? found) _ _ _
  | nodeUpdated session node n fields found held =>
      let renewed : OpenNode := { n with record := { n.record with fields } }
      refine ⟨(ok.putNode renewed (ok.node_kept node n found)).post _,
        (holdings_putNode h node renewed).trans ?_⟩
      rw [deedsIn_deed, deedsIn_letters, Holdings.afterAll, List.foldl_cons, List.foldl_nil,
        Holdings.after, record?_of_get? found]
      rfl
  | nodeUnlocked session node n found held =>
      rw [deedsIn_letters]
      exact ok.reopenNode (ok.node_kept node n found) (record?_of_get? found) _ _ _
  | nodeLeft session node n found member free others =>
      exact ok.reopenNode (ok.node_kept node n found) (record?_of_get? found) _ _ []
  | nodeGivenUp session node n found member free last =>
      exact ⟨ok.writeBackNode node, holdings_writeBackNode ok node⟩
  | nodeFlushed node => exact ⟨ok.writeBackNode node, holdings_writeBackNode ok node⟩
  | sessionEnded session noMap noNode => exact ⟨⟨ok.taking, ok.map_kept, ok.node_kept⟩, rfl⟩
  | marksCleared => exact ⟨⟨ok.taking, ok.map_kept, ok.node_kept⟩, rfl⟩

theorem Trail.holdings {h' : Hub MemoryStore} {marks : List Mark} (trail : Trail h marks h')
    (ok : h.Backed) : h'.Backed ∧ h'.holdings = h.holdings.afterAll (deedsIn marks) := by
  induction trail with
  | still h => exact ⟨ok, rfl⟩
  | step change _ ih =>
      obtain ⟨backed, first⟩ := change.holdings ok
      obtain ⟨backed, rest⟩ := ih backed
      refine ⟨backed, ?_⟩
      rw [rest, first, deedsIn_append, Holdings.afterAll, Holdings.afterAll, Holdings.afterAll,
        List.foldl_append]

/-- So does an act. -/
theorem holdings_perform {a : Act} (enabled : a.Enabled h) (ok : h.Backed) :
    (h.perform a).Backed ∧
      (h.perform a).holdings = h.holdings.afterAll (h.deedDone? a).toList := by
  cases outer : a.isOuter with
  | true =>
      obtain ⟨maps, nodes, store, none⟩ := h.shared_of_outer outer
      rw [none]
      refine ⟨⟨?_, ?_, ?_⟩, ?_⟩
      · rw [store]
        exact ok.taking
      · rw [maps, store]
        exact ok.map_kept
      · rw [nodes, store]
        exact ok.node_kept
      · rw [Hub.holdings, maps, nodes, store]
        rfl
  | false =>
      obtain ⟨letters, ends, trail⟩ := trail_act enabled outer
      have changed := trail.holdings ok
      rwa [deedsIn_append, deedsIn_append, deedsIn_letters, deedsIn_ends, List.append_nil,
        List.append_nil, deedsIn_deedMarksOf] at changed

/-- So do the acts of a row, one after the other. -/
theorem holdings_performAll {acts : List Act} (enabled : Along Act.Enabled h acts)
    (ok : h.Backed) :
    (h.performAll acts).Backed ∧
      (h.performAll acts).holdings = h.holdings.afterAll (h.deeds acts) := by
  induction acts generalizing h with
  | nil => exact ⟨ok, rfl⟩
  | cons a rest ih =>
      obtain ⟨backed, first⟩ := holdings_perform enabled.1 ok
      obtain ⟨backed, others⟩ := ih enabled.2 backed
      refine ⟨backed, ?_⟩
      rw [performAll_cons, others, first, deeds, Holdings.afterAll, Holdings.afterAll,
        Holdings.afterAll, List.foldl_append]

end Hub

/-- The engine that has dealt with a list of events has dealt with those before the first shutdown, and
then shut down. -/
theorem Engine.run_eq_shutdown {σ : Type} [Store σ] (e : Engine σ) (events : List Event) :
    e.run events =
      (e.after ((events.takeWhile fun event => event ≠ .shutdown).map .event)).shutdown := by
  induction events generalizing e with
  | nil => rfl
  | cons event rest ih =>
      cases event with
      | shutdown => rfl
      | _ => exact ih _

/-- With a store in memory that takes what it is given, at the end of every run: a map contains what
the store kept at the start, with the edits among the deeds of the run made in order; a node has the
fields that a deed gave it last, and otherwise those from the start, with the interfaces from the
start; the store has the same names of maps and interfaces of nodes.  An act that is not a deed changes
none of this, and one that is a deed changes what the deed says.  After a shutdown nothing is open and
the store keeps everything, and this is how an engine leaves any list of events. -/
theorem holdings_of_run (store : MemoryStore) (taking : store.refusing = false) (maxFrameSize : Nat)
    (moves : List Move) :
    let e := Engine.start store maxFrameSize
    let last := (e.after moves).hub.holdings
    (∀ map, last.diagram? map =
      (store.holdings.diagram? map).map fun d =>
        ((e.deeds moves).filterMap (Deed.editOf? map)).foldl Diagram.edited d) ∧
    (∀ node, last.record? node =
      (store.holdings.record? node).map fun r =>
        { r with
          fields := ((e.deeds moves).filterMap (Deed.fieldsOf? node)).getLast?.getD r.fields }) ∧
    last.mapName? = store.holdings.mapName? ∧
    last.interfaces? = store.holdings.interfaces? ∧
    (∀ done a rest, e.acts moves = done ++ a :: rest →
      let h := e.hub.performAll done
      (h.perform a).holdings = (h.deedDone? a).elim h.holdings h.holdings.after) ∧
    (let closed := (e.after moves).shutdown.hub
     closed.maps = ∅ ∧ closed.nodes = ∅ ∧ closed.store.holdings = last) ∧
    ∀ events,
      e.run events =
        (e.after ((events.takeWhile fun event => event ≠ .shutdown).map .event)).shutdown := by
  intro e last
  have backed : e.hub.Backed := Hub.Backed.start taking
  obtain ⟨kept, all⟩ := Hub.holdings_performAll (e.enabled_acts moves) backed
  rw [← e.hub_after] at kept all
  have start : e.hub.holdings = store.holdings := rfl
  have all : last = store.holdings.afterAll (e.deeds moves) := all
  refine ⟨fun map => ?_, fun node => ?_, ?_, ?_, ?_, ?_, e.run_eq_shutdown⟩
  · rw [all, Holdings.diagram?_afterAll]
  · rw [all, Holdings.record?_afterAll]
  · rw [all, (Holdings.kept_afterAll _ _).1]
  · rw [all, (Holdings.kept_afterAll _ _).2]
  · intro done a rest performed h
    have enabled := e.enabled_acts moves
    rw [performed] at enabled
    obtain ⟨before, here, _⟩ := Hub.along_append.mp enabled
    obtain ⟨backed, _⟩ := Hub.holdings_performAll before backed
    rw [(Hub.holdings_perform here backed).2]
    cases (e.hub.performAll done).deedDone? a <;> rfl
  · have flushed := (Hub.holdings_perform (a := .flush) trivial kept).2
    have maps := (e.after moves).hub.maps_flush
    have nodes := (e.after moves).hub.nodes_flush
    refine ⟨maps, nodes, Eq.trans ?_ flushed⟩
    rw [Hub.holdings, Hub.perform, maps, nodes]
    rfl

/-- A store with a map and a node. -/
def planAndSwitch : MemoryStore :=
  (MemoryStore.insertMap {} 1 "plan" {}).insertNode 5 ⟨{ name := "switch" }, [{ id := 1 }]⟩

/-- A session adds a symbol, closes the map, opens it again and moves the symbol; then it renames the
node, and goes. -/
def addAndLeave : List Move :=
  [.event (.connected ⟨1⟩ "a" .staying),
    .event (.data ⟨1⟩ (Frame.build .openMap [.signed 1]).bytes 0),
    .event (.data ⟨1⟩ (Frame.build .addSymbol [.signed 1, .signed (-1), .signed 3, .signed 4]).bytes 0),
    .event (.data ⟨1⟩ (Frame.build .closeMap [.signed 1]).bytes 0),
    .event (.data ⟨1⟩ (Frame.build .openMap [.signed 1]).bytes 0),
    .event (.data ⟨1⟩
      (Frame.build .translateSymbol [.signed 1, .signed (-1), .signed 1, .signed 1]).bytes 0),
    .event (.data ⟨1⟩ (Frame.build .openNode [.word 5]).bytes 0),
    .event (.data ⟨1⟩ (Frame.build .lockNode [.word 5]).bytes 0),
    .event (.data ⟨1⟩
      (Frame.build .setNode (.word 5 :: NodeFields.wireFields { name := "core" })).bytes 0),
    .event (.disconnected ⟨1⟩)]

theorem holdings_of_run_addAndLeave :
    planAndSwitch.refusing = false ∧
      ((Engine.start planAndSwitch 1000).after addAndLeave).hub.holdings.diagram? 1 =
        some { symbols := [Symbol.placed 1 4 5] } ∧
      ((Engine.start planAndSwitch 1000).after addAndLeave).shutdown.hub.store.holdings.record? 5 =
        some ⟨{ name := "core" }, [{ id := 1 }]⟩ := by
  obtain ⟨maps, nodes, _, _, _, ⟨_, _, closed⟩, _⟩ :=
    holdings_of_run planAndSwitch rfl 1000 addAndLeave
  refine ⟨rfl, (maps 1).trans ?_, ?_⟩
  · cbv
  · rw [closed, nodes 5]
    cbv

end TopoSync
