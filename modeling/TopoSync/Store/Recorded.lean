import TopoSync.Store.Basic

/-!
# A store that records its calls

Every call is passed on to another store and noted down together with the answer that it got.  The
answers are those of the inner store, so whoever uses the store does the same with and without the
record.
-/

namespace TopoSync

/-- A call of a store and the answer to it. -/
inductive StoreCall
  | mapsListed (answer : Except StoreError (List MapEntry))
  | mapLoaded (map : MapId) (answer : Except StoreError (Option Diagram))
  | mapSaved (map : MapId) (contents : Diagram) (answer : Except StoreError Unit)
  | nodeLoaded (node : NodeId) (answer : Except StoreError (Option NodeRecord))
  | nodeSaved (node : NodeId) (fields : NodeFields) (answer : Except StoreError Unit)

/-- A store with the calls that it got, oldest first. -/
structure Recorded (σ : Type) where
  inner : σ
  calls : List StoreCall := []

namespace Recorded

variable {σ : Type}

/-- Passes a call on and notes it down. -/
def call {α : Type} (s : Recorded σ) (step : σ → α × σ) (note : α → StoreCall) : α × Recorded σ :=
  let answer := step s.inner
  (answer.1, ⟨answer.2, s.calls ++ [note answer.1]⟩)

instance [Store σ] : Store (Recorded σ) where
  listMaps s := s.call Store.listMaps .mapsListed
  loadMap s map := s.call (fun inner => Store.loadMap inner map) (.mapLoaded map)
  saveMap s map contents :=
    s.call (fun inner => Store.saveMap inner map contents) (.mapSaved map contents)
  loadNode s node := s.call (fun inner => Store.loadNode inner node) (.nodeLoaded node)
  saveNode s node fields :=
    s.call (fun inner => Store.saveNode inner node fields) (.nodeSaved node fields)

end Recorded

end TopoSync
