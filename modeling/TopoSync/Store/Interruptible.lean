import TopoSync.Store.Basic

/-!
# A store that can be interrupted

While causes are given, every read of the store fails with them; writes go through.
-/

namespace TopoSync

/-- A store and the causes why it cannot be read, none while it can. -/
structure Interruptible (σ : Type) where
  inner : σ
  causes : List String := []

namespace Interruptible

variable {σ : Type}

/-- Reads the inner store, unless reading is interrupted. -/
def read {α : Type} (s : Interruptible σ) (step : σ → Except StoreError α × σ) :
    Except StoreError α × Interruptible σ :=
  if s.causes.isEmpty then
    let answer := step s.inner
    (answer.1, { s with inner := answer.2 })
  else (.error (.unreadable s.causes), s)

/-- Writes to the inner store. -/
def write {α : Type} (s : Interruptible σ) (step : σ → Except StoreError α × σ) :
    Except StoreError α × Interruptible σ :=
  let answer := step s.inner
  (answer.1, { s with inner := answer.2 })

instance [Store σ] : Store (Interruptible σ) where
  listMaps s := s.read Store.listMaps
  loadMap s map := s.read fun inner => Store.loadMap inner map
  saveMap s map contents := s.write fun inner => Store.saveMap inner map contents
  loadNode s node := s.read fun inner => Store.loadNode inner node
  saveNode s node fields := s.write fun inner => Store.saveNode inner node fields

end Interruptible

end TopoSync
