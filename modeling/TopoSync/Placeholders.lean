import TopoSync.Diagram
import TopoSync.Table

/-!
# Placeholders

A session that adds an element gives it a negative number of its own choice, a placeholder, and goes
on using it until it has learnt the permanent number.  A table of placeholders remembers which
permanent number each of them stands for.
-/

namespace TopoSync

/-- Why a placeholder could not be recorded or forgotten. -/
inductive PlaceholderError
  | notNegative (id : ElementId)
  | taken (old existing : ElementId)
  | unmapped (old : ElementId)
  | mismatch (old expected actual : ElementId)
deriving DecidableEq, Repr

/-- The text of an error. -/
def PlaceholderError.message : PlaceholderError → String
  | notNegative id => s!"placeholder {id} is not negative"
  | taken old existing => s!"placeholder {old} already mapped to {existing}"
  | unmapped old => s!"placeholder {old} is not mapped"
  | mismatch old expected actual => s!"placeholder {old} maps to {actual}, not {expected}"

/-- The placeholders of one session for one kind of element. -/
structure Placeholders where
  /-- What the placeholders stand for. -/
  label : String := ""
  table : Table ElementId ElementId := ∅
deriving DecidableEq, Repr

namespace Placeholders

/-- How many placeholders are recorded. -/
def size (p : Placeholders) : Nat :=
  p.table.size

/-- Records that `old` stands for `new`. -/
def insert (p : Placeholders) (old new : ElementId) : Except PlaceholderError Placeholders :=
  if 0 ≤ old then .error (.notNegative old)
  else match p.table.get? old with
    | some existing => .error (.taken old existing)
    | none => .ok { p with table := p.table.insert old new }

/-- Forgets that `old` stands for `new`. -/
def erase (p : Placeholders) (old new : ElementId) : Except PlaceholderError Placeholders :=
  match p.table.get? old with
  | none => .error (.unmapped old)
  | some actual =>
      if actual = new then .ok { p with table := p.table.erase old }
      else .error (.mismatch old new actual)

/-- The permanent number behind a number.  Permanent numbers and unknown placeholders stand for
themselves. -/
def resolve (p : Placeholders) (old : ElementId) : ElementId :=
  if 0 ≤ old then old else (p.table.get? old).getD old

theorem resolve_of_nonneg {p : Placeholders} {id : ElementId} (h : 0 ≤ id) : p.resolve id = id := by
  rw [resolve, if_pos h]

/-- A number that stands for another one is a recorded placeholder. -/
theorem get?_of_resolve_ne {p : Placeholders} {id : ElementId} (h : p.resolve id ≠ id) :
    p.table.get? id = some (p.resolve id) := by
  unfold resolve at h ⊢
  split at h
  · exact absurd rfl h
  · rename_i negative
    rw [if_neg negative]
    cases found : p.table.get? id with
    | none => simp [found] at h
    | some new => rfl

/-- What a placeholder resolves to can always be forgotten. -/
theorem erase_resolve {p : Placeholders} {id : ElementId} (h : p.resolve id ≠ id) :
    p.erase id (p.resolve id) = .ok { p with table := p.table.erase id } := by
  simp [erase, get?_of_resolve_ne h]

end Placeholders

end TopoSync
