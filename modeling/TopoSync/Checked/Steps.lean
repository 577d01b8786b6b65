import TopoSync.Elements
import TopoSync.Wire.Word

/-!
# Steps that can fail

Counting up and down, reading at an index and cutting a list are defined within bounds only.  Here
each of these steps has a value within its bounds and none outside.  Whatever is put together from
them has a value exactly if none of its steps fails.
-/

namespace TopoSync

namespace Checked

/-- The greatest number that a length or a position can be. -/
def maxCount : Nat := 0xFFFFFFFFFFFFFFFF

/-- The sum of two counts, if it is a count. -/
def add? (m n : Nat) : Option Nat :=
  if m + n ≤ maxCount then some (m + n) else none

/-- The difference of two counts, if it is one. -/
def sub? (m n : Nat) : Option Nat :=
  if n ≤ m then some (m - n) else none

section Lists

variable {α : Type}

/-- The items from one position up to another one. -/
def slice? (xs : List α) (first stop : Nat) : Option (List α) :=
  if first ≤ stop ∧ stop ≤ xs.length then some ((xs.take stop).drop first) else none

/-- The first items of a list, taken off, and the others. -/
def drain? (xs : List α) (n : Nat) : Option (List α × List α) :=
  if n ≤ xs.length then some (xs.take n, xs.drop n) else none

/-- The list without the item at an index. -/
def removeAt? (xs : List α) (i : Nat) : Option (List α) :=
  if i < xs.length then some (xs.eraseIdx i) else none

theorem add?_of_le {m n : Nat} (small : m + n ≤ maxCount) : add? m n = some (m + n) :=
  if_pos small

theorem sub?_of_le {m n : Nat} (enough : n ≤ m) : sub? m n = some (m - n) :=
  if_pos enough

/-- A slice is what is left of the list after it is cut at both ends. -/
theorem slice?_of_le {xs : List α} {first stop : Nat} (ordered : first ≤ stop)
    (within : stop ≤ xs.length) :
    slice? xs first stop = some ((xs.drop first).take (stop - first)) := by
  rw [slice?, if_pos ⟨ordered, within⟩, List.drop_take]

theorem drain?_of_le {xs : List α} {n : Nat} (within : n ≤ xs.length) :
    drain? xs n = some (xs.take n, xs.drop n) :=
  if_pos within

theorem removeAt?_of_lt {xs : List α} {i : Nat} (within : i < xs.length) :
    removeAt? xs i = some (xs.eraseIdx i) :=
  if_pos within

/-- Where every step of a fold has a value, the fold has the value of the plain fold. -/
theorem foldlM_eq_some {β : Type} {step? : β → α → Option β} {step : β → α → β} {xs : List α}
    (each : ∀ b, ∀ a ∈ xs, step? b a = some (step b a)) (b : β) :
    xs.foldlM step? b = some (xs.foldl step b) := by
  induction xs generalizing b with
  | nil => rfl
  | cons a rest ih =>
      rw [List.foldlM_cons, each b a List.mem_cons_self, List.foldl_cons]
      exact ih (fun b a member => each b a (List.mem_cons_of_mem _ member)) (step b a)

end Lists

/-- The word spelled by four bytes from a position on. -/
def word? (bytes : Bytes) (first : Nat) : Option UInt32 := do
  let b₀ ← bytes[first]?
  let b₁ ← bytes[first + 1]?
  let b₂ ← bytes[first + 2]?
  let b₃ ← bytes[first + 3]?
  return Word.ofBytes [b₀, b₁, b₂, b₃]

theorem word?_of_le {bytes : Bytes} {first : Nat} (within : first + 4 ≤ bytes.length) :
    word? bytes first = some (Word.ofBytes ((bytes.drop first).take 4)) := by
  have four : (bytes.drop first).take 4 =
      [bytes[first], bytes[first + 1], bytes[first + 2], bytes[first + 3]] := by
    rw [List.drop_eq_getElem_cons (by omega), List.drop_eq_getElem_cons (by omega),
      List.drop_eq_getElem_cons (by omega), List.drop_eq_getElem_cons (by omega)]
    rfl
  rw [four, word?, List.getElem?_eq_getElem (by omega), List.getElem?_eq_getElem (by omega),
    List.getElem?_eq_getElem (by omega), List.getElem?_eq_getElem (by omega)]
  rfl

/-- A word that is too near to the end is not there. -/
theorem word?_of_lt {bytes : Bytes} {first : Nat} (short : bytes.length < first + 4) :
    word? bytes first = none := by
  have last : bytes[first + 3]? = none := List.getElem?_eq_none (by omega)
  rw [word?, last]
  cases bytes[first]? <;> cases bytes[first + 1]? <;> cases bytes[first + 2]? <;> rfl

end Checked

namespace Elements

variable {α : Type} [Numbered α]

/-- Takes the element with a given number out, at the position where it is found. -/
def remove? (xs : List α) (id : ElementId) : Option (List α) :=
  match xs.findIdx? fun x => Numbered.number x == id with
  | none => some xs
  | some i => Checked.removeAt? xs i

/-- A position that is found is there. -/
theorem remove?_eq (xs : List α) (id : ElementId) : remove? xs id = some (remove xs id) := by
  rw [remove?, remove, List.eraseP_eq_eraseIdx]
  cases found : xs.findIdx? fun x => Numbered.number x == id with
  | none => rfl
  | some i =>
      obtain ⟨within, _⟩ := List.findIdx?_eq_some_iff_getElem.mp found
      exact Checked.removeAt?_of_lt within

end Elements

end TopoSync
