import TopoSync.Diagram

/-!
# Lists of numbered elements

The elements of a map keep the order in which they were added.  An element is looked up, changed or
removed by its number; of several elements with one number the first is meant.  A new element gets
the least positive number that is free.
-/

namespace TopoSync

namespace Elements

variable {α : Type} [Numbered α]

/-- The numbers in use, in the order of the elements. -/
def numbers (xs : List α) : List ElementId :=
  xs.map Numbered.number

/-- The element with a given number. -/
def find? (xs : List α) (id : ElementId) : Option α :=
  xs.find? fun x => Numbered.number x == id

/-- Whether a number is in use. -/
def contains (xs : List α) (id : ElementId) : Bool :=
  (find? xs id).isSome

/-- Changes the element with a given number. -/
def update (xs : List α) (id : ElementId) (f : α → α) : List α :=
  match xs with
  | [] => []
  | x :: rest => if Numbered.number x = id then f x :: rest else x :: update rest id f

/-- Takes the element with a given number out. -/
def remove (xs : List α) (id : ElementId) : List α :=
  xs.eraseP fun x => Numbered.number x == id

/-- The first number from `n` on that is not used, among the next `candidates` numbers. -/
def freeFrom (used : List ElementId) (n : Nat) : Nat → Option ElementId
  | 0 => none
  | candidates + 1 =>
      if Int32.ofNat n ∈ used then freeFrom used (n + 1) candidates else some (Int32.ofNat n)

/-- The greatest number that an element can have. -/
def maxId : Nat := 0x7FFFFFFF

/-- The least positive number that no element has. -/
def nextFree? (xs : List α) : Option ElementId :=
  freeFrom (numbers xs) 1 maxId

theorem contains_iff_mem_numbers {xs : List α} {id : ElementId} :
    contains xs id = true ↔ id ∈ numbers xs := by
  simp [contains, find?, numbers]

/-- The first element with the number goes, and the others keep their order. -/
theorem remove_of_first {before rest : List α} {x : α} {id : ElementId}
    (others : ∀ y ∈ before, Numbered.number y ≠ id) (same : Numbered.number x = id) :
    remove (before ++ x :: rest) id = before ++ rest := by
  have unlike : ∀ y ∈ before, ¬ (Numbered.number y == id) = true := by
    intro y member
    simpa using others y member
  rw [remove, List.eraseP_append_right _ unlike, List.eraseP_cons_of_pos (by simpa using same)]

section Search

variable {used : List ElementId} {n candidates : Nat} {id : ElementId}

/-- The search goes through the candidates in order and stops at the first that is not in use. -/
theorem freeFrom_eq_find? (used : List ElementId) (n candidates : Nat) :
    freeFrom used n candidates =
      ((List.range' n candidates).find? fun k => Int32.ofNat k ∉ used).map Int32.ofNat := by
  induction candidates generalizing n with
  | zero => rfl
  | succ candidates ih =>
      rw [freeFrom, List.range'_succ, List.find?_cons]
      by_cases taken : Int32.ofNat n ∈ used
      · simp [taken, ih]
      · simp [taken]

theorem freeFrom_eq_none_iff :
    freeFrom used n candidates = none ↔
      ∀ k, n ≤ k → k < n + candidates → Int32.ofNat k ∈ used := by
  simp [freeFrom_eq_find?]

theorem freeFrom_eq_some_iff :
    freeFrom used n candidates = some id ↔
      ∃ k, (n ≤ k ∧ k < n + candidates) ∧ Int32.ofNat k ∉ used ∧
        (∀ j, n ≤ j → j < k → Int32.ofNat j ∈ used) ∧ Int32.ofNat k = id := by
  simp only [freeFrom_eq_find?, Option.map_eq_some_iff, List.find?_range'_eq_some]
  constructor
  · rintro ⟨k, ⟨free, candidate, passed⟩, same⟩
    exact ⟨k, by simpa using candidate, by simpa using free, by simpa using passed, same⟩
  · rintro ⟨k, candidate, free, passed, same⟩
    exact ⟨k, ⟨by simpa using free, by simpa using candidate, by simpa using passed⟩, same⟩

end Search

section Positive

variable {j k : Nat} {id : ElementId}

theorem toInt_ofNat_of_le (small : k ≤ maxId) : (Int32.ofNat k).toInt = k := by
  apply Int32.toInt_ofNat_of_lt
  simp only [maxId] at small
  omega

/-- The positive numbers are those that the search can try. -/
theorem one_le_iff_exists : 1 ≤ id ↔ ∃ k, 1 ≤ k ∧ k ≤ maxId ∧ Int32.ofNat k = id := by
  have one : (1 : Int32).toInt = 1 := rfl
  rw [Int32.le_iff_toInt_le, one]
  constructor
  · intro positive
    have most : id.toInt < 2 ^ 31 := id.toInt_lt
    have small : id.toInt.toNat ≤ maxId := by
      rw [maxId]
      omega
    refine ⟨id.toInt.toNat, by omega, small, Int32.toInt_inj.mp ?_⟩
    rw [toInt_ofNat_of_le small]
    omega
  · rintro ⟨k, least, small, rfl⟩
    rw [toInt_ofNat_of_le small]
    omega

theorem ofNat_lt_ofNat_iff (left : j ≤ maxId) (right : k ≤ maxId) :
    Int32.ofNat j < Int32.ofNat k ↔ j < k := by
  rw [Int32.lt_iff_toInt_lt, toInt_ofNat_of_le left, toInt_ofNat_of_le right]
  omega

end Positive

/-- No number is found exactly if every positive number is in use. -/
theorem nextFree?_eq_none_iff {xs : List α} :
    nextFree? xs = none ↔ ∀ id, 1 ≤ id → id ∈ numbers xs := by
  rw [nextFree?, freeFrom_eq_none_iff]
  constructor
  · intro all id positive
    obtain ⟨k, least, small, rfl⟩ := one_le_iff_exists.mp positive
    exact all k least (by omega)
  · intro all k least most
    exact all _ (one_le_iff_exists.mpr ⟨k, least, by omega, rfl⟩)

/-- Whether a number is the least positive one that is not in use. -/
structure LeastFree (xs : List α) (id : ElementId) : Prop where
  positive : 1 ≤ id
  free : id ∉ numbers xs
  below : ∀ q, 1 ≤ q → q < id → q ∈ numbers xs

theorem nextFree?_eq_some_iff {xs : List α} {id : ElementId} :
    nextFree? xs = some id ↔ LeastFree xs id := by
  rw [nextFree?, freeFrom_eq_some_iff]
  constructor
  · rintro ⟨k, ⟨least, most⟩, free, passed, rfl⟩
    have small : k ≤ maxId := by omega
    refine ⟨one_le_iff_exists.mpr ⟨k, least, small, rfl⟩, free, ?_⟩
    intro q positive below
    obtain ⟨j, low, high, rfl⟩ := one_le_iff_exists.mp positive
    exact passed j low ((ofNat_lt_ofNat_iff high small).mp below)
  · rintro ⟨positive, free, passed⟩
    obtain ⟨k, least, small, rfl⟩ := one_le_iff_exists.mp positive
    refine ⟨k, ⟨least, by omega⟩, free, ?_, rfl⟩
    intro j low below
    have high : j ≤ maxId := by omega
    exact passed _ (one_le_iff_exists.mpr ⟨j, low, high, rfl⟩)
      ((ofNat_lt_ofNat_iff high small).mpr below)

/-- A new number is not in use. -/
theorem not_mem_of_nextFree? {xs : List α} {id : ElementId} (found : nextFree? xs = some id) :
    id ∉ numbers xs :=
  (nextFree?_eq_some_iff.mp found).free

end Elements

end TopoSync
