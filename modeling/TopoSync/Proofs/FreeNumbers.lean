import Mathlib.Order.Interval.Finset.Nat
import TopoSync.Hub.Maps

/-!
# The least free number

A new element gets the least positive number that is free.  Whatever numbers the elements have, what the
search passes over are distinct numbers in use: numbers that are used twice and numbers that are not
positive do not keep it going.  So it looks at one number more than there are elements at most, and it
ends without one only if every positive number is in use.
-/

namespace TopoSync

namespace Elements

variable {α : Type} [Numbered α] {xs : List α} {id : ElementId}

/-- As many numbers as are passed over, there are elements at least. -/
theorem le_length_of_passed {k : Nat} (small : k ≤ maxId)
    (passed : ∀ j, 1 ≤ j → j ≤ k → Int32.ofNat j ∈ numbers xs) : k ≤ xs.length := by
  have apart : Set.InjOn Int32.ofNat (Finset.Icc 1 k : Finset Nat) := by
    intro i first j second same
    have values := congrArg Int32.toInt same
    simp only [Finset.coe_Icc, Set.mem_Icc] at first second
    rw [toInt_ofNat_of_le (by omega), toInt_ofNat_of_le (by omega)] at values
    omega
  have within : (Finset.Icc 1 k).image Int32.ofNat ⊆ (numbers xs).toFinset := by
    intro id member
    obtain ⟨j, range, rfl⟩ := Finset.mem_image.mp member
    obtain ⟨low, high⟩ := Finset.mem_Icc.mp range
    exact List.mem_toFinset.mpr (passed j low high)
  calc
    k = (Finset.Icc 1 k).card := by rw [Nat.card_Icc, Nat.add_sub_cancel]
    _ = ((Finset.Icc 1 k).image Int32.ofNat).card := (Finset.card_image_of_injOn apart).symm
    _ ≤ (numbers xs).toFinset.card := Finset.card_le_card within
    _ ≤ (numbers xs).length := (numbers xs).toFinset_card_le
    _ = xs.length := List.length_map Numbered.number

/-- A number is found as long as there are fewer elements than positive numbers. -/
theorem exists_of_length_lt (few : xs.length < maxId) : ∃ id, nextFree? xs = some id := by
  apply Option.ne_none_iff_exists'.mp
  intro none
  have all := nextFree?_eq_none_iff.mp none
  have many : maxId ≤ xs.length := by
    apply le_length_of_passed (Nat.le_refl maxId)
    intro j low high
    exact all _ (one_le_iff_exists.mpr ⟨j, low, high, rfl⟩)
  omega

/-- The least free number is at most one more than the number of elements. -/
theorem LeastFree.toInt_le (least : LeastFree xs id) : id.toInt ≤ xs.length + 1 := by
  obtain ⟨k, low, small, rfl⟩ := one_le_iff_exists.mp least.positive
  have passed : k - 1 ≤ xs.length := by
    apply le_length_of_passed (by omega)
    intro j low high
    have possible : j ≤ maxId := by omega
    apply least.below _ (one_le_iff_exists.mpr ⟨j, low, possible, rfl⟩)
    exact (ofNat_lt_ofNat_iff possible small).mpr (by omega)
  rw [toInt_ofNat_of_le small]
  omega

end Elements

namespace Hub

variable {σ α : Type} [MapElement α]

/-- Whether a session may add to a map under a placeholder: what it names is a placeholder, and the
session is connected and has the map open. -/
structure MayAdd (h : Hub σ) (origin : SessionId) (map : MapId) (temp : ElementId) (m : OpenMap) :
    Prop where
  placeholder : temp < 0
  connected : h.router.isRegistered origin = true
  subscribed : h.subscribedMap? origin map = some m

section Adding

variable (h : Hub σ) (origin : SessionId) (map : MapId) (temp : ElementId) (build : ElementId → α)

/-- Who may add gets a number if there is one. -/
theorem MayAdd.answer {m : OpenMap} (may : h.MayAdd origin map temp m) :
    (h.addElement origin map temp build).1 =
      match Elements.nextFree? (MapElement.elements m.diagram : List α) with
      | some id => .ok id
      | none => .error (.idsExhausted map (MapElement.noun α)) := by
  obtain ⟨placeholder, connected, subscribed⟩ := may
  have known : ¬ h.router.isRegistered origin = false := by simp [connected]
  rw [addElement, if_neg (Int32.not_le.mpr placeholder), if_neg known, subscribed]
  dsimp only
  cases Elements.nextFree? (MapElement.elements m.diagram : List α) with
  | none => rfl
  | some id => rfl

/-- Who may not add is told something else. -/
theorem mayAdd_or_refused :
    (∃ m, h.MayAdd origin map temp m) ∨
      ∃ e, (h.addElement origin map temp build).1 = .error e ∧
        e ≠ .idsExhausted map (MapElement.noun α) := by
  rw [addElement]
  split
  · exact .inr ⟨_, rfl, nofun⟩
  · rename_i negative
    split
    · exact .inr ⟨_, rfl, nofun⟩
    · rename_i known
      split
      · exact .inr ⟨_, rfl, nofun⟩
      · rename_i m subscribed
        exact .inl ⟨m, Int32.not_le.mp negative, by simpa using known, subscribed⟩

/-- An element is added with the least free number of its kind in the map. -/
theorem addElement_ok_iff (id : ElementId) :
    (h.addElement origin map temp build).1 = .ok id ↔
      ∃ m, h.MayAdd origin map temp m ∧
        Elements.LeastFree (MapElement.elements m.diagram : List α) id := by
  constructor
  · intro added
    rcases h.mayAdd_or_refused origin map temp build with ⟨m, may⟩ | ⟨e, refused, -⟩
    · rw [may.answer] at added
      split at added
      · rename_i found
        cases added
        exact ⟨m, may, Elements.nextFree?_eq_some_iff.mp found⟩
      · cases added
    · cases added.symm.trans refused
  · rintro ⟨m, may, least⟩
    rw [may.answer, Elements.nextFree?_eq_some_iff.mpr least]

/-- An addition is refused for want of a number exactly if the session may add and all are in use. -/
theorem addElement_idsExhausted_iff :
    (h.addElement origin map temp build).1 = .error (.idsExhausted map (MapElement.noun α)) ↔
      ∃ m, h.MayAdd origin map temp m ∧
        ∀ id, 1 ≤ id → id ∈ Elements.numbers (MapElement.elements m.diagram : List α) := by
  constructor
  · intro exhausted
    rcases h.mayAdd_or_refused origin map temp build with ⟨m, may⟩ | ⟨e, refused, other⟩
    · rw [may.answer] at exhausted
      split at exhausted
      · cases exhausted
      · rename_i none
        exact ⟨m, may, Elements.nextFree?_eq_none_iff.mp none⟩
    · exact absurd (Except.error.inj (refused.symm.trans exhausted)) other
  · rintro ⟨m, may, all⟩
    rw [may.answer, Elements.nextFree?_eq_none_iff.mpr all]

end Adding

end Hub

/-- Of fewer elements than there are positive numbers, whatever their own numbers are, the search for a
new number finds one that is at most one more than there are elements; no element has it and every
positive number below it is the number of some element.  With any number of elements, what is found is
exactly the least positive number that none has, and nothing is found exactly if all are in use.  So a
session that may add to a map gets the least number that is free among the elements of the kind there,
and is refused for want of numbers exactly if there are none left. -/
theorem new_number_is_least {α : Type} [Numbered α] (xs : List α) :
    (xs.length < Elements.maxId →
      ∃ id, Elements.nextFree? xs = some id ∧ 1 ≤ id ∧ id.toInt ≤ xs.length + 1 ∧
        (∀ x ∈ xs, Numbered.number x ≠ id) ∧
        ∀ q, 1 ≤ q → q < id → ∃ x ∈ xs, Numbered.number x = q) ∧
    (∀ id, Elements.nextFree? xs = some id ↔ Elements.LeastFree xs id) ∧
    (Elements.nextFree? xs = none ↔ ∀ id, 1 ≤ id → id ∈ Elements.numbers xs) ∧
    ∀ {σ β : Type} [MapElement β] (h : Hub σ) (origin : SessionId) (map : MapId) (temp : ElementId)
      (build : ElementId → β),
      (∀ id, (h.addElement origin map temp build).1 = .ok id ↔
        ∃ m, h.MayAdd origin map temp m ∧
          Elements.LeastFree (MapElement.elements m.diagram : List β) id) ∧
      ((h.addElement origin map temp build).1 = .error (.idsExhausted map (MapElement.noun β)) ↔
        ∃ m, h.MayAdd origin map temp m ∧
          ∀ id, 1 ≤ id → id ∈ Elements.numbers (MapElement.elements m.diagram : List β)) := by
  refine ⟨fun few => ?_, fun id => Elements.nextFree?_eq_some_iff, Elements.nextFree?_eq_none_iff, ?_⟩
  · obtain ⟨id, found⟩ := Elements.exists_of_length_lt few
    have least := Elements.nextFree?_eq_some_iff.mp found
    refine ⟨id, found, least.positive, least.toInt_le, ?_, ?_⟩
    · intro x member same
      exact least.free (List.mem_map.mpr ⟨x, member, same⟩)
    · intro q positive below
      exact List.mem_map.mp (least.below q positive below)
  · intro σ β _ h origin map temp build
    exact ⟨h.addElement_ok_iff origin map temp build,
      h.addElement_idsExhausted_iff origin map temp build⟩

/-- Numbers that are used twice, not positive or the greatest there is. -/
def strayNumbers : List Connection :=
  [⟨1, 4, 5⟩, ⟨0, 1, 1⟩, ⟨2147483647, 1, 2⟩, ⟨-4, 2, 1⟩, ⟨1, 7, 7⟩]

theorem new_number_is_least_amongStrays :
    strayNumbers.length < Elements.maxId ∧ Elements.nextFree? strayNumbers = some 2 ∧
      (2 : Int32).toInt ≤ strayNumbers.length + 1 ∧
      (∀ x ∈ strayNumbers, Numbered.number x ≠ 2) ∧
      ∀ q : ElementId, 1 ≤ q → q < 2 → ∃ x ∈ strayNumbers, Numbered.number x = q := by
  have few : strayNumbers.length < Elements.maxId := by decide
  have two : Elements.nextFree? strayNumbers = some 2 := by decide_cbv
  obtain ⟨id, found, -, most, fresh, below⟩ := (new_number_is_least strayNumbers).1 few
  obtain rfl : 2 = id := Option.some.inj (two.symm.trans found)
  exact ⟨few, two, most, fresh, below⟩

end TopoSync
