import TopoSync.Elements
import TopoSync.Proofs.Hub.Edits

/-!
# Distinct numbers

A list of elements may hold a number twice, and nothing in it prevents that.  What prevents it is how
the lists are used: a new element gets a number that no other one has, and of distinct numbers the
first one that is taken out is the only one.
-/

namespace TopoSync

namespace Elements

variable {α : Type} [Numbered α] {xs : List α} {id : ElementId}

/-- A new number is positive. -/
theorem one_le_of_nextFree? (found : nextFree? xs = some id) : 1 ≤ id :=
  (nextFree?_eq_some_iff.mp found).positive

/-- Distinct numbers stay distinct when an element with a new number is added. -/
theorem nodup_numbers_append {x : α} (distinct : (numbers xs).Nodup)
    (fresh : Numbered.number x ∉ numbers xs) : (numbers (xs ++ [x])).Nodup := by
  rw [numbers, List.map_append, List.nodup_append]
  refine ⟨distinct, by simp, ?_⟩
  rintro n used m new rfl
  rw [List.map_singleton, List.mem_singleton] at new
  exact fresh (new ▸ used)

theorem nodup_numbers_remove (distinct : (numbers xs).Nodup) (id : ElementId) :
    (numbers (remove xs id)).Nodup :=
  distinct.sublist (List.eraseP_sublist.map _)

/-- Of distinct numbers, only one goes. -/
theorem remove_eq_filter (distinct : (numbers xs).Nodup) (id : ElementId) :
    remove xs id = xs.filter fun x => Numbered.number x ≠ id := by
  induction xs with
  | nil => rfl
  | cons x rest ih =>
      obtain ⟨fresh, distinct⟩ := List.nodup_cons.mp distinct
      by_cases here : Numbered.number x = id
      · have others : ∀ y ∈ rest, decide (Numbered.number y ≠ id) = true := by
          intro y member
          refine decide_eq_true fun same => fresh ?_
          exact List.mem_map.mpr ⟨y, member, same.trans here.symm⟩
        have gone : remove ([] ++ x :: rest) id = [] ++ rest := remove_of_first nofun here
        rw [List.filter_cons_of_neg (by simp [here]), List.filter_eq_self.mpr others]
        exact gone
      · have kept : remove (x :: rest) id = x :: remove rest id := by simp [remove, here]
        rw [kept, ih distinct, List.filter_cons_of_pos (by simp [here])]

/-- Of distinct numbers, one that is taken out is not in use any more. -/
theorem not_mem_numbers_remove (distinct : (numbers xs).Nodup) (id : ElementId) :
    id ∉ numbers (remove xs id) := by
  rw [remove_eq_filter distinct]
  simp [numbers]

theorem numbers_update {f : α → α} (keeps : ∀ x, Numbered.number (f x) = Numbered.number x)
    (xs : List α) (id : ElementId) : numbers (update xs id f) = numbers xs := by
  induction xs with
  | nil => rfl
  | cons x rest ih =>
      unfold update
      split
      · rw [numbers, List.map_cons, keeps]
        rfl
      · rw [numbers, List.map_cons, ← numbers, ih]
        rfl

end Elements

/-- Whether the symbols of a map have distinct numbers, and its connections, too. -/
structure Diagram.Distinct (d : Diagram) : Prop where
  symbols : (Elements.numbers d.symbols).Nodup
  connections : (Elements.numbers d.connections).Nodup

instance (d : Diagram) : Decidable d.Distinct :=
  decidable_of_iff ((Elements.numbers d.symbols).Nodup ∧ (Elements.numbers d.connections).Nodup)
    ⟨fun both => ⟨both.1, both.2⟩, fun distinct => ⟨distinct.symbols, distinct.connections⟩⟩

/-- What an edit makes of the contents of a map.  A new element comes last, under a positive number
that no element of its kind has; under a number that is taken out no element of its kind is left, and
the others stay in order; a symbol that is moved keeps its number. -/
def Edit.Turns (before after : Diagram) : Edit → Prop
  | symbolAdded id x y =>
      1 ≤ id ∧ id ∉ Elements.numbers before.symbols ∧
        after = { before with symbols := before.symbols ++ [Symbol.placed id x y] }
  | connectionAdded id sym0 sym1 =>
      1 ≤ id ∧ id ∉ Elements.numbers before.connections ∧
        after = { before with connections := before.connections ++ [⟨id, sym0, sym1⟩] }
  | symbolRemoved id =>
      id ∈ Elements.numbers before.symbols ∧ id ∉ Elements.numbers after.symbols ∧
        after = { before with symbols := before.symbols.filter fun s => s.id ≠ id }
  | connectionRemoved id =>
      id ∈ Elements.numbers before.connections ∧ id ∉ Elements.numbers after.connections ∧
        after = { before with connections := before.connections.filter fun c => c.id ≠ id }
  | symbolMoved _ _ _ =>
      Elements.numbers after.symbols = Elements.numbers before.symbols ∧
        after.connections = before.connections

namespace Diagram

variable {d : Diagram} {e : Edit}

/-- Moving a symbol does not renumber it. -/
theorem number_moved (dx dy : Int32) (s : Symbol) :
    Numbered.number (s.moved dx dy) = Numbered.number s :=
  rfl

/-- An edit that is carried out on distinct numbers leaves distinct numbers. -/
theorem Distinct.edited (distinct : d.Distinct) (fits : e.Fits d) : (d.edited e).Distinct := by
  obtain ⟨symbols, connections⟩ := distinct
  cases e with
  | symbolAdded id x y =>
      exact ⟨Elements.nodup_numbers_append symbols (Elements.not_mem_of_nextFree? fits), connections⟩
  | symbolRemoved id => exact ⟨Elements.nodup_numbers_remove symbols id, connections⟩
  | symbolMoved id dx dy =>
      refine ⟨?_, connections⟩
      rw [Diagram.edited, Elements.numbers_update (number_moved dx dy)]
      exact symbols
  | connectionAdded id sym0 sym1 =>
      exact ⟨symbols, Elements.nodup_numbers_append connections (Elements.not_mem_of_nextFree? fits)⟩
  | connectionRemoved id => exact ⟨symbols, Elements.nodup_numbers_remove connections id⟩

/-- What an edit makes of distinct numbers. -/
theorem Distinct.turns (distinct : d.Distinct) (fits : e.Fits d) : e.Turns d (d.edited e) := by
  obtain ⟨symbols, connections⟩ := distinct
  cases e with
  | symbolAdded id x y | connectionAdded id sym0 sym1 =>
      exact ⟨Elements.one_le_of_nextFree? fits, Elements.not_mem_of_nextFree? fits, rfl⟩
  | symbolRemoved id =>
      refine ⟨Elements.contains_iff_mem_numbers.mp fits,
        Elements.not_mem_numbers_remove symbols id, ?_⟩
      rw [Diagram.edited, Elements.remove_eq_filter symbols]
      rfl
  | connectionRemoved id =>
      refine ⟨Elements.contains_iff_mem_numbers.mp fits,
        Elements.not_mem_numbers_remove connections id, ?_⟩
      rw [Diagram.edited, Elements.remove_eq_filter connections]
      rfl
  | symbolMoved id dx dy => exact ⟨Elements.numbers_update (number_moved dx dy) _ _, rfl⟩

end Diagram

end TopoSync
