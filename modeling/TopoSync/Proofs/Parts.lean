import TopoSync.Proofs.Hub.Kinds

/-!
# What goes by a number

A number and a kind name a part of a map: the elements of the kind that have the number.  An edit
concerns one such part and leaves every other part as it is, and what it does to its own part depends
on that part alone.  So a part of a map has a history of its own: the edits made under its number.
-/

namespace TopoSync

/-- A number of an element, with the kind of the element. -/
abbrev ElementName : Type :=
  ElementKind × ElementId

namespace Edit

/-- The number under which an edit is made. -/
def subject : Edit → ElementName
  | symbolAdded id .. | symbolRemoved id | symbolMoved id .. => (.symbol, id)
  | connectionAdded id .. | connectionRemoved id => (.connection, id)

/-- Whether an edit makes a new element. -/
def isAddition : Edit → Bool
  | symbolAdded .. | connectionAdded .. => true
  | symbolRemoved _ | symbolMoved .. | connectionRemoved _ => false

/-- Whether an edit takes an element away. -/
def isRemoval : Edit → Bool
  | symbolRemoved _ | connectionRemoved _ => true
  | symbolAdded .. | symbolMoved .. | connectionAdded .. => false

end Edit

namespace Elements

variable {α : Type} [Numbered α]

/-- The elements that have a given number. -/
def named (xs : List α) (id : ElementId) : List α :=
  xs.filter fun x => Numbered.number x == id

@[simp] theorem named_nil (id : ElementId) : named ([] : List α) id = [] := rfl

theorem named_append (xs ys : List α) (id : ElementId) :
    named (xs ++ ys) id = named xs id ++ named ys id :=
  List.filter_append ..

theorem named_cons (x : α) (rest : List α) (id : ElementId) :
    named (x :: rest) id = (if Numbered.number x = id then [x] else []) ++ named rest id := by
  by_cases here : Numbered.number x = id <;> simp [named, here]

theorem named_eq_nil_iff {xs : List α} {id : ElementId} : named xs id = [] ↔ id ∉ numbers xs := by
  simp [named, numbers, List.filter_eq_nil_iff]

theorem named_remove_self (xs : List α) (id : ElementId) :
    named (remove xs id) id = remove (named xs id) id := by
  induction xs with
  | nil => rfl
  | cons x rest ih =>
      by_cases here : Numbered.number x = id
      · simp [named, remove, here]
      · have apart : named (x :: rest) id = named rest id := by simp [named_cons, here]
        have kept : remove (x :: rest) id = x :: remove rest id := by simp [remove, here]
        rw [kept, named_cons, if_neg here, List.nil_append, ih, apart]

theorem named_remove_of_ne {id q : ElementId} (other : q ≠ id) (xs : List α) :
    named (remove xs id) q = named xs q := by
  induction xs with
  | nil => rfl
  | cons x rest ih =>
      by_cases here : Numbered.number x = id
      · have apart : ¬ id = q := fun same => other same.symm
        simp [named_cons, remove, here, apart]
      · have kept : remove (x :: rest) id = x :: remove rest id := by simp [remove, here]
        rw [kept, named_cons, named_cons, ih]

theorem named_update_self {f : α → α} (keeps : ∀ x, Numbered.number (f x) = Numbered.number x)
    (xs : List α) (id : ElementId) : named (update xs id f) id = update (named xs id) id f := by
  induction xs with
  | nil => rfl
  | cons x rest ih =>
      by_cases here : Numbered.number x = id
      · simp [named_cons, update, here, keeps]
      · rw [update, if_neg here, named_cons, named_cons, if_neg here, List.nil_append, List.nil_append,
          ih]

theorem named_update_of_ne {f : α → α} (keeps : ∀ x, Numbered.number (f x) = Numbered.number x)
    {id q : ElementId} (other : q ≠ id) (xs : List α) :
    named (update xs id f) q = named xs q := by
  induction xs with
  | nil => rfl
  | cons x rest ih =>
      by_cases here : Numbered.number x = id
      · rw [update, if_pos here, named_cons, named_cons, keeps, here, if_neg (Ne.symm other),
          if_neg (Ne.symm other)]
      · rw [update, if_neg here, named_cons, named_cons, ih]

end Elements

namespace Diagram

/-- What goes by a number: the elements of the kind that have it. -/
def part (d : Diagram) : ElementName → Diagram
  | (.symbol, id) => { symbols := Elements.named d.symbols id }
  | (.connection, id) => { connections := Elements.named d.connections id }

/-- An edit changes what goes by its number, as it would if there were nothing else, and leaves what
goes by any other number alone. -/
theorem part_edited (d : Diagram) (e : Edit) (n : ElementName) :
    (d.edited e).part n = if e.subject = n then (d.part n).edited e else d.part n := by
  obtain ⟨kind, q⟩ := n
  have moved : ∀ (dx dy : Int32) (s : Symbol),
      Numbered.number (s.moved dx dy) = Numbered.number s := fun _ _ _ => rfl
  cases e <;> cases kind
  case symbolAdded.symbol id x y =>
    by_cases here : id = q
    · subst here
      simp [part, edited, Edit.subject, Elements.named_append, Elements.named_cons, Symbol.placed,
        Numbered.number]
    · simp [part, edited, Edit.subject, Elements.named_append, Elements.named_cons, Symbol.placed,
        Numbered.number, here]
  case symbolRemoved.symbol id =>
    by_cases here : id = q
    · subst here
      simp [part, edited, Edit.subject, Elements.named_remove_self]
    · simp [part, edited, Edit.subject, here, Elements.named_remove_of_ne (Ne.symm here)]
  case symbolMoved.symbol id dx dy =>
    by_cases here : id = q
    · subst here
      simp [part, edited, Edit.subject, Elements.named_update_self (moved dx dy)]
    · simp [part, edited, Edit.subject, here,
        Elements.named_update_of_ne (moved dx dy) (Ne.symm here)]
  case connectionAdded.connection id sym0 sym1 =>
    by_cases here : id = q
    · subst here
      simp [part, edited, Edit.subject, Elements.named_append, Elements.named_cons, Numbered.number]
    · simp [part, edited, Edit.subject, Elements.named_append, Elements.named_cons, Numbered.number,
        here]
  case connectionRemoved.connection id =>
    by_cases here : id = q
    · subst here
      simp [part, edited, Edit.subject, Elements.named_remove_self]
    · simp [part, edited, Edit.subject, here, Elements.named_remove_of_ne (Ne.symm here)]
  all_goals simp [part, edited, Edit.subject]

/-- Nothing goes by the number that a new element gets. -/
theorem part_of_addition {d : Diagram} {e : Edit} (fits : e.Fits d) (adds : e.isAddition = true) :
    d.part e.subject = {} := by
  cases e with
  | symbolAdded id x y =>
      have free : Elements.named d.symbols id = [] :=
        Elements.named_eq_nil_iff.mpr (Elements.not_mem_of_nextFree? fits)
      rw [Edit.subject, part, free]
  | connectionAdded id sym0 sym1 =>
      have free : Elements.named d.connections id = [] :=
        Elements.named_eq_nil_iff.mpr (Elements.not_mem_of_nextFree? fits)
      rw [Edit.subject, part, free]
  | symbolRemoved id => cases adds
  | symbolMoved id dx dy => cases adds
  | connectionRemoved id => cases adds

/-- Something goes by the number of a new element. -/
theorem edited_addition_ne_empty (d : Diagram) {e : Edit} (adds : e.isAddition = true) :
    d.edited e ≠ {} := by
  cases e with
  | symbolAdded id x y =>
      intro empty
      exact List.append_ne_nil_of_right_ne_nil _ (List.cons_ne_nil _ _) (Diagram.mk.inj empty).1
  | connectionAdded id sym0 sym1 =>
      intro empty
      exact List.append_ne_nil_of_right_ne_nil _ (List.cons_ne_nil _ _) (Diagram.mk.inj empty).2
  | symbolRemoved id => cases adds
  | symbolMoved id dx dy => cases adds
  | connectionRemoved id => cases adds

/-- Something remains when it is moved. -/
theorem edited_ne_empty {d : Diagram} {e : Edit} (present : d ≠ {}) (adds : e.isAddition = false)
    (removes : e.isRemoval = false) : d.edited e ≠ {} := by
  cases e with
  | symbolMoved id dx dy =>
      intro empty
      obtain ⟨symbols, connections⟩ := d
      obtain ⟨none, rfl⟩ := Diagram.mk.inj empty
      cases symbols with
      | nil => exact present rfl
      | cons s rest =>
          dsimp only at none
          rw [Elements.update] at none
          split at none <;> cases none
  | symbolAdded id x y => cases adds
  | connectionAdded id sym0 sym1 => cases adds
  | symbolRemoved id => cases removes
  | connectionRemoved id => cases removes

end Diagram

end TopoSync
