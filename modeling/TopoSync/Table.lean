/-!
# Tables

A table assigns values to finitely many keys.  Its entries stand in some order, which matters only
to those who walk through them; every other operation is described by `Table.get?`.
-/

namespace TopoSync

/-- A finite assignment of values to distinct keys. -/
structure Table (κ α : Type) where
  entries : List (κ × α)
  distinct : (entries.map Prod.fst).Nodup
deriving DecidableEq, Repr

namespace Table

variable {κ α : Type}

/-- The table without entries. -/
def empty : Table κ α :=
  ⟨[], List.nodup_nil⟩

instance : EmptyCollection (Table κ α) := ⟨empty⟩

instance : Inhabited (Table κ α) := ⟨empty⟩

/-- The keys, in the order of the entries. -/
def keys (t : Table κ α) : List κ :=
  t.entries.map Prod.fst

/-- How many keys there are. -/
def size (t : Table κ α) : Nat :=
  t.entries.length

theorem nodup_keys (t : Table κ α) : t.keys.Nodup :=
  t.distinct

theorem size_eq_length_keys (t : Table κ α) : t.size = t.keys.length := by
  simp [size, keys]

/-- Changes every value, with its key in view. -/
def mapValues {β : Type} (t : Table κ α) (f : κ → α → β) : Table κ β where
  entries := t.entries.map fun e => (e.1, f e.1 e.2)
  distinct := by
    have h : (fun e : κ × β => e.1) ∘ (fun e : κ × α => (e.1, f e.1 e.2)) = Prod.fst := rfl
    rw [List.map_map, h]
    exact t.distinct

@[simp] theorem keys_mapValues {β : Type} (t : Table κ α) (f : κ → α → β) :
    (t.mapValues f).keys = t.keys := by
  simp [keys, mapValues, Function.comp_def]

variable [DecidableEq κ]

/-- The value of a key. -/
def get? (t : Table κ α) (k : κ) : Option α :=
  t.entries.lookup k

/-- Whether a key has a value. -/
def contains (t : Table κ α) (k : κ) : Bool :=
  (t.get? k).isSome

/-- Changes the value of a key, if it has one. -/
def modify (t : Table κ α) (k : κ) (f : α → α) : Table κ α :=
  t.mapValues fun k' a => if k' = k then f a else a

/-- Takes a key out. -/
def erase (t : Table κ α) (k : κ) : Table κ α where
  entries := t.entries.filter fun e => e.1 ≠ k
  distinct := t.distinct.sublist (List.filter_sublist.map Prod.fst)

theorem get?_eq_none_iff {t : Table κ α} {k : κ} : t.get? k = none ↔ k ∉ t.keys := by
  rw [get?, List.lookup_eq_none_iff, keys, List.mem_map]
  constructor
  · rintro h ⟨e, member, rfl⟩
    simpa using h e member
  · intro h e member
    simpa using fun same => h ⟨e, member, same.symm⟩

theorem contains_iff_mem_keys {t : Table κ α} {k : κ} : t.contains k = true ↔ k ∈ t.keys := by
  rw [contains, Option.isSome_iff_ne_none, Ne, get?_eq_none_iff, Classical.not_not]

instance (t : Table κ α) (k : κ) : Decidable (k ∈ t.keys) :=
  inferInstanceAs (Decidable (k ∈ t.entries.map Prod.fst))

/-- Gives a key a value.  A key that has one keeps its place; a new key comes last. -/
def insert (t : Table κ α) (k : κ) (a : α) : Table κ α :=
  if member : k ∈ t.keys then t.modify k fun _ => a
  else
    { entries := t.entries ++ [(k, a)]
      distinct := by
        rw [List.map_append, List.nodup_append]
        refine ⟨t.distinct, by simp, ?_⟩
        intro x hx y hy same
        simp only [List.map_cons, List.map_nil, List.mem_singleton] at hy
        subst hy
        subst same
        exact member hx }

@[simp] theorem get?_empty (k : κ) : (∅ : Table κ α).get? k = none := rfl

@[simp] theorem keys_modify (t : Table κ α) (k : κ) (f : α → α) : (t.modify k f).keys = t.keys :=
  keys_mapValues t _

theorem lookup_map_ite (entries : List (κ × α)) (k : κ) (f : α → α) (q : κ) :
    (entries.map fun e => (e.1, if e.1 = k then f e.2 else e.2)).lookup q =
      if q = k then (entries.lookup q).map f else entries.lookup q := by
  induction entries with
  | nil => simp
  | cons e rest ih =>
      obtain ⟨key, value⟩ := e
      by_cases same : q = key
      · subst same
        by_cases hk : q = k <;> simp [hk]
      · have other : (q == key) = false := by simpa using same
        simp only [List.map_cons, List.lookup_cons, other]
        exact ih

theorem get?_modify (t : Table κ α) (k : κ) (f : α → α) (q : κ) :
    (t.modify k f).get? q = if q = k then (t.get? q).map f else t.get? q :=
  lookup_map_ite t.entries k f q

theorem get?_insert (t : Table κ α) (k : κ) (a : α) (q : κ) :
    (t.insert k a).get? q = if q = k then some a else t.get? q := by
  unfold insert
  split
  · rename_i member
    rw [get?_modify]
    by_cases same : q = k
    · subst same
      cases found : t.get? q with
      | none => exact absurd member (get?_eq_none_iff.mp found)
      | some b => simp
    · simp [same]
  · rename_i absent
    show (t.entries ++ [(k, a)]).lookup q = _
    rw [List.lookup_append]
    by_cases same : q = k
    · subst same
      have none : t.entries.lookup q = none := get?_eq_none_iff.mpr absent
      simp [none]
    · have other : (q == k) = false := by simpa using same
      simp [List.lookup_cons, other, same, get?]

theorem get?_erase (t : Table κ α) (k q : κ) :
    (t.erase k).get? q = if q = k then none else t.get? q := by
  show (t.entries.filter fun e => e.1 ≠ k).lookup q = if q = k then none else t.entries.lookup q
  induction t.entries with
  | nil => simp
  | cons e rest ih =>
      obtain ⟨key, value⟩ := e
      by_cases hk : key = k
      · rw [List.filter_cons_of_neg (by simp [hk]), ih]
        by_cases same : q = k
        · simp [same]
        · have other : (q == key) = false := by rw [hk]; simpa using same
          simp [same, List.lookup_cons, other]
      · rw [List.filter_cons_of_pos (by simp [hk])]
        by_cases same : q = key
        · subst same
          simp [hk]
        · have other : (q == key) = false := by simpa using same
          simp only [List.lookup_cons, other]
          exact ih

theorem keys_erase (t : Table κ α) (k : κ) :
    (t.erase k).keys = t.keys.filter fun q => q ≠ k := by
  simp [keys, erase, List.filter_map, Function.comp_def]

/-- Inserting at a key that is there changes no key. -/
theorem keys_insert_of_mem {t : Table κ α} {k : κ} (member : k ∈ t.keys) (a : α) :
    (t.insert k a).keys = t.keys := by
  rw [insert, dif_pos member, keys_modify]

end Table

end TopoSync
