import TopoSync.Roster
import TopoSync.Table

/-!
# Laws of tables and rosters

Two tables with the same entries are equal, so the laws here are equations between tables and not
only between what a look-up finds.  An entry is found under its key because keys are distinct.
-/

namespace TopoSync

namespace Table

variable {κ α : Type}

theorem ext_entries {t u : Table κ α} (same : t.entries = u.entries) : t = u := by
  cases t
  cases u
  cases same
  rfl

variable [DecidableEq κ]

/-- The entry of a key is the value that a look-up finds. -/
theorem mem_entries_iff {t : Table κ α} {k : κ} {a : α} :
    (k, a) ∈ t.entries ↔ t.get? k = some a := by
  constructor
  · intro member
    obtain ⟨before, after, split⟩ := List.append_of_mem member
    refine List.lookup_eq_some_iff.mpr ⟨before, after, split, ?_⟩
    intro e earlier
    have distinct := t.distinct
    rw [split, List.map_append, List.nodup_append] at distinct
    have other := distinct.2.2 e.1 (List.mem_map_of_mem earlier) k (by simp)
    simpa using other.symm
  · intro found
    obtain ⟨before, after, split, _⟩ := List.lookup_eq_some_iff.mp found
    rw [split]
    simp

theorem mem_keys_iff {t : Table κ α} {k : κ} : k ∈ t.keys ↔ ∃ a, t.get? k = some a := by
  rw [← Option.isSome_iff_exists, ← contains_iff_mem_keys, contains]

/-- A table in which nothing is found has no entries. -/
theorem eq_empty_of_get? {t : Table κ α} (none : ∀ k, t.get? k = none) : t = ∅ := by
  apply ext_entries
  refine List.eq_nil_iff_forall_not_mem.mpr fun e member => ?_
  have found : t.get? e.1 = some e.2 := mem_entries_iff.mp member
  exact nomatch (none e.1).symm.trans found

theorem contains_eq_isSome (t : Table κ α) (k : κ) : t.contains k = (t.get? k).isSome := rfl

@[simp] theorem entries_modify (t : Table κ α) (k : κ) (f : α → α) :
    (t.modify k f).entries = t.entries.map fun e => (e.1, if e.1 = k then f e.2 else e.2) := rfl

/-- Only what a change does to the value of the key matters. -/
theorem modify_congr {t : Table κ α} {k : κ} {f g : α → α}
    (same : ∀ a, t.get? k = some a → f a = g a) : t.modify k f = t.modify k g := by
  apply ext_entries
  simp only [entries_modify]
  apply List.map_congr_left
  intro e member
  by_cases here : e.1 = k
  · have found : t.get? k = some e.2 := mem_entries_iff.mp (here ▸ member)
    simp [here, same e.2 found]
  · simp [here]

theorem modify_of_fixed {t : Table κ α} {k : κ} {f : α → α}
    (fixed : ∀ a, t.get? k = some a → f a = a) : t.modify k f = t := by
  rw [modify_congr (g := id) fixed]
  apply ext_entries
  simp

theorem modify_modify (t : Table κ α) (k : κ) (f g : α → α) :
    (t.modify k f).modify k g = t.modify k fun a => g (f a) := by
  apply ext_entries
  simp only [entries_modify, List.map_map]
  apply List.map_congr_left
  intro e _
  by_cases here : e.1 = k <;> simp [here]

/-- Changes that commute on values commute on tables, whatever their keys. -/
theorem modify_comm {f g : α → α} (comm : ∀ a, f (g a) = g (f a)) (t : Table κ α) (k j : κ) :
    (t.modify k f).modify j g = (t.modify j g).modify k f := by
  apply ext_entries
  simp only [entries_modify, List.map_map]
  apply List.map_congr_left
  rintro ⟨q, a⟩ _
  simp only [Function.comp_apply]
  grind

theorem insert_eq_modify {t : Table κ α} {k : κ} (member : k ∈ t.keys) (a : α) :
    t.insert k a = t.modify k fun _ => a := by
  rw [insert, dif_pos member]

theorem erase_modify_self (t : Table κ α) (k : κ) (f : α → α) :
    (t.modify k f).erase k = t.erase k := by
  apply ext_entries
  simp only [erase, entries_modify, List.filter_map]
  conv => rhs; rw [← List.map_id (t.entries.filter fun e => decide (e.1 ≠ k))]
  have keep : (fun e : κ × α => decide (e.1 ≠ k)) ∘
      (fun e : κ × α => (e.1, if e.1 = k then f e.2 else e.2)) = fun e => decide (e.1 ≠ k) := rfl
  rw [keep]
  apply List.map_congr_left
  intro e member
  have other : e.1 ≠ k := by simpa using (List.mem_filter.mp member).2
  simp [other]

theorem erase_modify (t : Table κ α) (k j : κ) (f : α → α) :
    (t.modify j f).erase k = (t.erase k).modify j f := by
  apply ext_entries
  simp only [erase, entries_modify, List.filter_map]
  rfl

theorem erase_insert_self (t : Table κ α) (k : κ) (a : α) : (t.insert k a).erase k = t.erase k := by
  by_cases member : k ∈ t.keys
  · rw [insert_eq_modify member, erase_modify_self]
  · apply ext_entries
    rw [insert, dif_neg member]
    simp [erase]

theorem erase_of_absent {t : Table κ α} {k : κ} (absent : t.get? k = none) : t.erase k = t := by
  apply ext_entries
  refine List.filter_eq_self.mpr ?_
  intro e member
  have other : e.1 ≠ k := by
    intro same
    exact get?_eq_none_iff.mp absent (same ▸ List.mem_map_of_mem member)
  simpa using other

theorem get?_insert_self (t : Table κ α) (k : κ) (a : α) : (t.insert k a).get? k = some a := by
  rw [get?_insert, if_pos rfl]

theorem get?_insert_of_ne {k q : κ} (other : q ≠ k) (t : Table κ α) (a : α) :
    (t.insert k a).get? q = t.get? q := by
  rw [get?_insert, if_neg other]

/-- What holds of every entry holds after an insertion if it holds of the new entry. -/
theorem holds_insert {P : κ → α → Prop} {t : Table κ α} {k : κ} {a : α} (new : P k a)
    (old : ∀ q b, t.get? q = some b → P q b) : ∀ q b, (t.insert k a).get? q = some b → P q b := by
  intro q b found
  rw [get?_insert] at found
  split at found
  · rename_i same
    cases same
    cases found
    exact new
  · exact old q b found

theorem holds_erase {P : κ → α → Prop} {t : Table κ α} {k : κ}
    (old : ∀ q b, t.get? q = some b → P q b) : ∀ q b, (t.erase k).get? q = some b → P q b := by
  intro q b found
  rw [get?_erase] at found
  split at found
  · cases found
  · exact old q b found

/-- An entry with some property that is there after an insertion is another one that was there before,
unless the new entry has the property. -/
theorem exists_of_insert {P : α → Prop} {t : Table κ α} {k q : κ} {a : α} (lacks : ¬ P a)
    (has : ∃ b, (t.insert k a).get? q = some b ∧ P b) : q ≠ k ∧ ∃ b, t.get? q = some b ∧ P b := by
  obtain ⟨b, found, property⟩ := has
  rw [get?_insert] at found
  split at found
  · cases found
    exact absurd property lacks
  · rename_i other
    exact ⟨other, b, found, property⟩

theorem exists_of_erase {P : α → Prop} {t : Table κ α} {k q : κ}
    (has : ∃ b, (t.erase k).get? q = some b ∧ P b) : q ≠ k ∧ ∃ b, t.get? q = some b ∧ P b := by
  obtain ⟨b, found, property⟩ := has
  rw [get?_erase] at found
  split at found
  · cases found
  · rename_i other
    exact ⟨other, b, found, property⟩

theorem contains_modify (t : Table κ α) (k : κ) (f : α → α) (q : κ) :
    (t.modify k f).contains q = t.contains q := by
  rw [contains_eq_isSome, contains_eq_isSome, get?_modify]
  split <;> simp

theorem contains_insert (t : Table κ α) (k : κ) (a : α) (q : κ) :
    (t.insert k a).contains q = (decide (q = k) || t.contains q) := by
  rw [contains_eq_isSome, contains_eq_isSome, get?_insert]
  by_cases same : q = k <;> simp [same]

theorem contains_erase (t : Table κ α) (k q : κ) :
    (t.erase k).contains q = (!decide (q = k) && t.contains q) := by
  rw [contains_eq_isSome, contains_eq_isSome, get?_erase]
  by_cases same : q = k <;> simp [same]

/-- Another value for a key that is there makes no difference to which keys are. -/
theorem contains_insert_of_get? {t : Table κ α} {k : κ} {b : α} (found : t.get? k = some b) (a : α)
    (q : κ) : (t.insert k a).contains q = t.contains q := by
  rw [contains_insert]
  by_cases same : q = k
  · simp [same, contains_eq_isSome, found]
  · simp [same]

/-- Looking up the keys of some entries brings the entries back. -/
theorem filterMap_get? {β : Type} (t : Table κ α) {p q : α → Bool}
    (among : ∀ k a, t.get? k = some a → p a = true → q a = true) (f : κ → α → β) :
    ((t.entries.filter fun e => q e.2).map Prod.fst).filterMap
        (fun k => ((t.get? k).filter p).map (f k)) =
      (t.entries.filter fun e => p e.2).map fun e => f e.1 e.2 := by
  have listed : ∀ es : List (κ × α), (∀ e ∈ es, t.get? e.1 = some e.2) →
      ((es.filter fun e => q e.2).map Prod.fst).filterMap
          (fun k => ((t.get? k).filter p).map (f k)) =
        (es.filter fun e => p e.2).map fun e => f e.1 e.2 := by
    intro es known
    induction es with
    | nil => rfl
    | cons e rest ih =>
        have others := ih fun e member => known e (List.mem_cons_of_mem _ member)
        have here := known e List.mem_cons_self
        cases holds : p e.2 with
        | true =>
            have value : ((t.get? e.1).filter p).map (f e.1) = some (f e.1 e.2) := by
              rw [here, Option.filter_some, if_pos holds]
              rfl
            simp only [List.filter_cons, among e.1 e.2 here holds, holds, if_true, List.map_cons,
              List.filterMap_cons, value, others]
        | false =>
            have nothing : ((t.get? e.1).filter p).map (f e.1) = none := by
              rw [here, Option.filter_some, if_neg (by simp [holds])]
              rfl
            cases member : q e.2 with
            | true => simp [member, holds, nothing, others]
            | false => simp [member, holds, others]
  exact listed t.entries fun e member => mem_entries_iff.mp member

/-- At most one entry has a key. -/
theorem filter_key (t : Table κ α) (k : κ) (p : α → Bool) :
    (t.entries.filter fun e => decide (e.1 = k) && p e.2) =
      (((t.get? k).filter p).map fun a => (k, a)).toList := by
  obtain ⟨entries, distinct⟩ := t
  show _ = (((entries.lookup k).filter p).map fun a => (k, a)).toList
  induction entries with
  | nil => rfl
  | cons e rest ih =>
      obtain ⟨fresh, distinct⟩ := List.nodup_cons.mp distinct
      by_cases here : e.1 = k
      · have none : (rest.filter fun e => decide (e.1 = k) && p e.2) = [] := by
          refine List.filter_eq_nil_iff.mpr fun other member => ?_
          have apart : other.1 ≠ k := by
            intro same
            exact fresh (List.mem_map.mpr ⟨other, member, same.trans here.symm⟩)
          simp [apart]
        have looked : (e :: rest).lookup k = some e.2 := by
          rw [List.lookup_cons, here, beq_self_eq_true]
        rw [List.filter_cons, none, looked, Option.filter_some, ← here]
        cases p e.2 <;> simp
      · have looked : (e :: rest).lookup k = rest.lookup k := by
          rw [List.lookup_cons, beq_eq_false_iff_ne.mpr (Ne.symm here)]
        rw [List.filter_cons_of_neg (by simp [here]), looked]
        exact ih distinct

end Table

namespace Roster

/-- The members of a roster are distinct. -/
theorem nodup_members (r : Roster) : r.members.Nodup := by
  apply r.ascending.imp
  intro a b below same
  rw [SessionId.lt_iff, same] at below
  omega

theorem isEmpty_eq_false_iff {r : Roster} : r.isEmpty = false ↔ ∃ s, s ∈ r := by
  rw [← Bool.not_eq_true, isEmpty_iff]
  constructor
  · intro some
    exact Classical.byContradiction fun none => some fun s member => none ⟨s, member⟩
  · rintro ⟨s, member⟩ none
    exact none s member

theorem erase_of_not_mem {r : Roster} {s : SessionId} (absent : ¬ s ∈ r) : r.erase s = r := by
  have kept : r.members.filter (· ≠ s) = r.members := by
    refine List.filter_eq_self.mpr fun q member => ?_
    have other : q ≠ s := by
      rintro rfl
      exact absent member
    simpa using other
  cases r
  simp only [erase, kept]

/-- Nobody is left without a member exactly if it was the only one. -/
theorem isEmpty_erase_iff {r : Roster} {s : SessionId} :
    r.isEmpty = false ∧ (r.erase s).isEmpty = true ↔ r.members = [s] := by
  constructor
  · rintro ⟨occupied, empty⟩
    have only : ∀ q ∈ r.members, q = s := by
      intro q member
      refine Classical.byContradiction fun other => ?_
      exact isEmpty_iff.mp empty q (mem_erase.mpr ⟨member, other⟩)
    have distinct := r.nodup_members
    match listed : r.members with
    | [] => simp [isEmpty, listed] at occupied
    | [q] => rw [only q (by simp [listed])]
    | q :: q' :: rest =>
        have same : q = q' :=
          (only q (by simp [listed])).trans (only q' (by simp [listed])).symm
        simp [listed, same] at distinct
  · intro only
    constructor
    · simp [isEmpty, only]
    · simp [isEmpty, erase, only]

end Roster

end TopoSync
