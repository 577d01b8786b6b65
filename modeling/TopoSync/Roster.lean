/-!
# Sessions and rosters of sessions

A roster is a set of sessions kept in ascending order, so that two rosters with the same members
are equal and a broadcast always visits them in the same order.
-/

namespace TopoSync

/-- The number of a session. -/
structure SessionId where
  number : UInt64
deriving DecidableEq, Repr

namespace SessionId

instance : LT SessionId := ⟨fun a b => a.number < b.number⟩

instance (a b : SessionId) : Decidable (a < b) :=
  inferInstanceAs (Decidable (a.number < b.number))

theorem lt_iff {a b : SessionId} : a < b ↔ a.number.toNat < b.number.toNat :=
  UInt64.lt_iff_toNat_lt

theorem eq_of_toNat_eq {a b : SessionId} (h : a.number.toNat = b.number.toNat) : a = b := by
  cases a
  cases b
  simpa using UInt64.toNat_inj.mp h

/-- The name of a session in messages. -/
def name (s : SessionId) : String :=
  s!"session-{s.number.toNat}"

end SessionId

/-- A set of sessions, in ascending order. -/
structure Roster where
  members : List SessionId
  ascending : members.Pairwise (· < ·)
deriving DecidableEq, Repr

namespace Roster

/-- The roster without members. -/
def empty : Roster :=
  ⟨[], List.Pairwise.nil⟩

instance : EmptyCollection Roster := ⟨empty⟩

instance : Membership SessionId Roster := ⟨fun r s => s ∈ r.members⟩

instance (s : SessionId) (r : Roster) : Decidable (s ∈ r) :=
  inferInstanceAs (Decidable (s ∈ r.members))

theorem mem_def {s : SessionId} {r : Roster} : s ∈ r ↔ s ∈ r.members := Iff.rfl

/-- Puts a session into an ascending list. -/
def place (s : SessionId) : List SessionId → List SessionId
  | [] => [s]
  | t :: rest => if s < t then s :: t :: rest else if t < s then t :: place s rest else t :: rest

theorem mem_place {s q : SessionId} {xs : List SessionId} : q ∈ place s xs ↔ q = s ∨ q ∈ xs := by
  induction xs with
  | nil => simp [place]
  | cons t rest ih =>
      unfold place
      split
      · simp
      · split
        · simp only [List.mem_cons, ih]
          constructor
          · rintro (h | h | h) <;> simp [h]
          · rintro (h | h | h) <;> simp [h]
        · rename_i low high
          have same : t = s := SessionId.eq_of_toNat_eq (by
            rw [SessionId.lt_iff] at low high
            omega)
          subst same
          simp

theorem pairwise_place {s : SessionId} {xs : List SessionId} (h : xs.Pairwise (· < ·)) :
    (place s xs).Pairwise (· < ·) := by
  induction xs with
  | nil => simp [place]
  | cons t rest ih =>
      obtain ⟨above, rest_ascending⟩ := List.pairwise_cons.mp h
      unfold place
      split
      · rename_i low
        refine List.pairwise_cons.mpr ⟨?_, h⟩
        intro q hq
        rcases List.mem_cons.mp hq with rfl | hq
        · exact low
        · have := above q hq
          rw [SessionId.lt_iff] at low this ⊢
          omega
      · split
        · rename_i high
          refine List.pairwise_cons.mpr ⟨?_, ih rest_ascending⟩
          intro q hq
          rcases mem_place.mp hq with rfl | hq
          · exact high
          · exact above q hq
        · exact h

/-- The roster with one more member. -/
def insert (r : Roster) (s : SessionId) : Roster :=
  ⟨place s r.members, pairwise_place r.ascending⟩

/-- The roster without a member. -/
def erase (r : Roster) (s : SessionId) : Roster :=
  ⟨r.members.filter (· ≠ s), r.ascending.sublist List.filter_sublist⟩

/-- Whether nobody is left. -/
def isEmpty (r : Roster) : Bool :=
  r.members.isEmpty

/-- How many members there are. -/
def size (r : Roster) : Nat :=
  r.members.length

@[simp] theorem not_mem_empty (s : SessionId) : ¬ s ∈ (∅ : Roster) := List.not_mem_nil

theorem mem_insert {r : Roster} {s q : SessionId} : q ∈ r.insert s ↔ q = s ∨ q ∈ r :=
  mem_place

theorem mem_erase {r : Roster} {s q : SessionId} : q ∈ r.erase s ↔ q ∈ r ∧ q ≠ s := by
  simp [mem_def, erase]

theorem isEmpty_iff {r : Roster} : r.isEmpty = true ↔ ∀ s, ¬ s ∈ r := by
  simp [isEmpty, mem_def, List.isEmpty_iff, List.eq_nil_iff_forall_not_mem]

end Roster

end TopoSync
