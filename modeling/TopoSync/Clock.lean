/-!
# Clocks

Whatever is done in a row is done at times of its own: a clock is looked at once for each of the
things, and what it shows then goes with the thing.
-/

namespace TopoSync

/-- What a clock shows whenever it is looked at, in seconds. -/
structure Clock where
  /-- What it shows at first, look by look. -/
  readings : List UInt32
  /-- What it shows from then on. -/
  final : UInt32
deriving DecidableEq, Repr

namespace Clock

variable {α : Type}

/-- A clock that stands still. -/
def still (time : UInt32) : Clock :=
  ⟨[], time⟩

/-- A numeral is a clock that stands still. -/
instance (n : Nat) : OfNat Clock n :=
  ⟨still (UInt32.ofNat n)⟩

/-- What a clock shows after some seconds; it stops at the last time that fits into a word. -/
def reading (seconds : Nat) : UInt32 :=
  UInt32.ofNat (min seconds (UInt32.size - 1))

/-- What a clock shows when it is looked at now. -/
def now (c : Clock) : UInt32 :=
  c.readings.headD c.final

/-- A clock that has been looked at some times. -/
def after (c : Clock) (looks : Nat) : Clock :=
  { c with readings := c.readings.drop looks }

/-- A clock with one of its readings left out. -/
def without (c : Clock) (look : Nat) : Clock :=
  { c with readings := c.readings.eraseIdx look }

/-- Things done in a row, each with what the clock shows then. -/
def stamp : Clock → List α → List (UInt32 × α)
  | _, [] => []
  | c, a :: rest => (c.now, a) :: (c.after 1).stamp rest

/-- A reading is right as long as the seconds fit into a word, and it never starts again. -/
theorem toNat_reading (seconds : Nat) : (reading seconds).toNat = min seconds (UInt32.size - 1) := by
  have fits : min seconds (UInt32.size - 1) < UInt32.size :=
    Nat.lt_of_le_of_lt (Nat.min_le_right _ _) (by decide)
  rw [reading, UInt32.toNat_ofNat', Nat.mod_eq_of_lt fits]

theorem after_after (c : Clock) (first more : Nat) :
    (c.after first).after more = c.after (first + more) := by
  rw [after, after, after, List.drop_drop]

@[simp] theorem after_still (time : UInt32) (looks : Nat) :
    (still time).after looks = still time := by
  rw [still, after, List.drop_nil]

@[simp] theorem after_ofNat (n looks : Nat) :
    (OfNat.ofNat n : Clock).after looks = OfNat.ofNat n :=
  after_still _ looks

@[simp] theorem map_snd_stamp (c : Clock) (xs : List α) : (c.stamp xs).map Prod.snd = xs := by
  induction xs generalizing c with
  | nil => rfl
  | cons a rest ih => exact congrArg (a :: ·) (ih _)

theorem stamp_append (c : Clock) (xs ys : List α) :
    c.stamp (xs ++ ys) = c.stamp xs ++ (c.after xs.length).stamp ys := by
  induction xs generalizing c with
  | nil => rfl
  | cons a rest ih =>
      rw [List.cons_append, stamp, ih, after_after, List.length_cons, Nat.add_comm 1]
      rfl

theorem now_without_succ (c : Clock) (look : Nat) : (c.without (look + 1)).now = c.now := by
  obtain ⟨_ | ⟨t, rest⟩, final⟩ := c <;> rfl

theorem after_without (c : Clock) (look : Nat) :
    (c.without (look + 1)).after 1 = (c.after 1).without look := by
  obtain ⟨_ | ⟨t, rest⟩, final⟩ := c <;> rfl

/-- The other things get the readings that they would have got with one thing among them. -/
theorem stamp_without (c : Clock) (xs ys : List α) :
    (c.without xs.length).stamp (xs ++ ys) = c.stamp xs ++ (c.after (xs.length + 1)).stamp ys := by
  induction xs generalizing c with
  | nil =>
      have first : c.without 0 = c.after 1 := by
        obtain ⟨_ | ⟨t, rest⟩, final⟩ := c <;> rfl
      exact congrArg (fun c : Clock => c.stamp ys) first
  | cons a rest ih =>
      rw [List.length_cons, List.cons_append, stamp, now_without_succ, after_without, ih, after_after,
        Nat.add_comm 1]
      rfl

end Clock

end TopoSync
