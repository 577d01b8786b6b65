import TopoSync.Proofs.Sights

/-!
# Copies of what is open

A session makes itself a copy of everything that it has open out of what it sees, one sight after the
other.  Maps and nodes have this in common: they stand in a table, each entry has its subscribers,
and a copy has to agree with what its session is supposed to see of the entry.
-/

namespace TopoSync

variable {κ α β : Type}

/-- The copy that results from some sights. -/
def copyOf (see : κ → Option β → Sight Notification → Option β) (k : κ)
    (seen : List (Sight Notification)) : Option β :=
  seen.foldl (see k) none

variable {see : κ → Option β → Sight Notification → Option β}

theorem copyOf_append (k : κ) (seen more : List (Sight Notification)) :
    copyOf see k (seen ++ more) = more.foldl (see k) (copyOf see k seen) :=
  List.foldl_append

/-- What is shown once or not at all, and leaves a copy alone, can be passed over. -/
theorem foldl_see_of_unconcerned {sight : Sight Notification} {k : κ}
    (unconcerned : ∀ copy, see k copy sight = copy) (shown : Prop) [Decidable shown]
    (copy : Option β) : (if shown then [sight] else []).foldl (see k) copy = copy := by
  split
  · exact unconcerned copy
  · rfl

variable [DecidableEq κ]

/-- Whether a session has a right copy of every entry that it subscribes to. -/
def Copied (see : κ → Option β → Sight Notification → Option β) (members : α → Roster)
    (view : α → β) (viewer : SessionId) (t : Table κ α) (seen : List (Sight Notification)) : Prop :=
  ∀ k a, t.get? k = some a → viewer ∈ members a → copyOf see k seen = some (view a)

namespace Copied

variable {members : α → Roster} {view : α → β} {viewer : SessionId} {t : Table κ α}
variable {seen more : List (Sight Notification)}

/-- Copies stay right if nothing is shown that concerns them. -/
theorem pass (copied : Copied see members view viewer t seen)
    (unconcerned : ∀ k copy, more.foldl (see k) copy = copy) :
    Copied see members view viewer t (seen ++ more) := by
  intro k a found member
  rw [copyOf_append, unconcerned]
  exact copied k a found member

/-- Copies stay right if somebody is told something that concerns none of them. -/
theorem pass_letter (copied : Copied see members view viewer t seen) {session : SessionId}
    {n : Notification} (unconcerned : ∀ k copy, see k copy (.told n) = copy) :
    Copied see members view viewer t (seen ++ shown viewer [.letter (session, n)]) := by
  apply copied.pass
  intro k copy
  rw [shown_letter]
  exact foldl_see_of_unconcerned (unconcerned k) _ copy

/-- Copies stay right when an entry goes. -/
theorem erase (copied : Copied see members view viewer t seen) (k : κ) :
    Copied see members view viewer (t.erase k) seen := by
  intro q a found member
  rw [Table.get?_erase] at found
  split at found
  · cases found
  · exact copied q a found member

/-- When an entry comes or changes, what is shown has to bring its copy up to date and to leave the
other copies alone. -/
theorem insert (copied : Copied see members view viewer t seen) {k : κ} {a : α}
    (reached : viewer ∈ members a → more.foldl (see k) (copyOf see k seen) = some (view a))
    (others : ∀ q, q ≠ k → ∀ copy, more.foldl (see q) copy = copy) :
    Copied see members view viewer (t.insert k a) (seen ++ more) := by
  intro q b found member
  rw [Table.get?_insert] at found
  rw [copyOf_append]
  split at found
  · rename_i same
    subst same
    cases found
    exact reached member
  · rename_i other
    rw [others q other]
    exact copied q b found member

/-- Whoever subscribes to an entry is shown all of it; the other subscribers have their copies. -/
theorem join (copied : Copied see members view viewer t seen) {session : SessionId}
    {n : Notification} {k : κ} {a : α} {before : Roster}
    (subscribed : members a = before.insert session)
    (snapshot : session = viewer → ∀ copy, see k copy (.told n) = some (view a))
    (already : viewer ∈ before → copyOf see k seen = some (view a))
    (others : ∀ q, q ≠ k → ∀ copy, see q copy (.told n) = copy) :
    Copied see members view viewer (t.insert k a)
      (seen ++ shown viewer [.letter (session, n)]) := by
  rw [shown_letter]
  apply copied.insert
  · intro member
    by_cases own : session = viewer
    · rw [if_pos own]
      exact snapshot own _
    · rw [if_neg own]
      rw [subscribed] at member
      rcases Roster.mem_insert.mp member with same | earlier
      · exact absurd same.symm own
      · exact already earlier
  · intro q other copy
    exact foldl_see_of_unconcerned (others q other) _ copy

end Copied

end TopoSync
