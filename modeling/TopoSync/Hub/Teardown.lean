import TopoSync.Hub.Maps
import TopoSync.Hub.Nodes

/-!
# Ending sessions

A session that ends gives back everything that it has open.  Giving back a lock is announced to
others, whose queues may turn out to be without a reader; such sessions are ended in turn.  The
cascade stops because every step takes one session out.
-/

namespace TopoSync

namespace Hub

variable {σ : Type} [Store σ]

theorem sessionIds_writeBackMap (h : Hub σ) (map : MapId) :
    (h.writeBackMap map).sessionIds = h.sessionIds := by
  unfold writeBackMap
  split <;> rfl

theorem sessionIds_closeMap (h : Hub σ) (session : SessionId) (map : MapId) :
    (h.closeMap session map).2.sessionIds = h.sessionIds := by
  unfold closeMap
  split
  · rfl
  · dsimp only
    split
    · exact sessionIds_writeBackMap _ map
    · rfl

theorem sessionIds_closeMaps (h : Hub σ) (session : SessionId) (maps : List MapId) :
    (h.closeMaps session maps).sessionIds = h.sessionIds := by
  induction maps generalizing h with
  | nil => rfl
  | cons map rest ih => exact (ih _).trans (sessionIds_closeMap h session map)

omit [Store σ] in
theorem sessionIds_unlockNode (h : Hub σ) (session : SessionId) (node : NodeId) :
    (h.unlockNode session node).2.sessionIds = h.sessionIds := by
  unfold unlockNode
  split
  · rfl
  · exact sessionIds_notifyAll _ _ _

theorem sessionIds_writeBackNode (h : Hub σ) (node : NodeId) :
    (h.writeBackNode node).sessionIds = h.sessionIds := by
  unfold writeBackNode
  split <;> rfl

theorem sessionIds_leaveNode (h : Hub σ) (session : SessionId) (node : NodeId) :
    (h.leaveNode session node).sessionIds = h.sessionIds := by
  unfold leaveNode
  split
  · rfl
  · dsimp only
    split
    · exact sessionIds_writeBackNode _ node
    · rfl

theorem sessionIds_closeNode (h : Hub σ) (session : SessionId) (node : NodeId) :
    (h.closeNode session node).2.sessionIds = h.sessionIds := by
  unfold closeNode
  split
  · rfl
  · exact (sessionIds_leaveNode _ session node).trans (sessionIds_unlockNode h session node)

theorem sessionIds_closeNodes (h : Hub σ) (session : SessionId) (nodes : List NodeId) :
    (h.closeNodes session nodes).sessionIds = h.sessionIds := by
  induction nodes generalizing h with
  | nil => rfl
  | cons node rest ih => exact (ih _).trans (sessionIds_closeNode h session node)

/-- Ends one session: its subscriptions first, then the session itself. -/
def endSession (h : Hub σ) (session : SessionId) : Hub σ :=
  let h := (h.releaseMaps session).2
  let h := (h.releaseNodes session).2
  { h with router := h.router.unregister session }

/-- Exactly the ended session is gone. -/
theorem sessionIds_endSession (h : Hub σ) (session : SessionId) :
    (h.endSession session).sessionIds = h.sessionIds.filter fun id => id ≠ session := by
  have keys : (h.endSession session).sessionIds =
      ((h.releaseMaps session).2.releaseNodes session).2.sessionIds.filter fun id => id ≠ session :=
    Table.keys_erase _ _
  rw [keys, releaseNodes, sessionIds_closeNodes, releaseMaps, sessionIds_closeMaps]

/-- The failed sessions, and the hub without the marks. -/
def takeFailed (h : Hub σ) : List SessionId × Hub σ :=
  (h.router.takeFailed.1, { h with router := h.router.takeFailed.2 })

/-- Ends some sessions one after the other.  Sessions that fail meanwhile are ended before the next
one on the list. -/
def endSessions (h : Hub σ) : List SessionId → Hub σ
  | [] => h
  | id :: rest =>
      if h.router.isRegistered id then
        let ended := (h.endSession id).takeFailed
        endSessions ended.2 (ended.1 ++ rest)
      else endSessions h rest
termination_by pending => (h.sessionIds.length, pending.length)
decreasing_by
  · rename_i registered
    apply Prod.Lex.left
    have keys : (h.endSession id).takeFailed.2.sessionIds =
        h.sessionIds.filter fun other => other ≠ id := sessionIds_endSession h id
    rw [keys]
    exact List.length_filter_lt_length_iff_exists.mpr
      ⟨id, Router.isRegistered_iff.mp registered, by simp⟩
  · apply Prod.Lex.right
    simp

/-- Ends a session and every session that fails on the way. -/
def disconnect (h : Hub σ) (session : SessionId) : Hub σ :=
  h.endSessions [session]

/-- Ends every session that has failed. -/
def reapFailed (h : Hub σ) : Hub σ :=
  h.takeFailed.2.endSessions h.takeFailed.1

theorem endSessions_nil (h : Hub σ) : h.endSessions [] = h := by
  rw [endSessions]

theorem endSessions_of_registered {h : Hub σ} {id : SessionId}
    (registered : h.router.isRegistered id = true) (rest : List SessionId) :
    h.endSessions (id :: rest) =
      (h.endSession id).takeFailed.2.endSessions ((h.endSession id).takeFailed.1 ++ rest) := by
  rw [endSessions, if_pos registered]

theorem endSessions_of_not_registered {h : Hub σ} {id : SessionId}
    (unknown : h.router.isRegistered id = false) (rest : List SessionId) :
    h.endSessions (id :: rest) = h.endSessions rest := by
  rw [endSessions, if_neg (by simp [unknown])]

end Hub

end TopoSync
