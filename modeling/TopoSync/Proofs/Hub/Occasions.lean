import TopoSync.Proofs.Placeholding
import TopoSync.Proofs.Reaping

/-!
# What gives rise to a letter

Every letter that an act posts has its occasion: something was asked for and found, an edit was made,
or something became of a lock or of the fields of a node.  What holds of all that is posted is proved
occasion by occasion.
-/

namespace TopoSync.Hub

variable {σ : Type} [Store σ]

/-- What an act tells, whom, and why. -/
inductive Occasion (h : Hub σ) : Act → Letter → Prop
  | mapsListed {id : SessionId} {now : UInt32} {frame : Bytes} {entries : List MapEntry}
      (asked : Request.ofFrame? frame = some .getMapList)
      (read : (Store.listMaps h.store).1 = .ok entries) :
      Occasion h (.answer id now frame) (id, .mapList (entries.filter fun e => e.id ≠ 0))
  | mapOpened {id : SessionId} {now : UInt32} {frame : Bytes} {map : MapId} {m : OpenMap}
      (asked : Request.ofFrame? frame = some (.openMap map)) (real : map ≠ 0)
      (fetched : (h.fetchMap map).1 = .ok m) :
      Occasion h (.answer id now frame) (id, .mapSnapshot map m.diagram)
  | edited {id s : SessionId} {now : UInt32} {frame : Bytes} {request : Request} {map : MapId}
      {e : Edit} {m : OpenMap} (asked : Request.ofFrame? frame = some request)
      (done : h.deed? id request = some (.edited map e)) (found : h.maps.get? map = some m)
      (member : s ∈ m.subscribers) :
      Occasion h (.answer id now frame) (s, e.notice map)
  | received {id : SessionId} {now : UInt32} {frame : Bytes} {request : Request} {map : MapId}
      {e : Edit} {m : OpenMap} {old : ElementId} {n : Notification}
      (asked : Request.ofFrame? frame = some request)
      (done : h.deed? id request = some (.edited map e)) (found : h.maps.get? map = some m)
      (member : id ∈ m.subscribers) (receipt : n ∈ e.receipt map old)
      (wanted : e.isAddition = true → request.addition? = some (e.subject.1, map, old)) :
      Occasion h (.answer id now frame) (id, n)
  | nodeMissed {id : SessionId} {now : UInt32} {frame : Bytes} {node : NodeId}
      (asked : Request.ofFrame? frame = some (.openNode node)) :
      Occasion h (.answer id now frame) (id, .nodeMissing node)
  | nodeOpened {id : SessionId} {now : UInt32} {frame : Bytes} {node : NodeId} {n : OpenNode}
      (asked : Request.ofFrame? frame = some (.openNode node))
      (fetched : (h.fetchNode node).1 = .ok n) :
      Occasion h (.answer id now frame)
        (id, .nodeSnapshot node (n.kindFor id) (n.holder.map Holder.view) n.record)
  | nodeLocked {a : Act} {s : SessionId} {node : NodeId} {kind : LockKind} {view : HolderView}
      (views : h.ViewsNode s node) : Occasion h a (s, .nodeLocked node kind view)
  | nodeUnlocked {a : Act} {s : SessionId} {node : NodeId} (views : h.ViewsNode s node) :
      Occasion h a (s, .nodeUnlocked node)
  | nodeUpdated {a : Act} {s : SessionId} {node : NodeId} {fields : NodeFields}
      (views : h.ViewsNode s node) : Occasion h a (s, .nodeUpdated node fields)

variable {h : Hub σ} {id : SessionId} {now : UInt32} {frame : Bytes} {request : Request} {l : Letter}

theorem occasion_of_unlockLetters {a : Act} {session : SessionId} {node : NodeId}
    (listed : l ∈ h.unlockLetters session node) : h.Occasion a l := by
  rw [unlockLetters] at listed
  split at listed
  · cases listed
  · rename_i n held
    obtain ⟨s, member, rfl⟩ := List.mem_map.mp listed
    exact .nodeUnlocked ⟨n, (heldNode?_eq_some_iff.mp held).1, member⟩

/-- The letters of a request for an edit are those of its deed.  The receipt for an addition names the
placeholder under which the request wanted the element added. -/
theorem lettersOf_edit {map : MapId} (wants : request.editedMap? = some map) (h : Hub σ)
    (session : SessionId) (now : UInt32) :
    ∃ old, h.lettersOf session now request = h.deedLetters session old (h.deed? session request) ∧
      ∀ e, h.deed? session request = some (.edited map e) → e.isAddition = true →
        request.addition? = some (e.subject.1, map, old) := by
  cases request with
  | addSymbol q id x y | addConnection q id sym0 sym1 =>
      obtain rfl := Option.some.inj wants
      refine ⟨id, rfl, fun e done _ => ?_⟩
      rw [(subject_of_addition rfl done).1]
      rfl
  | deleteSymbol q id | translateSymbol q id dx dy | deleteConnection q id =>
      obtain rfl := Option.some.inj wants
      refine ⟨id, rfl, fun e done adds => ?_⟩
      rw [(subject_of_use rfl done).2] at adds
      cases adds
  | _ => cases wants

/-- Whatever letter a request for an edit gives rise to is the receipt for the edit or the notice of
it. -/
theorem occasion_of_edit {map : MapId} (asked : Request.ofFrame? frame = some request)
    (wants : request.editedMap? = some map) (listed : l ∈ h.lettersOf id now request) :
    h.Occasion (.answer id now frame) l := by
  obtain ⟨old, letters, wanted⟩ := lettersOf_edit wants h id now
  rw [letters] at listed
  rcases edit_cases wants h now with ⟨idle, _⟩ | ⟨e, m, done, _, found, member, _⟩
  · rw [idle] at listed
    cases listed
  · rw [done, deedLetters, found] at listed
    rcases List.mem_append.mp listed with receipt | notice
    · obtain ⟨n, received, rfl⟩ := List.mem_map.mp receipt
      exact .received asked done found member received (wanted e done)
    · obtain ⟨s, subscribed, rfl⟩ := mem_lettersToOthers notice
      exact .edited asked done found subscribed

/-- The node that is missing is the one that was asked for. -/
theorem missing_of_fetchNode {node k : NodeId}
    (fetched : (h.fetchNode node).1 = .error (.nodeNotFound k)) : k = node := by
  rw [fetchNode] at fetched
  split at fetched
  · cases fetched
  · split at fetched
    · cases fetched
    · cases fetched
      rfl
    · cases fetched

/-- Every letter of a request has its occasion. -/
theorem occasion_of_lettersOf (asked : Request.ofFrame? frame = some request)
    (listed : l ∈ h.lettersOf id now request) : h.Occasion (.answer id now frame) l := by
  by_cases wants : ∃ map, request.editedMap? = some map
  · obtain ⟨map, wants⟩ := wants
    exact occasion_of_edit asked wants listed
  · cases request with
    | getMapList =>
        rw [lettersOf] at listed
        split at listed
        · cases listed
        · rename_i entries read
          cases List.mem_singleton.mp listed
          exact .mapsListed asked read
    | openMap map =>
        rw [lettersOf] at listed
        split at listed
        · cases listed
        · rename_i real
          split at listed
          · cases listed
          · rename_i m fetched
            cases List.mem_singleton.mp listed
            exact .mapOpened asked real fetched
    | openNode node =>
        rw [lettersOf] at listed
        split at listed
        · rename_i k fetched
          cases List.mem_singleton.mp listed
          obtain rfl := missing_of_fetchNode fetched
          exact .nodeMissed asked
        · cases listed
        · rename_i n fetched
          cases List.mem_singleton.mp listed
          exact .nodeOpened asked fetched
    | closeNode node =>
        rw [lettersOf] at listed
        split at listed
        · exact occasion_of_unlockLetters listed
        · cases listed
    | unlockNode node => exact occasion_of_unlockLetters listed
    | lockNode node =>
        rw [lettersOf, lockingLetters] at listed
        split at listed
        · cases listed
        · rename_i n subscribed
          split at listed
          · obtain ⟨s, member, rfl⟩ := List.mem_map.mp listed
            exact .nodeLocked ⟨n, (subscribedNode?_eq_some_iff.mp subscribed).1, member⟩
          · cases listed
    | setNode node fields =>
        rw [lettersOf, deed?, setFields] at listed
        cases held : h.heldNode? id node with
        | none =>
            rw [held] at listed
            cases listed
        | some n =>
            have found := (heldNode?_eq_some_iff.mp held).1
            simp only [held, Except.toOption, Option.map_some, deedLetters, found] at listed
            obtain ⟨s, member, rfl⟩ := mem_lettersToOthers listed
            exact .nodeUpdated ⟨n, found, member⟩
    | login | closeMap | renameSymbol | renameConnection | unsupported => cases listed
    | addSymbol | addConnection | deleteSymbol | deleteConnection | translateSymbol =>
        exact absurd ⟨_, rfl⟩ wants

/-- Everything that an act posts has its occasion. -/
theorem occasion_of_offered {a : Act} (listed : l ∈ h.offered a) : h.Occasion a l := by
  cases a with
  | answer id now frame =>
      rw [offered] at listed
      cases asked : Request.ofFrame? frame with
      | none =>
          rw [asked] at listed
          cases listed
      | some request =>
          rw [asked] at listed
          exact occasion_of_lettersOf asked listed
  | finish id =>
      obtain ⟨node, _, letters⟩ := List.mem_flatMap.mp listed
      exact occasion_of_unlockLetters letters
  | _ => cases listed

end TopoSync.Hub
