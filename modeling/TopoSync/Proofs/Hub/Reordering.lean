import TopoSync.Proofs.Attempts
import TopoSync.Proofs.Hub.Scopes

/-!
# Frames and saves in another order

Frames of one length may be sent in any order: every session is offered as many, so as many are taken,
missed and counted.  Saves of distinct maps, or of distinct nodes, may be done in any order, because
each of them changes one entry and counts for it.
-/

namespace TopoSync

theorem addressed_perm {α : Type} {log log' : List (SessionId × α)} (perm : log.Perm log')
    (id : SessionId) : (addressed id log).Perm (addressed id log') :=
  (perm.filter _).map _

namespace QueueReader

variable {α : Type} (r : QueueReader)

/-- How many frames are taken depends on how many are offered. -/
theorem length_taken_congr {frames frames' : List α} (same : frames.length = frames'.length) :
    (r.taken frames).length = (r.taken frames').length := by
  cases r with
  | staying => exact same
  | leaving left => simp only [taken, List.length_take, same]

theorem taken_map {β : Type} (f : α → β) (frames : List α) :
    r.taken (frames.map f) = (r.taken frames).map f := by
  cases r with
  | staying => rfl
  | leaving left => exact List.map_take.symm

/-- The same is taken in any order, unless the reader goes away meanwhile. -/
theorem taken_perm {frames frames' : List α} (perm : frames.Perm frames') :
    (r.taken frames).Perm (r.taken frames') ∨
      ∃ left, r = .leaving left ∧ 0 < left ∧ left < frames.length := by
  cases r with
  | staying => exact .inl perm
  | leaving left =>
      rcases Nat.lt_or_ge left frames.length with early | late
      · rcases Nat.eq_zero_or_pos left with rfl | some
        · exact .inl (by simp [taken])
        · exact .inr ⟨left, rfl, some, early⟩
      · have late' : frames'.length ≤ left := perm.length_eq ▸ late
        simp only [taken, List.take_of_length_le late, List.take_of_length_le late']
        exact .inl perm

end QueueReader

attribute [ext] DeliveryStats

namespace Router

/-- What the reader of a session takes of what the session is offered, from the first on. -/
def takenBy {α : Type} (r : Router) (q : SessionId) (offered : List α) : List α :=
  ((r.session? q).map fun s => s.reader.taken offered).getD []

theorem takenBy_nil {α : Type} (r : Router) (q : SessionId) : r.takenBy q ([] : List α) = [] := by
  rw [takenBy]
  cases r.session? q with
  | none => rfl
  | some s => exact s.reader.taken_nil

theorem takenBy_map {α β : Type} (r : Router) (q : SessionId) (f : α → β) (offered : List α) :
    r.takenBy q (offered.map f) = (r.takenBy q offered).map f := by
  rw [takenBy, takenBy]
  cases r.session? q with
  | none => rfl
  | some s => exact s.reader.taken_map f offered

/-- As many are taken in another order, and the same unless the reader goes away meanwhile. -/
theorem length_takenBy_perm {α : Type} (r : Router) (q : SessionId) {offered offered' : List α}
    (perm : offered.Perm offered') :
    (r.takenBy q offered).length = (r.takenBy q offered').length := by
  rw [takenBy, takenBy]
  cases r.session? q with
  | none => rfl
  | some s => exact s.reader.length_taken_congr perm.length_eq

theorem takenBy_perm {α : Type} (r : Router) (q : SessionId) {offered offered' : List α}
    (perm : offered.Perm offered') :
    (r.takenBy q offered).Perm (r.takenBy q offered') ∨
      ∃ s left, r.session? q = some s ∧ s.reader = .leaving left ∧ 0 < left ∧
        left < offered.length := by
  rw [takenBy, takenBy]
  cases r.session? q with
  | none => exact .inl (.refl _)
  | some s =>
      refine (s.reader.taken_perm perm).imp_right ?_
      rintro ⟨left, leaves, some, early⟩
      exact ⟨s, left, rfl, leaves, some, early⟩

/-- Every frame for a session is queued to it or missed by it. -/
theorem sent_or_missed (r : Router) (frames : List (SessionId × Frame)) (q : SessionId) :
    (addressed q (r.deliver frames).2.sent).length + (r.missed frames).count q =
      (addressed q r.sent).length + (addressed q frames).length := by
  induction frames generalizing r with
  | nil => simp [deliver, missed]
  | cons e rest ih =>
      have later := ih (r.send e.1 e.2).2
      rw [sent_send, addressed_append, List.length_append] at later
      -- the first frame is queued or missed, if it is for this session at all
      have first : (addressed q (if r.listens e.1 then [(e.1, e.2)] else [])).length +
          (if r.listens e.1 then [] else [e.1]).count q =
            (if e.1 = q then [e.2] else []).length := by
        cases r.listens e.1 <;> by_cases same : e.1 = q <;> simp [same, addressed_cons]
      rw [deliver, missed, send_fst, List.count_append, addressed_cons, List.length_append]
      dsimp only
      omega

/-- Every frame is counted as queued or as missed. -/
theorem framesSent_deliver (r : Router) (frames : List (SessionId × Frame)) :
    (r.deliver frames).2.stats.framesSent + (r.missed frames).length =
      r.stats.framesSent + frames.length := by
  have counted := (r.counts_deliver frames).1
  have every := r.length_accepted_add_missed frames
  omega

/-- The bytes of frames of one length are those of the frames that are not missed. -/
theorem bytesSent_deliver (r : Router) {frames : List (SessionId × Frame)} {size : Nat}
    (sized : ∀ e ∈ frames, e.2.length = size) :
    (r.deliver frames).2.stats.bytesSent + (r.missed frames).length * size =
      r.stats.bytesSent + frames.length * size := by
  have queued : (r.accepted frames).map (fun e => e.2.length) =
      (r.accepted frames).map fun _ => size :=
    List.map_congr_left fun e member => sized e ((r.accepted_sublist frames).subset member)
  rw [(r.counts_deliver frames).2, queued, List.map_const', List.sum_replicate_nat,
    ← r.length_accepted_add_missed frames, Nat.add_mul, Nat.add_assoc]

variable {r : Router} {frames frames' : List (SessionId × Frame)} (perm : frames.Perm frames')

include perm

/-- Everybody misses as many frames in another order. -/
theorem missed_perm : (r.missed frames).Perm (r.missed frames') := by
  rw [List.perm_iff_count]
  intro q
  have one := r.sent_or_missed frames q
  have two := r.sent_or_missed frames' q
  have taken := r.length_takenBy_perm q (addressed_perm perm q)
  have offered := (addressed_perm perm q).length_eq
  rw [addressed_sent_deliver, List.length_append, ← takenBy] at one two
  omega

/-- The order of frames matters only to the order in which they are queued, and to which of them are
queued to a session whose reader goes away in between. -/
theorem deliver_reordered {size : Nat} (sized : ∀ e ∈ frames, e.2.length = size) :
    (∀ q, (r.deliver frames').2.session? q = (r.deliver frames).2.session? q) ∧
      (∀ q, q ∈ (r.deliver frames').2.failed ↔ q ∈ (r.deliver frames).2.failed) ∧
      (r.deliver frames').2.stats = (r.deliver frames).2.stats := by
  have missed := missed_perm (r := r) perm
  have sized' : ∀ e ∈ frames', e.2.length = size := fun e member => sized e (perm.mem_iff.mpr member)
  refine ⟨fun q => ?_, fun q => ?_, ?_⟩
  · rw [session?_deliver, session?_deliver, (addressed_perm perm q).length_eq]
  · rw [mem_failed_deliver, mem_failed_deliver, missed.mem_iff]
  · have count := perm.length_eq
    have count' := missed.length_eq
    ext
    · have one := r.framesSent_deliver frames
      have two := r.framesSent_deliver frames'
      omega
    · have one := r.bytesSent_deliver sized
      have two := r.bytesSent_deliver sized'
      rw [← count, ← count'] at two
      omega
    · rw [failedDeliveries_deliver, failedDeliveries_deliver, count']

end Router

namespace MemoryStore

/-- Saves of distinct maps can be exchanged. -/
theorem saveMap_saveMap (s : MemoryStore) {map map' : MapId} (apart : map ≠ map')
    (contents contents' : Diagram) :
    (Store.saveMap (Store.saveMap s map contents).2 map' contents').2.AgreesOn .everything
      (Store.saveMap (Store.saveMap s map' contents').2 map contents).2 := by
  cases refused : s.refusing with
  | true =>
      simp only [Store.saveMap, refused, if_true]
      exact .refl s
  | false =>
      have taken : ∀ q d, (s.putMap q d).refusing = false := fun _ _ => refused
      simp only [Store.saveMap, refused, taken, Bool.false_eq_true, if_false]
      refine ⟨fun q => ?_, fun q _ => ?_, fun q _ => ?_, fun _ _ => rfl, fun _ _ => rfl, rfl⟩
      · simp only [get?_maps_putMap]
        grind
      · simp only [get?_maps_putMap]
        grind
      · simp only [get?_mapSaves_putMap, mapSaveCount]
        grind

/-- Saves of distinct nodes can be exchanged. -/
theorem saveNode_saveNode (s : MemoryStore) {node node' : NodeId} (apart : node ≠ node')
    (fields fields' : NodeFields) :
    (Store.saveNode (Store.saveNode s node fields).2 node' fields').2.AgreesOn .everything
      (Store.saveNode (Store.saveNode s node' fields').2 node fields).2 := by
  cases refused : s.refusing with
  | true =>
      simp only [Store.saveNode, refused, if_true]
      exact .refl s
  | false =>
      have taken : ∀ q f, (s.putNode q f).refusing = false := fun _ _ => refused
      simp only [Store.saveNode, refused, taken, Bool.false_eq_true, if_false]
      refine ⟨fun _ => rfl, fun _ _ => rfl, fun _ _ => rfl, fun q _ => ?_, fun q _ => ?_, rfl⟩
      · simp only [get?_nodes_putNode]
        grind
      · simp only [get?_nodeSaves_putNode, nodeSaveCount]
        grind

section AnyOrder

variable {κ β : Type} (save : MemoryStore → κ × β → MemoryStore)
  (both : ∀ {s s'} (e : κ × β), s.AgreesOn .everything s' →
    (save s e).AgreesOn .everything (save s' e))
  (swap : ∀ s (e f : κ × β), e.1 ≠ f.1 →
    (save (save s e) f).AgreesOn .everything (save (save s f) e))

include both

theorem foldl_agrees (entries : List (κ × β)) {s s' : MemoryStore}
    (same : s.AgreesOn .everything s') :
    (entries.foldl save s).AgreesOn .everything (entries.foldl save s') := by
  induction entries generalizing s s' with
  | nil => exact same
  | cons e rest ih => exact ih (both e same)

include swap

/-- What can be exchanged two by two can be done in any order. -/
theorem foldl_perm {entries entries' : List (κ × β)} (perm : entries.Perm entries')
    (distinct : (entries.map Prod.fst).Nodup) (s : MemoryStore) :
    (entries.foldl save s).AgreesOn .everything (entries'.foldl save s) := by
  induction perm generalizing s with
  | nil => exact .refl s
  | cons e _ ih => exact ih (List.nodup_cons.mp distinct).2 _
  | swap e f rest =>
      have apart : f.1 ≠ e.1 := by
        rintro same
        exact (List.nodup_cons.mp distinct).1 (by simp [same])
      exact foldl_agrees save both rest (swap s f e apart)
  | trans first _ one two =>
      exact (one distinct s).trans (two ((first.map _).nodup_iff.mp distinct) s)

end AnyOrder

/-- Distinct maps can be saved in any order. -/
theorem saveMaps_perm {maps maps' : List (MapId × Diagram)} (perm : maps.Perm maps')
    (distinct : (maps.map Prod.fst).Nodup) (s : MemoryStore) :
    (Store.saveMaps s maps).AgreesOn .everything (Store.saveMaps s maps') :=
  foldl_perm (fun s e => (Store.saveMap s e.1 e.2).2) (fun e same => same.saveMap trivial e.2)
    (fun s _ _ apart => s.saveMap_saveMap apart _ _) perm distinct s

/-- Distinct nodes can be saved in any order. -/
theorem saveNodes_perm {nodes nodes' : List (NodeId × NodeFields)} (perm : nodes.Perm nodes')
    (distinct : (nodes.map Prod.fst).Nodup) (s : MemoryStore) :
    (Store.saveNodes s nodes).AgreesOn .everything (Store.saveNodes s nodes') :=
  foldl_perm (fun s e => (Store.saveNode s e.1 e.2).2) (fun e same => same.saveNode trivial e.2)
    (fun s _ _ apart => s.saveNode_saveNode apart _ _) perm distinct s

end MemoryStore

end TopoSync
