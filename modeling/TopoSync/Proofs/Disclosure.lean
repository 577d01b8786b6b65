import Mathlib
import TopoSync.Proofs.Episodes
import TopoSync.Proofs.Hub.Permanence
import TopoSync.Proofs.Subscribers

/-!
# What becomes known of placeholders

A placeholder is a matter between a session and the hub.  What the hub keeps, saves and sends is in
permanent numbers, and a placeholder is told again only to the session that chose it, to be replaced.
But a session may connect what it calls by placeholders that stand for nothing: these are let through,
and the others get to see them.
-/

namespace TopoSync

/-- The ends of the connection that a request wants to add, with the map. -/
def Request.ends? : Request → Option (MapId × ElementId × ElementId)
  | addConnection map _ sym0 sym1 => some (map, sym0, sym1)
  | login .. | getMapList | openMap _ | closeMap _ | addSymbol .. | renameSymbol ..
  | deleteSymbol .. | translateSymbol .. | renameConnection .. | deleteConnection .. | openNode _
  | closeNode _ | setNode .. | lockNode _ | unlockNode _ | unsupported _ => none

namespace Act

/-- Whether an act answers a session that wants to add an element of a kind to a map under a
placeholder. -/
def Proposes (session : SessionId) (proposal : ElementKind × MapId × ElementId) : Act → Prop
  | answer id _ frame =>
      id = session ∧ (Request.ofFrame? frame).bind Request.addition? = some proposal
  | connect .. | retire .. | buffer .. | finish _ | clearMarks | flush => False

/-- Whether an act adds a connection to a map of which its session calls an end by a given placeholder,
and the placeholder stands for nothing. -/
def LetsThrough {σ : Type} [Store σ] (map : MapId) (id : ElementId) (h : Hub σ) : Act → Prop
  | answer session now frame =>
      ∃ sym0 sym1, (Request.ofFrame? frame).bind Request.ends? = some (map, sym0, sym1) ∧
        (id = sym0 ∨ id = sym1) ∧ id < 0 ∧ h.recorded? .symbol session id = none ∧
        (h.answerFrame session now frame).1 = .ok ()
  | connect .. | retire .. | buffer .. | finish _ | clearMarks | flush => False

end Act

/-- Whatever is said of the placeholders that a notification tells to be replaced, if there are none. -/
theorem Notification.forall_replaced_of_none {n : Notification} (none : n.replaced? = none)
    {P : ElementKind × MapId × ElementId → Prop} :
    ∀ proposal, n.replaced? = some proposal → P proposal := by
  intro proposal told
  cases none.symm.trans told

namespace Hub

variable {σ : Type} [Store σ] {h : Hub σ} {through : MapId → ElementId → Prop}

/-- Whether one of some acts lets a placeholder through. -/
def LetThrough (h : Hub σ) (acts : List Act) (map : MapId) (id : ElementId) : Prop :=
  ∃ before a after, acts = before ++ a :: after ∧ a.LetsThrough map id (h.performAll before)

/-- A frame that asks for an edit is accepted if the edit is made. -/
theorem accepted_of_deed? {session : SessionId} {now : UInt32} {frame : Bytes} {request : Request}
    {map : MapId} {e : Edit} (asked : Request.ofFrame? frame = some request)
    (done : h.deed? session request = some (.edited map e)) :
    (h.answerFrame session now frame).1 = .ok () := by
  obtain ⟨command, answer⟩ := answerFrame_of_ofFrame? (σ := σ) asked
  rcases edit_cases (editedMap?_of_deed? done) h now with ⟨idle, _⟩ | ⟨_, _, _, accepted, _⟩
  · cases idle.symm.trans done
  · rw [answer, accepted]
    rfl

omit [Store σ] in
/-- What a session means by an end is permanent, or it is the end itself, which stands for nothing. -/
theorem eq_of_permanent_neg (ok : h.Translates) {session : SessionId} {sym id : ElementId}
    (same : id = h.permanent Symbol session sym) (negative : id < 0) :
    id = sym ∧ h.recorded? .symbol session id = none := by
  rw [permanent_eq_meant describes_symbol] at same
  obtain ⟨free, itself⟩ := ok.unrecorded_of_neg (same ▸ negative)
  obtain rfl : id = sym := same.trans itself
  exact ⟨rfl, free⟩

/-- The ends of a connection are permanent numbers, unless its act lets them through. -/
theorem resolved_of_deedDone? (ok : h.Translates) {a : Act}
    (lets : ∀ map id, a.LetsThrough map id h → through map id) {map : MapId} {e : Edit}
    (done : h.deedDone? a = some (.edited map e)) : e.Resolved (through map) := by
  cases a with
  | answer session now frame =>
      obtain ⟨request, asked, deed⟩ := Option.bind_eq_some_iff.mp done
      have accepted : (h.answerFrame session now frame).1 = .ok () := accepted_of_deed? asked deed
      cases request with
      | addConnection q temp sym0 sym1 =>
          obtain ⟨new, _, same⟩ := Option.map_eq_some_iff.mp deed
          obtain ⟨rfl, rfl⟩ := Deed.edited.inj same
          intro id isEnd negative
          have ends : (Request.ofFrame? frame).bind Request.ends? = some (q, sym0, sym1) := by
            rw [asked]
            rfl
          rcases isEnd with first | second
          · obtain ⟨own, free⟩ := eq_of_permanent_neg ok first negative
            exact lets q id ⟨sym0, sym1, ends, .inl own, negative, free, accepted⟩
          · obtain ⟨own, free⟩ := eq_of_permanent_neg ok second negative
            exact lets q id ⟨sym0, sym1, ends, .inr own, negative, free, accepted⟩
      | addSymbol | deleteSymbol | translateSymbol | deleteConnection =>
          obtain ⟨_, _, same⟩ := Option.map_eq_some_iff.mp deed
          obtain ⟨_, rfl⟩ := Deed.edited.inj same
          trivial
      | setNode =>
          obtain ⟨_, _, same⟩ := Option.map_eq_some_iff.mp deed
          cases same
      | _ => cases deed
  | _ => cases done

variable {Sound : σ → Prop}

theorem allowed_of_fetchMap {Allowed : MapId → Diagram → Prop}
    (upholds : Store.Upholds Sound Allowed) (ok : h.Confined Sound Allowed) {map : MapId}
    {m : OpenMap} (fetched : (h.fetchMap map).1 = .ok m) : Allowed map m.diagram := by
  rw [fetchMap] at fetched
  split at fetched
  · rename_i m' found
    cases fetched
    exact ok.maps map m found
  · split at fetched
    · cases fetched
    · cases fetched
    · rename_i diagram store loaded
      cases fetched
      exact upholds.loaded ok.store (congrArg Prod.fst loaded)

/-- An edit that an act makes is made to a map that is open, in permanent numbers. -/
theorem resolved_of_edited
    (ok : h.Confined Sound fun map d => d.Resolved (through map)) (translates : h.Translates)
    {a : Act} (lets : ∀ map id, a.LetsThrough map id h → through map id) {map : MapId} {e : Edit}
    (done : h.deedDone? a = some (.edited map e)) :
    0 ≤ e.subject.2 ∧ e.Resolved (through map) := by
  obtain ⟨d, shows, fits, _⟩ := editedTo_perform done
  obtain ⟨m, found, rfl⟩ := Option.map_eq_some_iff.mp shows
  exact ⟨(ok.maps map m found).nonneg_subject fits, resolved_of_deedDone? translates lets done⟩

/-- What an act makes known is in permanent numbers, and a placeholder is told to be replaced only to
the session that proposes it in the act. -/
theorem resolved_of_occasion
    (upholds : Store.Upholds Sound fun map d => d.Resolved (through map))
    (ok : h.Confined Sound fun map d => d.Resolved (through map)) (translates : h.Translates)
    {a : Act} (lets : ∀ map id, a.LetsThrough map id h → through map id) {l : Letter}
    (occasion : h.Occasion a l) :
    l.2.Resolved through ∧ ∀ proposal, l.2.replaced? = some proposal → a.Proposes l.1 proposal := by
  cases occasion with
  | @edited _ _ _ _ _ map e _ asked done =>
      obtain ⟨permanent, ends⟩ :=
        resolved_of_edited ok translates lets (deedDone?_of_asked asked done)
      exact ⟨Edit.resolved_notice permanent ends,
        Notification.forall_replaced_of_none (Edit.replaced?_notice map e)⟩
  | received asked done _ _ receipt wanted =>
      obtain ⟨permanent, _⟩ :=
        resolved_of_edited ok translates lets (deedDone?_of_asked asked done)
      obtain ⟨resolved, adds, replaced⟩ := Edit.resolved_receipt through permanent receipt
      refine ⟨resolved, fun proposal told => ⟨rfl, ?_⟩⟩
      rw [asked]
      exact (wanted adds).trans (replaced.symm.trans told)
  | mapOpened _ _ fetched =>
      exact ⟨allowed_of_fetchMap upholds ok fetched, Notification.forall_replaced_of_none rfl⟩
  | mapsListed | nodeMissed | nodeOpened | nodeLocked | nodeUnlocked | nodeUpdated =>
      exact ⟨trivial, Notification.forall_replaced_of_none rfl⟩

/-- What an act queues is in permanent numbers, and a placeholder is told to be replaced only to the
session that proposes it in the act. -/
theorem resolved_of_queued
    (upholds : Store.Upholds Sound fun map d => d.Resolved (through map))
    (ok : h.Confined Sound fun map d => d.Resolved (through map)) (translates : h.Translates)
    {a : Act} (lets : ∀ map id, a.LetsThrough map id h → through map id) :
    ∃ queued, (h.perform a).router.sent = h.router.sent ++ queued ∧
      ∀ f ∈ queued, ∃ n : Notification, f.2 = n.toFrame ∧ n.Resolved through ∧
        ∀ proposal, n.replaced? = some proposal → a.Proposes f.1 proposal := by
  obtain ⟨queued, sent, sublist⟩ := h.sent_perform a
  refine ⟨queued, sent, fun f member => ?_⟩
  obtain ⟨l, listed, rfl⟩ := List.mem_map.mp (sublist.subset member)
  exact ⟨l.2, rfl, resolved_of_occasion upholds ok translates lets (occasion_of_offered listed)⟩

/-- What the hub keeps stays in permanent numbers, apart from what is let through. -/
theorem resolved_performAll
    (upholds : Store.Upholds Sound fun map d => d.Resolved (through map))
    (ok : h.Confined Sound fun map d => d.Resolved (through map)) (translates : h.Translates)
    {acts : List Act} (enabled : Along Act.Enabled h acts)
    (lets : ∀ map id, h.LetThrough acts map id → through map id) :
    (h.performAll acts).Confined Sound (fun map d => d.Resolved (through map)) ∧
      (h.performAll acts).Translates := by
  have along : Along (fun h a => a.Enabled h ∧ ∀ map id, a.LetsThrough map id h → through map id)
      h acts := by
    refine along_iff.mpr fun before a after split => ⟨along_iff.mp enabled before a after split, ?_⟩
    exact fun map id passes => lets map id ⟨before, a, after, split, passes⟩
  refine performAll_keeps (Q := fun h => h.Confined Sound (fun map d => d.Resolved (through map)) ∧
    h.Translates) ?_ along ⟨ok, translates⟩
  rintro h a ⟨enabled, lets⟩ ⟨ok, translates⟩
  refine ⟨confined_perform upholds enabled ok fun deed done => ?_, translates.perform a⟩
  cases deed with
  | edited map e =>
      exact fun d fits resolved => resolved.edited fits (resolved_of_deedDone? translates lets done)
  | fieldsSet node fields => trivial

end Hub

/-- In every run from a store whose maps hold permanent numbers, at every moment, the maps that are open
and all that was saved of maps are in permanent numbers, and so is every frame that the next act queues;
only a session that proposes a placeholder in this act is told it again, to replace it.  The exception
are ends of connections.  Among these there may be a placeholder, and then a session named it as an end
of a connection that was added to this map while it stood for nothing in the table of the session.  A
store in memory and a database are such stores exactly if their maps hold permanent numbers. -/
theorem placeholders_stay_private :
    (∀ {σ : Type} [Store σ] {store : σ}, Store.Resolved store → ∀ maxFrameSize moves,
      let e := Engine.start (Recorded.mk store []) maxFrameSize
      (e.after moves).seen Recorded.inner = (Engine.start store maxFrameSize).after moves ∧
      (e.after moves).hub = e.hub.performAll (e.acts moves) ∧
      ∀ done rest, e.acts moves = done ++ rest →
        let h := e.hub.performAll done
        (∀ map m, h.maps.get? map = some m → m.diagram.Resolved (e.hub.LetThrough done map)) ∧
        (∀ map contents answer, .mapSaved map contents answer ∈ h.store.calls →
          contents.Resolved (e.hub.LetThrough done map)) ∧
        ∀ a later, rest = a :: later →
          ∃ queued, (h.perform a).router.sent = h.router.sent ++ queued ∧
            ∀ f ∈ queued, ∃ n : Notification, f.2 = n.toFrame ∧
              n.Resolved (e.hub.LetThrough (done ++ [a])) ∧
              ∀ proposal, n.replaced? = some proposal → a.Proposes f.1 proposal) ∧
    (∀ store : MemoryStore, Store.Resolved store ↔
      ∀ map entry, store.maps.get? map = some entry → entry.2.Resolved fun _ => False) ∧
    ∀ store : Database, Store.Resolved store ↔
      ∀ map contents, store.map? map = some contents → contents.Resolved fun _ => False := by
  refine ⟨?_, fun store => MemoryStore.resolved_iff, fun store => Database.resolved_iff⟩
  intro σ _ store resolved maxFrameSize moves e
  refine ⟨(e.after_seen Recorded.mirrors moves).symm, e.hub_after moves, ?_⟩
  intro done rest performed h
  have enabled := e.enabled_acts moves
  rw [performed] at enabled
  have before := (Hub.along_append.mp enabled).1
  -- whatever is let through in the end is fixed first; the invariant is about the moments before
  have reached : ∀ through : MapId → ElementId → Prop,
      (∀ map id, e.hub.LetThrough done map id → through map id) →
      ∃ Sound : σ → Prop, Store.Upholds Sound (fun map d => d.Resolved (through map)) ∧
        h.Confined (fun s => Sound s.inner ∧ s.SavesOnly fun map d => d.Resolved (through map))
          (fun map d => d.Resolved (through map)) ∧ h.Translates := by
    intro through lets
    obtain ⟨Sound, upholds, sound⟩ := resolved through
    have start : e.hub.Confined
        (fun s => Sound s.inner ∧ s.SavesOnly fun map d => d.Resolved (through map))
        (fun map d => d.Resolved (through map)) := ⟨⟨sound, nofun⟩, nofun⟩
    exact ⟨Sound, upholds, Hub.resolved_performAll upholds.recorded start (.start _) before lets⟩
  obtain ⟨_, _, ok, _⟩ := reached _ fun _ _ passed => passed
  refine ⟨ok.maps, ok.store.2, fun a later next => ?_⟩
  obtain ⟨_, upholds, ok, translates⟩ := reached (e.hub.LetThrough (done ++ [a])) <| by
    rintro map id ⟨first, b, after, rfl, passes⟩
    exact ⟨first, b, after ++ [a], List.append_assoc .., passes⟩
  refine Hub.resolved_of_queued upholds.recorded ok translates fun map id passes => ?_
  exact ⟨done, a, [], rfl, passes⟩

/-- A store with one map without contents. -/
def emptyPlan : MemoryStore :=
  MemoryStore.insertMap {} 7 "plan" {}

theorem resolved_emptyPlan : Store.Resolved emptyPlan :=
  MemoryStore.resolved_iff.mpr <| Table.holds_insert
    (P := fun _ (entry : String × Diagram) => entry.2.Resolved fun _ => False)
    ⟨nofun, nofun, nofun⟩ nofun

/-- A session adds two symbols and connects them, all under placeholders, while another one looks on. -/
def connectedByPlaceholders : List Move :=
  [.event (.connected ⟨1⟩ "a" .staying),
    .event (.connected ⟨2⟩ "b" .staying),
    sending ⟨1⟩ .openMap [7],
    sending ⟨2⟩ .openMap [7],
    sending ⟨1⟩ .addSymbol [7, -1, 0, 0],
    sending ⟨1⟩ .addSymbol [7, -2, 9, 9],
    sending ⟨1⟩ .addConnection [7, -3, -1, -2]]

theorem placeholders_stay_private_connectedByPlaceholders :
    let e := Engine.start (Recorded.mk emptyPlan []) 1000
    let done := (e.acts connectedByPlaceholders).take 15
    let adding : Act := .answer ⟨1⟩ 0 (asking .addConnection [7, -3, -1, -2])
    let h := e.hub.performAll (done ++ [adding])
    (∃ m, h.maps.get? 7 = some m ∧ m.diagram.connections = [⟨1, 1, 2⟩] ∧
      m.diagram.Resolved (e.hub.LetThrough (done ++ [adding]) 7)) ∧
    ∃ n : Notification, n.toFrame = (Notification.connectionAdded 7 1 1 2).toFrame ∧
      n.Resolved (e.hub.LetThrough (done ++ [adding])) := by
  intro e done adding h
  obtain ⟨_, _, moments⟩ := placeholders_stay_private.1 resolved_emptyPlan 1000 connectedByPlaceholders
  have run : e.acts connectedByPlaceholders = done ++ [adding] ++ [.clearMarks] := by decide_cbv
  have opened : ((e.hub.performAll (done ++ [adding])).maps.get? 7).map
      (fun m => m.diagram.connections) = some [⟨1, 1, 2⟩] := by decide_cbv
  obtain ⟨m, found, connections⟩ := Option.map_eq_some_iff.mp opened
  obtain ⟨open_, _, _⟩ := moments (done ++ [adding]) [.clearMarks] run
  refine ⟨⟨m, found, connections, open_ 7 m found⟩, ?_⟩
  obtain ⟨_, _, frames⟩ := moments done [adding, .clearMarks] (run.trans (List.append_assoc ..))
  obtain ⟨queued, sent, told⟩ := frames adding [.clearMarks] rfl
  have after : ((e.hub.performAll done).perform adding).router.sent =
      (e.hub.performAll done).router.sent ++
        [(⟨1⟩, (Notification.connectionRenamed 7 (-3) 1).toFrame),
          (⟨2⟩, (Notification.connectionAdded 7 1 1 2).toFrame)] := by decide_cbv
  obtain rfl := List.append_cancel_left (sent.symm.trans after)
  obtain ⟨n, same, resolved, _⟩ := told _ (List.mem_cons_of_mem _ List.mem_cons_self)
  exact ⟨n, same.symm, resolved⟩

/-- A session connects what it calls by placeholders that stand for nothing, while another one looks
on. -/
def connectedToNothing : List Move :=
  [.event (.connected ⟨1⟩ "a" .staying),
    .event (.connected ⟨2⟩ "b" .staying),
    sending ⟨1⟩ .openMap [7],
    sending ⟨2⟩ .openMap [7],
    sending ⟨1⟩ .addConnection [7, -1, -50, -60]]

/-- Both placeholders are in the map then, and the other session gets to see them. -/
theorem placeholders_let_through :
    let h := ((Engine.start emptyPlan 1000).after connectedToNothing).hub
    Store.Resolved emptyPlan ∧ h.shown? 7 = some { connections := [⟨1, -50, -60⟩] } ∧
      (Notification.connectionAdded 7 1 (-50) (-60)).toFrame ∈ h.router.queueOf ⟨2⟩ := by
  refine ⟨resolved_emptyPlan, by decide_cbv, by decide_cbv⟩

end TopoSync
