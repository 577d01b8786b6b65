import Mathlib
import TopoSync.Proofs.Holdings
import TopoSync.Proofs.Hub.Recording
import TopoSync.Proofs.Hub.Showing
import TopoSync.Proofs.Parts

/-!
# What a placeholder means

A placeholder stands for a number, not for an element: the one that it stood for first, in whatever
map.  It means the element that was added under it as long as that element keeps its number, which
nobody else gets meanwhile.  Once the number is free again, by a deletion or because a map could not
be saved, or if the placeholder was in use already, it may mean another element.
-/

namespace TopoSync

namespace Request

/-- The kind and the map of the element that a request wants to add, with its placeholder. -/
def addition? : Request → Option (ElementKind × MapId × ElementId)
  | addSymbol map id .. => some (.symbol, map, id)
  | addConnection map id .. => some (.connection, map, id)
  | login .. | getMapList | openMap _ | closeMap _ | renameSymbol .. | deleteSymbol ..
  | translateSymbol .. | renameConnection .. | deleteConnection .. | openNode _ | closeNode _
  | setNode .. | lockNode _ | unlockNode _ | unsupported _ => none

/-- The kind and the map of the element that a request wants to delete or to move, with the number by
which it calls it. -/
def use? : Request → Option (ElementKind × MapId × ElementId)
  | deleteSymbol map id | translateSymbol map id .. => some (.symbol, map, id)
  | deleteConnection map id => some (.connection, map, id)
  | login .. | getMapList | openMap _ | closeMap _ | addSymbol .. | renameSymbol ..
  | addConnection .. | renameConnection .. | openNode _ | closeNode _ | setNode .. | lockNode _
  | unlockNode _ | unsupported _ => none

end Request

theorem eq_ok_of_toOption {ε α : Type} {o : Except ε α} {a : α} (some : o.toOption = some a) :
    o = .ok a := by
  cases o with
  | error reason => cases some
  | ok value => exact congrArg Except.ok (Option.some.inj some)

namespace Hub

variable {σ : Type}

/-- What is added goes by a number of its kind. -/
theorem subject_of_addition {h : Hub σ} {session : SessionId} {request : Request}
    {kind : ElementKind} {map : MapId} {id : ElementId} {e : Edit}
    (asks : request.addition? = some (kind, map, id))
    (done : h.deed? session request = some (.edited map e)) :
    e.subject.1 = kind ∧ e.isAddition = true := by
  cases request with
  | addSymbol | addConnection =>
      obtain ⟨rfl, -⟩ := Prod.mk.inj (Option.some.inj asks)
      obtain ⟨_, _, same⟩ := Option.map_eq_some_iff.mp done
      obtain ⟨-, rfl⟩ := Deed.edited.inj same
      exact ⟨rfl, rfl⟩
  | _ => cases asks

/-- A placeholder that stands for nothing stands for the number of what is added under it. -/
theorem recorded?_of_addition [Store σ] {h : Hub σ} {session : SessionId} {request : Request}
    {kind : ElementKind} {map : MapId} {id : ElementId} {e : Edit}
    (asks : request.addition? = some (kind, map, id))
    (done : h.deed? session request = some (.edited map e))
    (free : h.recorded? kind session id = none) (now : UInt32) :
    id < 0 ∧ (h.apply session now request).2.recorded? kind session id = some e.subject.2 := by
  cases request with
  | addSymbol q temp x y =>
      obtain ⟨rfl, same⟩ := Prod.mk.inj (Option.some.inj asks)
      obtain ⟨-, rfl⟩ := Prod.mk.inj same
      obtain ⟨k, added, same⟩ := Option.map_eq_some_iff.mp done
      obtain ⟨-, rfl⟩ := Deed.edited.inj same
      exact recorded?_of_addElement describes_symbol (eq_ok_of_toOption added) free
  | addConnection q temp sym0 sym1 =>
      obtain ⟨rfl, same⟩ := Prod.mk.inj (Option.some.inj asks)
      obtain ⟨-, rfl⟩ := Prod.mk.inj same
      obtain ⟨k, added, same⟩ := Option.map_eq_some_iff.mp done
      obtain ⟨-, rfl⟩ := Deed.edited.inj same
      have accepted := eq_ok_of_toOption added
      rw [apply]
      rw [addConnection] at accepted ⊢
      split at accepted
      · cases accepted
      · exact recorded?_of_addElement describes_connection accepted free
  | _ => cases asks

/-- What is deleted or moved goes by the number that the session means. -/
theorem subject_of_use {h : Hub σ} {session : SessionId} {request : Request} {kind : ElementKind}
    {map : MapId} {id : ElementId} {e : Edit} (asks : request.use? = some (kind, map, id))
    (done : h.deed? session request = some (.edited map e)) :
    e.subject = (kind, h.meant kind session id) ∧ e.isAddition = false := by
  cases request with
  | deleteSymbol | translateSymbol =>
      obtain ⟨rfl, same⟩ := Prod.mk.inj (Option.some.inj asks)
      obtain ⟨-, rfl⟩ := Prod.mk.inj same
      obtain ⟨_, _, same⟩ := Option.map_eq_some_iff.mp done
      obtain ⟨-, rfl⟩ := Deed.edited.inj same
      rw [permanent_eq_meant describes_symbol]
      exact ⟨rfl, rfl⟩
  | deleteConnection =>
      obtain ⟨rfl, same⟩ := Prod.mk.inj (Option.some.inj asks)
      obtain ⟨-, rfl⟩ := Prod.mk.inj same
      obtain ⟨_, _, same⟩ := Option.map_eq_some_iff.mp done
      obtain ⟨-, rfl⟩ := Deed.edited.inj same
      rw [permanent_eq_meant describes_connection]
      exact ⟨rfl, rfl⟩
  | _ => cases asks

variable [Store σ]

/-- Whether a frame of a session is rejected without effect, or deletes or moves something that goes by
a given number on a map and leaves everything else on the map as it is. -/
def ActsOn (h : Hub σ) (session : SessionId) (now : UInt32) (frame : Bytes) (map : MapId)
    (n : ElementName) : Prop :=
  h.Rejects session now frame ∨
  (h.answerFrame session now frame).1 = .ok () ∧
    ∃ d e, e.subject = n ∧ e.isAddition = false ∧ e.Fits d ∧ h.shown? map = some d ∧
      (h.answerFrame session now frame).2.shown? map = some (d.edited e) ∧
      ∀ other, other ≠ n → (d.edited e).part other = d.part other

/-- A request acts on what its session means, or not at all. -/
theorem actsOn_meant (h : Hub σ) (session : SessionId) (now : UInt32) {frame : Bytes}
    {kind : ElementKind} {map : MapId} {id : ElementId}
    (asks : (Request.ofFrame? frame).bind Request.use? = some (kind, map, id)) :
    h.ActsOn session now frame map (kind, h.meant kind session id) := by
  obtain ⟨request, asked, uses⟩ := Option.bind_eq_some_iff.mp asks
  obtain ⟨command, answer⟩ := answerFrame_of_ofFrame? (σ := σ) asked
  have wants : request.editedMap? = some map := by
    cases request with
    | deleteSymbol | translateSymbol | deleteConnection =>
        obtain ⟨-, same⟩ := Prod.mk.inj (Option.some.inj uses)
        exact congrArg some (Prod.mk.inj same).1
    | _ => cases uses
  rcases apply_of_editedMap? wants h now with ⟨_, reason, refused⟩ |
    ⟨e, done, accepted, d, shows, fits, after⟩
  · exact .inl (rejects_of_apply asked refused)
  · obtain ⟨subject, changes⟩ := subject_of_use uses done
    rw [ActsOn, answer, accepted]
    refine .inr ⟨rfl, d, e, subject, changes, fits, shows, after, fun other apart => ?_⟩
    rw [Diagram.part_edited, if_neg fun same => apart (same.symm.trans subject)]

/-- The edits that some acts make to a map under a given number. -/
def editsUnder (map : MapId) (n : ElementName) (h : Hub σ) (acts : List Act) : List Edit :=
  ((h.deeds acts).filterMap (Deed.editOf? map)).filter fun e => e.subject = n

/-- Whether, whenever a map is read from the store, the same goes by a given number as when the map was
open last.  `last` is what it showed before. -/
def ReadsBack (map : MapId) (n : ElementName) (last : Diagram) (h : Hub σ) : List Act → Prop
  | [] => True
  | a :: rest =>
      let seen := (h.shown? map).getD last
      (h.shown? map = none → ∀ d, (h.perform a).shown? map = some d → d.part n = seen.part n) ∧
        (h.perform a).ReadsBack map n seen rest

variable {h : Hub σ} {map : MapId} {n : ElementName} {last : Diagram}

theorem editsUnder_cons (map : MapId) (n : ElementName) (h : Hub σ) (a : Act) (rest : List Act) :
    h.editsUnder map n (a :: rest) =
      h.editsUnder map n [a] ++ (h.perform a).editsUnder map n rest := by
  simp [editsUnder, deeds]

theorem editsUnder_of_idle {a : Act} (idle : ∀ e, h.deedDone? a ≠ some (.edited map e)) :
    h.editsUnder map n [a] = [] := by
  rw [editsUnder, deeds, deeds, List.append_nil]
  cases done : h.deedDone? a with
  | none => rfl
  | some d =>
      have other : d.editOf? map = none := by
        refine Option.eq_none_iff_forall_ne_some.mpr fun e same => ?_
        rw [Deed.editOf?_eq_some_iff] at same
        exact idle e (done.trans (congrArg some same))
      simp [other]

theorem editsUnder_of_deedDone? {a : Act} {e : Edit}
    (done : h.deedDone? a = some (.edited map e)) :
    h.editsUnder map n [a] = if e.subject = n then [e] else [] := by
  rw [editsUnder, deeds, deeds, List.append_nil, done]
  by_cases here : e.subject = n <;> simp [Deed.editOf?, here]

/-- What went by a number before an act and what goes by it afterwards differ by the edit that the act
makes under the number, if it makes one. -/
theorem part_perform {a : Act}
    (reads : h.shown? map = none → ∀ d, (h.perform a).shown? map = some d →
      d.part n = ((h.shown? map).getD last).part n) :
    (((h.perform a).shown? map).getD ((h.shown? map).getD last)).part n =
      (h.editsUnder map n [a]).foldl Diagram.edited (((h.shown? map).getD last).part n) := by
  by_cases busy : ∃ e, h.deedDone? a = some (.edited map e)
  · -- only an open map is edited, so what it showed last is what it shows
    obtain ⟨e, done⟩ := busy
    obtain ⟨d, before, _, after⟩ := editedTo_perform done
    rw [before, after, Option.getD_some, Option.getD_some, Diagram.part_edited,
      editsUnder_of_deedDone? done]
    split <;> rfl
  · have idle : ∀ e, h.deedDone? a ≠ some (.edited map e) := not_exists.mp busy
    rw [editsUnder_of_idle idle, List.foldl_nil]
    cases after : (h.perform a).shown? map with
    | none => rfl
    | some d' =>
        rw [Option.getD_some]
        -- the hypothesis is needed only for a map that is read from the store
        cases before : h.shown? map with
        | none => rw [reads before d' after, before]
        | some d => rw [shown?_perform idle before after, Option.getD_some]

/-- What goes by a number is the outcome of the edits made under it. -/
theorem part_performAll {acts : List Act} (reads : h.ReadsBack map n last acts) {d : Diagram}
    (shows : (h.performAll acts).shown? map = some d) :
    d.part n = (h.editsUnder map n acts).foldl Diagram.edited
      (((h.shown? map).getD last).part n) := by
  induction acts generalizing h last with
  | nil =>
      have same : h.shown? map = some d := shows
      rw [same]
      rfl
  | cons a rest ih =>
      have later := ih reads.2 shows
      rwa [part_perform reads.1, ← List.foldl_append, ← editsUnder_cons] at later

/-- While something goes by a number, the number is not given to anything new, and something goes by it
until it is taken away. -/
theorem present_perform {a : Act}
    (reads : h.shown? map = none → ∀ d, (h.perform a).shown? map = some d →
      d.part n = ((h.shown? map).getD last).part n)
    (present : ((h.shown? map).getD last).part n ≠ {})
    (kept : ∀ e ∈ h.editsUnder map n [a], e.isRemoval = false) :
    (∀ e ∈ h.editsUnder map n [a], e.isAddition = false) ∧
      (((h.perform a).shown? map).getD ((h.shown? map).getD last)).part n ≠ {} := by
  rw [part_perform reads]
  by_cases busy : ∃ e, h.deedDone? a = some (.edited map e) ∧ e.subject = n
  · obtain ⟨e, done, subject⟩ := busy
    obtain ⟨d, before, fits, _⟩ := editedTo_perform done
    have single : h.editsUnder map n [a] = [e] := by
      rw [editsUnder_of_deedDone? done, if_pos subject]
    rw [single] at kept ⊢
    -- an element that is added gets a number by which nothing goes
    have moves : e.isAddition = false := by
      by_contra adds
      refine present ?_
      rw [before, Option.getD_some, ← subject]
      exact Diagram.part_of_addition fits (Bool.not_eq_false _ ▸ adds)
    refine ⟨fun e' member => ?_, ?_⟩
    · rwa [List.mem_singleton.mp member]
    · exact Diagram.edited_ne_empty present moves (kept e List.mem_cons_self)
  · have none : h.editsUnder map n [a] = [] := by
      by_cases done : ∃ e, h.deedDone? a = some (.edited map e)
      · obtain ⟨e, done⟩ := done
        rw [editsUnder_of_deedDone? done, if_neg fun subject => busy ⟨e, done, subject⟩]
      · exact editsUnder_of_idle (not_exists.mp done)
    rw [none]
    exact ⟨fun _ member => (List.not_mem_nil member).elim, present⟩

theorem editsUnder_of_present {acts : List Act} (reads : h.ReadsBack map n last acts)
    (present : ((h.shown? map).getD last).part n ≠ {})
    (kept : ∀ e ∈ h.editsUnder map n acts, e.isRemoval = false) :
    ∀ e ∈ h.editsUnder map n acts, e.isAddition = false := by
  induction acts generalizing h last with
  | nil => exact fun _ member => nomatch member
  | cons a rest ih =>
      rw [editsUnder_cons] at kept ⊢
      obtain ⟨now, presentThen⟩ := present_perform reads.1 present
        fun e first => kept e (List.mem_append.mpr (.inl first))
      intro e member
      rcases List.mem_append.mp member with first | later
      · exact now e first
      · exact ih reads.2 presentThen (fun e later => kept e (List.mem_append.mpr (.inr later))) e
          later

/-- An act that makes no edit of a map leaves its contents as they are, open or not. -/
theorem diagram?_perform {h : Hub MemoryStore} (ok : h.Backed) {a : Act} (enabled : a.Enabled h)
    (idle : ∀ e, h.deedDone? a ≠ some (.edited map e)) :
    (h.perform a).holdings.diagram? map = h.holdings.diagram? map := by
  have none : (h.deedDone? a).toList.filterMap (Deed.editOf? map) = [] := by
    refine List.filterMap_eq_nil_iff.mpr fun d member => ?_
    refine Option.eq_none_iff_forall_ne_some.mpr fun e same => idle e ?_
    rw [Option.mem_toList.mp member, Deed.editOf?_eq_some_iff.mp same]
  rw [(holdings_perform enabled ok).2, Holdings.diagram?_afterAll, none]
  exact Option.map_id'

theorem diagram?_of_shown? {h : Hub MemoryStore} {d : Diagram} (shows : h.shown? map = some d) :
    h.holdings.diagram? map = some d := by
  obtain ⟨m, found, rfl⟩ := Option.map_eq_some_iff.mp shows
  exact diagram?_of_get? found

/-- A store in memory that takes what it is given reads everything back. -/
theorem Backed.readsBack {h : Hub MemoryStore} (ok : h.Backed) {acts : List Act}
    (enabled : Along Act.Enabled h acts)
    (kept : h.holdings.diagram? map = some ((h.shown? map).getD last)) :
    h.ReadsBack map n last acts := by
  induction acts generalizing h last with
  | nil => trivial
  | cons a rest ih =>
      -- an edit needs the map open before and leaves it open, so neither reading it from the store
      -- nor writing it back is one
      have idle_of_closed : (h.shown? map = none ∨ (h.perform a).shown? map = none) →
          ∀ e, h.deedDone? a ≠ some (.edited map e) := by
        intro closed e done
        obtain ⟨d, before, _, after⟩ := editedTo_perform done
        rcases closed with closed | closed
        · exact nomatch before.symm.trans closed
        · exact nomatch after.symm.trans closed
      refine ⟨fun closed d shows => ?_, ih (holdings_perform enabled.1 ok).1 enabled.2 ?_⟩
      · have same := diagram?_perform ok enabled.1 (idle_of_closed (.inl closed))
        rw [diagram?_of_shown? shows, kept] at same
        rw [Option.some.inj same]
      · cases after : (h.perform a).shown? map with
        | some d => exact diagram?_of_shown? after
        | none => exact (diagram?_perform ok enabled.1 (idle_of_closed (.inr after))).trans kept

/-- So does the store of a run, as far as a map is concerned that is open. -/
theorem readsBack_of_run {store : MemoryStore} (taking : store.refusing = false) {maxFrameSize : Nat}
    {moves : List Move} {done between rest : List Act} {d : Diagram}
    (run : (Engine.start store maxFrameSize).acts moves = done ++ (between ++ rest))
    (shows : ((Engine.start store maxFrameSize).hub.performAll done).shown? map = some d) :
    ((Engine.start store maxFrameSize).hub.performAll done).ReadsBack map n last between := by
  have enabled := (Engine.start store maxFrameSize).enabled_acts moves
  rw [run] at enabled
  obtain ⟨first, later⟩ := along_append.mp enabled
  refine (holdings_performAll first (.start taking)).1.readsBack (along_append.mp later).1 ?_
  rw [shows, Option.getD_some]
  exact diagram?_of_shown? shows

end Hub

/-- In every run, as long as a placeholder of a session stands for nothing, a request of the session
to delete or move an element under it is rejected without effect or acts on something that has the
placeholder itself for a number.  From the moment an element is added to a map under a placeholder that
stands for nothing, and until the session makes the hub forget the placeholder or is ended or connected
anew, such a request, on whatever map, is rejected without effect or acts on what goes by the number
that the element was given, and leaves everything else as it is.  On the map of the element that is the
element itself, moved by the moves made under its number since, and nothing else, if the number was not
deleted meanwhile and is read back whenever the map is read from the store again. -/
theorem placeholder_means_first_element {σ : Type} [Store σ] (store : σ) (maxFrameSize : Nat)
    (moves : List Move) (session : SessionId) (kind : ElementKind) (map : MapId) (id : ElementId) :
    let e := Engine.start store maxFrameSize
    (∀ done rest, e.acts moves = done ++ rest →
      let h := e.hub.performAll done
      h.recorded? kind session id = none →
      ∀ q now frame, (Request.ofFrame? frame).bind Request.use? = some (kind, q, id) →
        h.ActsOn session now frame q (kind, id)) ∧
    ∀ done now frame between rest request born,
      e.acts moves = done ++ .answer session now frame :: (between ++ rest) →
      let before := e.hub.performAll done
      let after := before.perform (.answer session now frame)
      let h := after.performAll between
      let edits := after.editsUnder map born.subject between
      Request.ofFrame? frame = some request →
      request.addition? = some (kind, map, id) →
      before.deed? session request = some (.edited map born) →
      before.recorded? kind session id = none →
      Hub.Along (fun h a => ¬ a.Forgets kind session id h) after between →
      born.subject.1 = kind ∧
      (∀ q later next, (Request.ofFrame? next).bind Request.use? = some (kind, q, id) →
        h.ActsOn session later next q born.subject) ∧
      (after.ReadsBack map born.subject {} between →
        (∀ edit ∈ edits, edit.isRemoval = false) →
        (∀ edit ∈ edits, edit.isAddition = false) ∧
          ∀ d, h.shown? map = some d →
            d.part born.subject = edits.foldl Diagram.edited (Diagram.edited {} born)) := by
  intro e
  constructor
  · intro done rest _ h free q now frame asks
    have acts := h.actsOn_meant session now asks
    rwa [Hub.meant_of_unrecorded free] at acts
  · intro done now frame between rest request born _ before after h edits asked asks deed free kept
    have answered : after = (before.apply session now request).2 := by
      change (before.answerFrame session now frame).2 = _
      rw [Hub.answerFrame_eq, asked]
    obtain ⟨sort, adds⟩ := Hub.subject_of_addition asks deed
    obtain ⟨negative, recorded⟩ := Hub.recorded?_of_addition asks deed free now
    rw [← answered] at recorded
    have still : h.recorded? kind session id = some born.subject.2 :=
      Hub.recorded?_performAll recorded kept
    refine ⟨sort, fun q later next asks => ?_, fun reads remains => ?_⟩
    · have acts := h.actsOn_meant session later asks
      rwa [Hub.meant_of_recorded negative still, ← sort] at acts
    · have done : before.deedDone? (.answer session now frame) = some (.edited map born) :=
        Hub.deedDone?_of_asked asked deed
      obtain ⟨d, _, fits, shows⟩ := Hub.editedTo_perform done
      -- nothing went by the number before, so the history of the part starts with the element
      have fresh : ((after.shown? map).getD {}).part born.subject = Diagram.edited {} born := by
        rw [show after.shown? map = _ from shows, Option.getD_some, Diagram.part_edited, if_pos rfl,
          Diagram.part_of_addition fits adds]
      have present : ((after.shown? map).getD {}).part born.subject ≠ {} := by
        rw [fresh]
        exact Diagram.edited_addition_ne_empty {} adds
      refine ⟨Hub.editsUnder_of_present reads present remains, fun d shows => ?_⟩
      rw [← fresh]
      exact Hub.part_performAll reads shows

/-- The frame of a request that consists of numbers. -/
def asking (command : Command) (numbers : List Int32) : Bytes :=
  (Frame.build command (numbers.map .signed)).bytes

/-- A request as a session sends it. -/
def sending (session : SessionId) (command : Command) (numbers : List Int32) : Move :=
  .event (.data session (asking command numbers) 0)

/-- A session adds a symbol and another one does, too, under the same placeholder; the first one moves
its symbol, both leave the map, and the first one comes back. -/
def addedAndBack : List Move :=
  [.event (.connected ⟨1⟩ "a" .staying),
    .event (.connected ⟨2⟩ "b" .staying),
    sending ⟨1⟩ .openMap [7],
    sending ⟨2⟩ .openMap [7],
    sending ⟨1⟩ .addSymbol [7, -1, 3, 4],
    sending ⟨2⟩ .addSymbol [7, -1, 9, 9],
    sending ⟨1⟩ .translateSymbol [7, -1, 1, 1],
    sending ⟨1⟩ .closeMap [7],
    sending ⟨2⟩ .closeMap [7],
    sending ⟨1⟩ .openMap [7]]

theorem placeholder_means_first_element_addedAndBack :
    let e := Engine.start (MemoryStore.insertMap {} 7 "plan" {}) 1000
    let h := (e.after addedAndBack).hub
    h.ActsOn ⟨1⟩ 0 (asking .deleteSymbol [7, -1]) 7 (.symbol, 1) ∧
      ∃ d, h.shown? 7 = some d ∧ d.part (.symbol, 1) = { symbols := [Symbol.placed 1 4 5] } := by
  intro e h
  let done : List Act :=
    [.connect ⟨1⟩ "a" .staying, .connect ⟨2⟩ "b" .staying,
      .buffer ⟨1⟩ [], .answer ⟨1⟩ 0 (asking .openMap [7]), .clearMarks,
      .buffer ⟨2⟩ [], .answer ⟨2⟩ 0 (asking .openMap [7]), .clearMarks, .buffer ⟨1⟩ []]
  let between : List Act :=
    [.clearMarks, .buffer ⟨2⟩ [], .answer ⟨2⟩ 0 (asking .addSymbol [7, -1, 9, 9]),
      .clearMarks, .buffer ⟨1⟩ [], .answer ⟨1⟩ 0 (asking .translateSymbol [7, -1, 1, 1]),
      .clearMarks, .buffer ⟨1⟩ [], .answer ⟨1⟩ 0 (asking .closeMap [7]),
      .clearMarks, .buffer ⟨2⟩ [], .answer ⟨2⟩ 0 (asking .closeMap [7]),
      .clearMarks, .buffer ⟨1⟩ [], .answer ⟨1⟩ 0 (asking .openMap [7]), .clearMarks]
  let adding : Act := .answer ⟨1⟩ 0 (asking .addSymbol [7, -1, 3, 4])
  have run : e.acts addedAndBack = done ++ adding :: (between ++ []) := by decide_cbv
  obtain ⟨_, means⟩ := placeholder_means_first_element (MemoryStore.insertMap {} 7 "plan" {}) 1000
    addedAndBack ⟨1⟩ .symbol 7 (-1)
  obtain ⟨_, acts, shows⟩ := means done 0 (asking .addSymbol [7, -1, 3, 4]) between []
    (.addSymbol 7 (-1) 3 4) (.symbolAdded 1 3 4) run (by decide_cbv) rfl (by decide_cbv)
    (by decide_cbv)
    ⟨not_false, not_false, fun forgets => absurd forgets.1 (by decide),
      not_false, not_false, fun forgets => absurd forgets.2.1 (by decide_cbv),
      not_false, not_false, fun forgets => absurd forgets.2.1 (by decide_cbv),
      not_false, not_false, fun forgets => absurd forgets.1 (by decide),
      not_false, not_false, fun forgets => absurd forgets.2.1 (by decide_cbv),
      not_false, trivial⟩
  have edits : ((e.hub.performAll done).perform adding).editsUnder 7 (.symbol, 1) between =
      [.symbolMoved 1 1 1] := by decide_cbv
  let added : Hub MemoryStore := (e.hub.performAll done).perform adding
  have kept : ∀ edit ∈ added.editsUnder 7 (.symbol, 1) between, edit.isRemoval = false := by
    rw [edits]
    decide
  have reads : added.ReadsBack 7 (.symbol, 1) {} between := by
    have opened : (e.hub.performAll (done ++ [adding])).shown? 7 =
        some { symbols := [Symbol.placed 1 3 4] } := by decide_cbv
    have reads : (e.hub.performAll (done ++ [adding])).ReadsBack 7 (.symbol, 1) {} between :=
      Hub.readsBack_of_run rfl (run.trans (List.append_cons ..)) opened
    rwa [Hub.performAll_append] at reads
  obtain ⟨_, found⟩ := shows reads kept
  have opened : ((e.hub.performAll (done ++ adding :: between)).shown? 7).isSome := by decide_cbv
  obtain ⟨d, shown⟩ := Option.isSome_iff_exists.mp opened
  have last : h = e.hub.performAll (done ++ adding :: between) := by
    rw [show h = _ from e.hub_after addedAndBack, run, List.append_nil]
  rw [last, shown]
  rw [Hub.performAll_append, Hub.performAll_cons] at shown ⊢
  exact ⟨acts 7 0 _ (by decide_cbv), d, rfl, (found d shown).trans (congrArg _ edits)⟩

/-- Two maps, of which the second has a symbol. -/
def planAndOffice : MemoryStore :=
  (MemoryStore.insertMap {} 7 "plan" {}).insertMap 8 "office" { symbols := [Symbol.placed 1 50 50] }

/-- A session adds a symbol to either map under one placeholder and moves the second one. -/
def samePlaceholder : List Move :=
  [.event (.connected ⟨1⟩ "a" .staying),
    sending ⟨1⟩ .openMap [7],
    sending ⟨1⟩ .openMap [8],
    sending ⟨1⟩ .addSymbol [7, -1, 0, 0],
    sending ⟨1⟩ .addSymbol [8, -1, 5, 5],
    sending ⟨1⟩ .translateSymbol [8, -1, 1, 1]]

/-- A session adds a symbol, another one replaces it, and the first session moves it. -/
def replaced : List Move :=
  [.event (.connected ⟨1⟩ "a" .staying),
    .event (.connected ⟨2⟩ "b" .staying),
    sending ⟨1⟩ .openMap [7],
    sending ⟨2⟩ .openMap [7],
    sending ⟨1⟩ .addSymbol [7, -1, 0, 0],
    sending ⟨2⟩ .deleteSymbol [7, 1],
    sending ⟨2⟩ .addSymbol [7, -1, 9, 9],
    sending ⟨1⟩ .translateSymbol [7, -1, 1, 1]]

/-- A session adds a symbol and leaves the map, another one adds a symbol, and the first session comes
back to move its own. -/
def leftAndBack : List Move :=
  [.event (.connected ⟨1⟩ "a" .staying),
    .event (.connected ⟨2⟩ "b" .staying),
    sending ⟨1⟩ .openMap [7],
    sending ⟨1⟩ .addSymbol [7, -1, 0, 0],
    sending ⟨1⟩ .closeMap [7],
    sending ⟨2⟩ .openMap [7],
    sending ⟨2⟩ .addSymbol [7, -1, 9, 9],
    sending ⟨1⟩ .openMap [7],
    sending ⟨1⟩ .translateSymbol [7, -1, 1, 1]]

/-- A session adds a symbol and deletes it twice. -/
def deletedTwice : List Move :=
  [.event (.connected ⟨1⟩ "a" .staying),
    sending ⟨1⟩ .openMap [7],
    sending ⟨1⟩ .addSymbol [7, -1, 0, 0],
    sending ⟨1⟩ .deleteSymbol [7, -1],
    sending ⟨1⟩ .deleteSymbol [7, -1]]

/-- The last request of each run is about an element that its session did not add: the placeholder
stood for something already, the number was given to another symbol, the symbol was lost with the map
that could not be saved, or a symbol in the store has the placeholder for a number. -/
theorem placeholder_means_another_element :
    (Engine.start planAndOffice 1000).deeds samePlaceholder =
        [.edited 7 (.symbolAdded 1 0 0), .edited 8 (.symbolAdded 2 5 5),
          .edited 8 (.symbolMoved 1 1 1)] ∧
      ((Engine.start planAndOffice 1000).after samePlaceholder).hub.shown? 8 =
        some { symbols := [Symbol.placed 1 51 51, Symbol.placed 2 5 5] } ∧
      (Engine.start planAndOffice 1000).deeds replaced =
        [.edited 7 (.symbolAdded 1 0 0), .edited 7 (.symbolRemoved 1),
          .edited 7 (.symbolAdded 1 9 9), .edited 7 (.symbolMoved 1 1 1)] ∧
      (Engine.start { planAndOffice with refusing := true } 1000).deeds leftAndBack =
        [.edited 7 (.symbolAdded 1 0 0), .edited 7 (.symbolAdded 1 9 9),
          .edited 7 (.symbolMoved 1 1 1)] ∧
      (Engine.start (planAndOffice.insertMap 7 "plan" { symbols := [Symbol.placed (-1) 50 50] })
          1000).deeds deletedTwice =
        [.edited 7 (.symbolAdded 1 0 0), .edited 7 (.symbolRemoved 1),
          .edited 7 (.symbolRemoved (-1))] := by
  refine ⟨?_, ?_, ?_, ?_, ?_⟩
  · decide_cbv
  · decide_cbv
  · decide_cbv
  · decide_cbv
  · decide_cbv

end TopoSync
