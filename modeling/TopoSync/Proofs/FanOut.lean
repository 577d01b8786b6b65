import Mathlib
import TopoSync.Proofs.Hub.Rounds
import TopoSync.Proofs.Hub.Showing
import TopoSync.Proofs.Placeholding

/-!
# Edits fan out

An accepted edit of a map changes its contents and is announced to everybody who has the map open: the
session that asked learns the number of what it added, and the others learn what was done.  The numbers
in these letters are those under which the hub keeps the elements, never placeholders.
-/

namespace TopoSync

namespace Hub

variable {σ : Type}

/-- What an accepted request for an edit of an open map comes to: its letters in the order in which they
are posted, and the contents of the map afterwards. -/
inductive FansOut (h : Hub σ) (session : SessionId) (map : MapId) (m : OpenMap) :
    Request → List Letter → Diagram → Prop
  | symbolAdded {temp k : ElementId} {x y : Int32}
      (free : Elements.nextFree? m.diagram.symbols = some k) :
      FansOut h session map m (.addSymbol map temp x y)
        ((session, .symbolRenamed map temp k) ::
          lettersToOthers m.subscribers session (.symbolAdded map k x y))
        { m.diagram with symbols := m.diagram.symbols ++ [Symbol.placed k x y] }
  | connectionAdded {temp k sym0 sym1 : ElementId}
      (free : Elements.nextFree? m.diagram.connections = some k) :
      FansOut h session map m (.addConnection map temp sym0 sym1)
        ((session, .connectionRenamed map temp k) ::
          lettersToOthers m.subscribers session
            (.connectionAdded map k (h.permanent Symbol session sym0)
              (h.permanent Symbol session sym1)))
        { m.diagram with
          connections := m.diagram.connections ++
            [⟨k, h.permanent Symbol session sym0, h.permanent Symbol session sym1⟩] }
  | symbolDeleted {id k : ElementId} (resolved : h.permanent Symbol session id = k)
      (used : Elements.contains m.diagram.symbols k = true) :
      FansOut h session map m (.deleteSymbol map id)
        (lettersToOthers m.subscribers session (.symbolDeleted map k))
        { m.diagram with symbols := Elements.remove m.diagram.symbols k }
  | connectionDeleted {id k : ElementId} (resolved : h.permanent Connection session id = k)
      (used : Elements.contains m.diagram.connections k = true) :
      FansOut h session map m (.deleteConnection map id)
        (lettersToOthers m.subscribers session (.connectionDeleted map k))
        { m.diagram with connections := Elements.remove m.diagram.connections k }
  | symbolTranslated {id k : ElementId} {dx dy : Int32}
      (resolved : h.permanent Symbol session id = k)
      (used : Elements.contains m.diagram.symbols k = true) :
      FansOut h session map m (.translateSymbol map id dx dy)
        (lettersToOthers m.subscribers session (.symbolTranslated map k dx dy))
        { m.diagram with
          symbols := Elements.update m.diagram.symbols k fun s =>
            { s with x := s.x + dx, y := s.y + dy } }

namespace FansOut

variable {h : Hub σ} {session : SessionId} {map : MapId} {m : OpenMap} {request : Request}
  {letters : List Letter} {diagram : Diagram}

/-- Nobody but the session that asked and the other subscribers gets a letter. -/
theorem recipients (fans : h.FansOut session map m request letters diagram) :
    letters.map Prod.fst = (m.subscribers.members.filter fun id => id ≠ session) ∨
      letters.map Prod.fst =
        session :: m.subscribers.members.filter fun id => id ≠ session := by
  cases fans with
  | symbolAdded | connectionAdded =>
      rw [List.map_cons, recipients_lettersToOthers]
      exact .inr rfl
  | symbolDeleted | connectionDeleted | symbolTranslated =>
      exact .inl (recipients_lettersToOthers _ _ _)

/-- Nobody gets two letters. -/
theorem once (fans : h.FansOut session map m request letters diagram) :
    (letters.map Prod.fst).Nodup := by
  have others : (m.subscribers.members.filter fun id => id ≠ session).Nodup :=
    m.subscribers.nodup_members.filter _
  have apart : session ∉ m.subscribers.members.filter fun id => id ≠ session := by simp
  rcases fans.recipients with same | same <;> rw [same]
  · exact others
  · exact List.nodup_cons.mpr ⟨apart, others⟩

/-- Everybody who gets a letter has the map open. -/
theorem subscribed (fans : h.FansOut session map m request letters diagram)
    (member : session ∈ m.subscribers) {q : SessionId} (listed : q ∈ letters.map Prod.fst) :
    q ∈ m.subscribers := by
  rcases fans.recipients with same | same <;> rw [same] at listed
  · exact (List.mem_filter.mp listed).1
  · rcases List.mem_cons.mp listed with rfl | other
    · exact member
    · exact (List.mem_filter.mp other).1

end FansOut

variable [Store σ] {h : Hub σ} {map : MapId} {session : SessionId} {request : Request}

/-- A request for an edit is refused without effect, or a subscriber of the map asked for it, and the
edit fans out. -/
theorem fansOut_cases (wants : request.editedMap? = some map) (h : Hub σ) (now : UInt32) :
    (∃ reason, h.apply session now request = (.error reason, h)) ∨
    ∃ m letters diagram, (h.apply session now request).1 = .ok () ∧ h.maps.get? map = some m ∧
      session ∈ m.subscribers ∧ h.FansOut session map m request letters diagram ∧
      (h.apply session now request).2.maps = h.maps.insert map { m with diagram } ∧
      h.GoesRound letters (h.apply session now request).2 := by
  rcases edit_cases wants h now with ⟨_, refused⟩ | ⟨e, m, done, accepted, found, member, fits, maps⟩
  · exact .inl refused
  · have posts := h.posts_apply session now request
    -- What is left is to read the letters and the contents off the edit.
    suffices fans : h.FansOut session map m request (h.lettersOf session now request)
        (m.diagram.edited e) from
      .inr ⟨m, _, _, accepted, found, member, fans, maps, posts.goesRound fans.once⟩
    cases request with
    | addSymbol | addConnection | deleteSymbol | deleteConnection | translateSymbol =>
        obtain rfl := Option.some.inj wants
        rw [lettersOf, done, deedLetters, found]
        obtain ⟨k, -, same⟩ := Option.map_eq_some_iff.mp done
        cases same
        -- The one way of fanning out that fits asks for the number to be free, or to be in use.
        constructor <;> first | exact fits | rfl
    | _ => cases wants

end Hub

/-- At every moment of every run, whoever asks for an edit of a map and gets it has the map open, and
the frames that are sent are these.  An addition under a placeholder sends the session that asked one
frame, with the placeholder and the least free number, and then every other subscriber, in ascending
order, one frame with that number and the coordinates or the permanent numbers of the ends that are
kept.  A deletion or a move sends every other subscriber, in ascending order, one frame with the
permanent number behind the one that was named, and the session that asked nothing.  The contents change
as the frames say: the element is added at the end, the first one with the number goes or is moved, by
an addition that wraps around.  All recipients are connected, nobody is sent two frames, and nobody else
is sent any.  Whoever reads its queue has its frame in there, whatever queues are closed; the others are
marked and counted, and change nothing for those who come after them. -/
theorem edit_fans_out_in_every_run {σ : Type} [Store σ] (store : σ) (maxFrameSize : Nat)
    (moves : List Move) :
    let e := Engine.start store maxFrameSize
    (e.after moves).hub = e.hub.performAll (e.acts moves) ∧
    ∀ done rest, e.acts moves = done ++ rest →
      let h := e.hub.performAll done
      ∀ session now request map, request.editedMap? = some map →
        (h.apply session now request).1 = .ok () →
        let h' := (h.apply session now request).2
        ∃ m letters diagram, h.maps.get? map = some m ∧ session ∈ m.subscribers ∧
          m.subscribers.members.Pairwise (· < ·) ∧
          h.FansOut session map m request letters diagram ∧
          h'.maps = h.maps.insert map { m with diagram } ∧
          (∀ l ∈ letters, h.router.isRegistered l.1 = true) ∧
          h.GoesRound letters h' := by
  intro e
  refine ⟨e.hub_after moves, ?_⟩
  intro done rest cut h session now request map wants accepted h'
  have enabled := e.enabled_acts moves
  rw [cut] at enabled
  have ok : h.Orderly := Hub.performAll_keeps (fun h a => Hub.orderly_perform)
    (Hub.along_append.mp enabled).1 (Hub.Orderly.start store)
  rcases Hub.fansOut_cases wants h now with
    ⟨reason, refused⟩ | ⟨m, letters, diagram, -, found, member, fans, maps, round⟩
  · rw [refused] at accepted
    cases accepted
  · refine ⟨m, letters, diagram, found, member, m.subscribers.ascending, fans, maps, ?_, round⟩
    intro l listed
    have recipient := fans.subscribed member (List.mem_map_of_mem listed)
    exact ok.map_known map m l.1 found recipient

/-- Three sessions have a map open, and the queue of the second one is closed. -/
def threeAndOneGone : List Move :=
  [.event (.connected ⟨1⟩ "a" .staying),
    .event (.connected ⟨2⟩ "b" .staying),
    .event (.connected ⟨3⟩ "c" .staying),
    sending ⟨3⟩ .openMap [8],
    sending ⟨2⟩ .openMap [8],
    sending ⟨1⟩ .openMap [8],
    .retire ⟨2⟩ 0]

/-- The third session gets its frame although the second one cannot, which is marked. -/
theorem edit_fans_out_in_every_run_threeAndOneGone :
    let h := ((Engine.start planAndOffice 1000).after threeAndOneGone).hub
    let h' := (h.apply ⟨1⟩ 0 (.addSymbol 8 (-5) 3 4)).2
    h'.router.queueOf ⟨1⟩ =
        h.router.queueOf ⟨1⟩ ++ [(Notification.symbolRenamed 8 (-5) 2).toFrame] ∧
      h'.router.queueOf ⟨2⟩ = h.router.queueOf ⟨2⟩ ∧ ⟨2⟩ ∈ h'.router.failed ∧
      h'.router.queueOf ⟨3⟩ =
        h.router.queueOf ⟨3⟩ ++ [(Notification.symbolAdded 8 2 3 4).toFrame] := by
  intro h h'
  obtain ⟨run, moments⟩ := edit_fans_out_in_every_run planAndOffice 1000 threeAndOneGone
  have here := moments ((Engine.start planAndOffice 1000).acts threeAndOneGone) []
    (List.append_nil _).symm
  rw [← run] at here
  have accepted : (((Engine.start planAndOffice 1000).after threeAndOneGone).hub.apply ⟨1⟩ 0
      (.addSymbol 8 (-5) 3 4)).1 = .ok () := by decide_cbv
  have shown : (((Engine.start planAndOffice 1000).after threeAndOneGone).hub.maps.get? 8).map
      (fun m => (m.diagram.symbols, m.subscribers.members)) =
        some ([Symbol.placed 1 50 50], [⟨1⟩, ⟨2⟩, ⟨3⟩]) := by decide_cbv
  have listening : [⟨1⟩, ⟨2⟩, ⟨3⟩].map (fun q : SessionId =>
      ((Engine.start planAndOffice 1000).after threeAndOneGone).hub.router.listens q) =
        [true, false, true] := by decide_cbv
  have known : ((Engine.start planAndOffice 1000).after threeAndOneGone).hub.router.isRegistered
      ⟨2⟩ = true := by decide_cbv
  obtain ⟨m, letters, diagram, found, -, -, fans, -, -, round⟩ :=
    here ⟨1⟩ 0 (.addSymbol 8 (-5) 3 4) 8 rfl accepted
  obtain ⟨m', found', same⟩ := Option.map_eq_some_iff.mp shown
  obtain rfl : m = m' := Option.some.inj (found.symm.trans found')
  obtain ⟨symbols, members⟩ := Prod.mk.inj same
  simp only [List.map_cons, List.map_nil, List.cons.injEq, and_true] at listening
  obtain ⟨first, second, third⟩ := listening
  cases fans with
  | symbolAdded free =>
      rw [symbols] at free
      have two : Elements.nextFree? [Symbol.placed 1 50 50] = some 2 := by decide_cbv
      cases two.symm.trans free
      have others : lettersToOthers m.subscribers ⟨1⟩ (.symbolAdded 8 2 3 4) =
          [(⟨2⟩, .symbolAdded 8 2 3 4), (⟨3⟩, .symbolAdded 8 2 3 4)] := by
        rw [lettersToOthers, members]
        rfl
      rw [others] at round
      refine ⟨?_, ?_, (round.failed ⟨2⟩).mpr (.inr ⟨by decide, known, second⟩), ?_⟩
      · refine (round.queues ⟨1⟩).trans ?_
        rw [first]
        rfl
      · refine (round.queues ⟨2⟩).trans ?_
        rw [second]
        exact List.append_nil _
      · refine (round.queues ⟨3⟩).trans ?_
        rw [third]
        rfl

end TopoSync
