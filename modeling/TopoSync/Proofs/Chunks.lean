import Mathlib
import TopoSync.Proofs.Hub.Cascades
import TopoSync.Proofs.Hub.Hearing
import TopoSync.Proofs.Hub.Rebuffering
import TopoSync.Proofs.Wire.Cutting
import TopoSync.Store.Memory

/-!
# Bytes that arrive in pieces

As long as no queue breaks, it makes no difference into how many pieces the bytes of a session are
cut: the frames are answered in the same order with the same result, and what is left over is the
same.  A piece that does not complete a frame only waits, and what other sessions do meanwhile makes
no difference to it.
-/

namespace TopoSync

namespace Hub

variable {σ : Type}

/-- A hub in which every reader stays and nobody is marked as failed. -/
structure Calm (h : Hub σ) : Prop where
  staying : ∀ id s, h.router.session? id = some s → s.reader = .staying
  unmarked : h.router.failed = []

variable [Store σ]

/-- No change makes a reader go away. -/
theorem Change.staying {h h' : Hub σ} {marks : List Mark} (change : Change h marks h')
    {q : SessionId} (staying : ∀ s, h.router.session? q = some s → s.reader = .staying) :
    ∀ s, h'.router.session? q = some s → s.reader = .staying := by
  intro s known
  rcases change.router_cases with
    delivered | ⟨_, id, f, keeps, amended⟩ | ⟨_, cleared⟩ | ⟨id, _, out⟩
  · rw [delivered] at known
    exact Router.staying_deliver staying _ s known
  · rw [amended, Router.session?_updateSession] at known
    split at known
    · obtain ⟨t, before, rfl⟩ := Option.map_eq_some_iff.mp known
      rw [keeps]
      exact staying t before
    · exact staying s known
  · rw [cleared] at known
    exact staying s known
  · rw [out, Router.session?_unregister] at known
    split at known
    · cases known
    · exact staying s known

/-- No change breaks a queue if every reader stays. -/
theorem Change.calm {h h' : Hub σ} {marks : List Mark} (change : Change h marks h')
    (calm : h.Calm) : h'.Calm := by
  refine ⟨fun q => change.staying (calm.staying q), ?_⟩
  rcases change.router_cases with
    delivered | ⟨_, id, f, _, amended⟩ | ⟨_, cleared⟩ | ⟨id, _, out⟩
  · rw [delivered, Router.failed_deliver_of_staying calm.staying]
    exact calm.unmarked
  · rw [amended]
    exact calm.unmarked
  · rw [cleared]
    rfl
  · rw [out, Router.unregister, calm.unmarked]
    rfl

/-- Answering frames makes no reader go away. -/
theorem staying_answerFrames {h : Hub σ} {id q : SessionId}
    (known : h.router.isRegistered id = true)
    (staying : ∀ s, h.router.session? q = some s → s.reader = .staying) (clock : Clock)
    (frames : List Bytes) :
    ∀ s, (h.answerFrames id clock frames).router.session? q = some s → s.reader = .staying :=
  answerFrames_keeps (P := fun h => ∀ s, h.router.session? q = some s → s.reader = .staying)
    (fun change => change.staying) known staying clock frames

/-- Answering frames breaks no queue whose reader stays, and ends nobody. -/
theorem Calm.answerFrames {h : Hub σ} (calm : h.Calm) {id : SessionId}
    (known : h.router.isRegistered id = true) (clock : Clock) (frames : List Bytes) :
    (h.answerFrames id clock frames).Calm ∧
      (h.answerFrames id clock frames).router.isRegistered id = true :=
  ⟨answerFrames_keeps (fun change => change.calm) known calm clock frames,
    (isRegistered_answerFrames known clock frames id).trans known⟩

theorem isRegistered_of_reapFailed {h : Hub σ} {q : SessionId}
    (known : h.reapFailed.router.isRegistered q = true) : h.router.isRegistered q = true :=
  (isRegistered_endSessions_iff (h := h.takeFailed.2).mp known).1

/-- A session that is ended is gone. -/
theorem isRegistered_disconnect (h : Hub σ) (id : SessionId) :
    (h.disconnect id).router.isRegistered id = false := by
  rw [← Bool.not_eq_true, disconnect, isRegistered_endSessions_iff]
  rintro ⟨registered, spared⟩
  rw [endings_of_registered registered] at spared
  exact spared List.mem_cons_self

/-- The bytes kept of a session that is ended do not matter. -/
theorem disconnect_rebuffer_self (h : Hub σ) (id : SessionId) (bytes : Bytes) :
    (h.rebuffer id bytes).disconnect id = h.disconnect id := by
  cases registered : h.router.isRegistered id with
  | false => rw [rebuffer_of_not_registered registered]
  | true =>
      have registered' : (h.rebuffer id bytes).router.isRegistered id = true := by
        rwa [isRegistered_rebuffer]
      rw [disconnect, disconnect, endSessions_of_registered registered,
        endSessions_of_registered registered', endSession_rebuffer_self]

end Hub

namespace Engine

variable {σ : Type} [Store σ]

/-- Keeps other bytes as received from a session. -/
def rebuffer (e : Engine σ) (id : SessionId) (bytes : Bytes) : Engine σ :=
  { e with hub := e.hub.rebuffer id bytes }

/-- A length word that cannot be accepted ends the session; what is left does not matter. -/
theorem receive_of_badLength {e : Engine σ} {id : SessionId} {s : Session} {bytes rest : Bytes}
    {frames : List Bytes} {length : Nat} (known : e.hub.router.session? id = some s)
    (cut : Framing.split e.maxFrameSize (s.inbound ++ bytes) = ⟨frames, rest, .badLength length⟩)
    (clock : Clock) :
    e.receive id bytes clock =
      { e with hub := ((e.hub.answerFrames id clock frames).disconnect id).reapFailed } := by
  rw [receive_of_known known, cut]
  dsimp only [Hub.settle]
  rw [Hub.disconnect_rebuffer_self]

/-- Bytes in two pieces and in one have the same effect, if each frame meets the same reading of the
clock. -/
theorem receive_receive {e : Engine σ} (calm : e.hub.Calm) (id : SessionId) (a b : Bytes)
    (clock : Clock) :
    (e.receive id a clock).receive id b (clock.after (e.completed id a).length) =
      e.receive id (a ++ b) clock := by
  cases known : e.hub.router.session? id with
  | none => rw [receive_of_unknown known, receive_of_unknown known, receive_of_unknown known]
  | some s =>
      have registered : e.hub.router.isRegistered id = true :=
        Router.isRegistered_iff_exists.mpr ⟨s, known⟩
      rcases cut : Framing.split e.maxFrameSize (s.inbound ++ a) with ⟨frames, rest, stop⟩
      obtain ⟨calmThen, still⟩ := calm.answerFrames registered clock frames
      cases stop with
      | wantsMore =>
          have done : e.completed id a = frames := by
            rw [completed, known]
            exact congrArg Framing.Split.frames cut
          let g := (e.hub.answerFrames id clock frames).rebuffer id rest
          have first : e.receive id a clock = { e with hub := g } := by
            rw [receive_of_known known, cut]
            exact congrArg (fun hub => { e with hub })
              (Hub.reapFailed_of_unmarked (h := g) calmThen.unmarked)
          obtain ⟨t, found⟩ := Router.isRegistered_iff_exists.mp still
          have kept : g.router.session? id = some (t.withInbound rest) := by
            rw [Hub.session?_rebuffer_self, found, Option.map_some]
          have pieces := Framing.split_append e.maxFrameSize (s.inbound ++ a) b
          rw [cut] at pieces
          dsimp only at pieces
          have second := receive_of_known (e := { e with hub := g }) kept b
            (clock.after frames.length)
          rw [done, first, second, receive_of_known known, ← List.append_assoc, pieces]
          dsimp only [Session.withInbound]
          -- The kept rest of the first piece stays aside while the frames of the second are answered.
          rw [Hub.answerFrames_append, Hub.answerFrames_rebuffer, Hub.rebuffer_rebuffer]
      | badLength length =>
          have pieces := Framing.split_append_of_badLength (by rw [cut]) b
          rw [cut, List.append_assoc] at pieces
          have gone : (e.receive id a clock).hub.router.session? id = none := by
            rw [receive_of_badLength known cut]
            have ended := (e.hub.answerFrames id clock frames).isRegistered_disconnect id
            refine Option.eq_none_iff_forall_ne_some.mpr ?_
            intro t found
            have later := Router.isRegistered_iff_exists.mpr ⟨t, found⟩
            cases ended.symm.trans (Hub.isRegistered_of_reapFailed later)
          rw [receive_of_unknown gone, receive_of_badLength known cut,
            receive_of_badLength known pieces]

/-- Bytes that complete nothing are kept, and nothing else happens. -/
theorem receive_of_incomplete {e : Engine σ} (unmarked : e.hub.router.failed = [])
    {id : SessionId} {s : Session} (known : e.hub.router.session? id = some s) {bytes : Bytes}
    {missing : Nat}
    (waiting : Frame.inspect (s.inbound ++ bytes) e.maxFrameSize = .incomplete missing)
    (clock : Clock) : e.receive id bytes clock = e.rebuffer id (s.inbound ++ bytes) := by
  rw [receive_of_known known, Framing.split_of_incomplete waiting]
  exact congrArg (fun hub => { e with hub }) (Hub.reapFailed_of_unmarked (h :=
    e.hub.rebuffer id (s.inbound ++ bytes)) unmarked)

/-- Only the bytes kept of a session and those that arrive, taken together, count. -/
theorem receive_rebuffer {e : Engine σ} {id : SessionId} {s : Session}
    (known : e.hub.router.session? id = some s) {kept a b : Bytes}
    (same : kept ++ b = s.inbound ++ a) (clock : Clock) :
    (e.rebuffer id kept).receive id b clock = e.receive id a clock := by
  have found : (e.rebuffer id kept).hub.router.session? id = some (s.withInbound kept) := by
    rw [rebuffer, Hub.session?_rebuffer_self, known, Option.map_some]
  rw [receive_of_known found, receive_of_known known, ← same]
  dsimp only [rebuffer, Session.withInbound]
  rw [Hub.answerFrames_rebuffer, Hub.rebuffer_rebuffer]

/-- Whether a move connects a session or brings bytes from it. -/
def feeds (id : SessionId) : Move → Bool
  | .event (.connected q _ _) | .event (.data q _ _) => q == id
  | .event (.disconnected _) | .event .shutdown | .retire .. => false

/-- Moves of others take no notice of the bytes kept of a session. -/
theorem move_rebuffer (e : Engine σ) (id : SessionId) (bytes : Bytes) {m : Move}
    (other : feeds id m = false) :
    (e.rebuffer id bytes).move m = (e.move m).rebuffer id bytes := by
  cases m with
  | retire q after =>
      have router := e.hub.router.retireReader_rebuffer id bytes q after
      exact congrArg (fun router => { e with hub := { e.hub with router } }) router
  | event event =>
      cases event with
      | connected q host reader =>
          have apart : q ≠ id := by simpa [feeds] using other
          have router := e.hub.router.register_rebuffer id bytes
            (s := { id := q, host, reader }) apart
          exact congrArg (fun router => { e with hub := { e.hub with router } }) router
      | data q more clock =>
          have apart : q ≠ id := by simpa [feeds] using other
          have found : (e.rebuffer id bytes).hub.router.session? q = e.hub.router.session? q :=
            e.hub.session?_rebuffer_of_ne id bytes apart
          cases known : e.hub.router.session? q with
          | none =>
              have unknown := found.trans known
              rw [move, move, step, step, receive_of_unknown known, receive_of_unknown unknown]
          | some s =>
              rw [move, move, step, step, receive_of_known known,
                receive_of_known (found.trans known)]
              dsimp only [rebuffer]
              rw [Hub.answerFrames_rebuffer, Hub.rebuffer_comm _ _ _ (Ne.symm apart),
                Hub.settle_rebuffer, Hub.reapFailed_rebuffer]
      | disconnected q =>
          exact congrArg (fun hub => { e with hub }) (e.hub.disconnect_rebuffer id bytes q)
      | shutdown => exact congrArg (fun hub => { e with hub }) (e.hub.flush_rebuffer id bytes)

theorem after_rebuffer (e : Engine σ) (id : SessionId) (bytes : Bytes) {moves : List Move}
    (others : ∀ m ∈ moves, feeds id m = false) :
    (e.rebuffer id bytes).after moves = (e.after moves).rebuffer id bytes := by
  induction moves generalizing e with
  | nil => rfl
  | cons m rest ih =>
      have restOthers : ∀ n ∈ rest, feeds id n = false :=
        fun n member => others n (List.mem_cons_of_mem _ member)
      calc
        ((e.rebuffer id bytes).move m).after rest = ((e.move m).rebuffer id bytes).after rest := by
          rw [e.move_rebuffer id bytes (others m List.mem_cons_self)]
        _ = ((e.move m).after rest).rebuffer id bytes := ih (e.move m) restOthers

/-- Moves of others leave the bytes kept of a session as they are. -/
theorem inbound_after {e : Engine σ} {id : SessionId} {s t : Session} {moves : List Move}
    (known : e.hub.router.session? id = some s) (others : ∀ m ∈ moves, feeds id m = false)
    (found : (e.after moves).hub.router.session? id = some t) : t.inbound = s.inbound := by
  have same : e.rebuffer id s.inbound = e :=
    congrArg (fun hub => { e with hub }) (Hub.rebuffer_inbound known)
  have kept := e.after_rebuffer id s.inbound others
  rw [same] at kept
  rw [kept, rebuffer, Hub.session?_rebuffer_self] at found
  obtain ⟨u, _, rfl⟩ := Option.map_eq_some_iff.mp found
  rfl

/-- Moves of others may come between two pieces of a frame. -/
theorem receive_after_receive {e : Engine σ} (unmarked : e.hub.router.failed = [])
    {id : SessionId} {s : Session} (known : e.hub.router.session? id = some s) {a : Bytes}
    {missing : Nat}
    (waiting : Frame.inspect (s.inbound ++ a) e.maxFrameSize = .incomplete missing)
    {moves : List Move} (others : ∀ m ∈ moves, feeds id m = false) (b : Bytes)
    (first later : Clock) :
    ((e.receive id a first).after moves).receive id b later =
      (e.after moves).receive id (a ++ b) later := by
  rw [receive_of_incomplete unmarked known waiting, after_rebuffer e id _ others]
  cases found : (e.after moves).hub.router.session? id with
  | none =>
      have unknown : (e.after moves).hub.router.isRegistered id = false := by
        rw [Router.isRegistered_eq_isSome, found]
        rfl
      have same : (e.after moves).rebuffer id (s.inbound ++ a) = e.after moves :=
        congrArg (fun hub => { e.after moves with hub }) (Hub.rebuffer_of_not_registered unknown _)
      rw [same, receive_of_unknown found, receive_of_unknown found]
  | some t =>
      apply receive_rebuffer found
      rw [inbound_after known others found, List.append_assoc]

end Engine

/-- After every run, as long as every queue has a reader that stays, bytes that arrive in two pieces
have exactly the effect of the same bytes in one piece, wherever they are cut and whatever they
spell, if each frame meets the same reading of the clock.  A piece that completes no frame and no length word that cannot be accepted changes only the
bytes kept of its session, and whatever others do before the next piece, and however their queues
break, both pieces together have the effect that they would have had after it. -/
theorem receive_in_pieces {σ : Type} [Store σ] (store : σ) (maxFrameSize : Nat)
    (moves : List Move) (id : SessionId) (a : Bytes) :
    ((∀ q s, ((Engine.start store maxFrameSize).after moves).hub.router.session? q = some s →
        s.reader = .staying) →
      ∀ b clock,
        (((Engine.start store maxFrameSize).after moves).receive id a clock).receive id b
            (clock.after (((Engine.start store maxFrameSize).after moves).completed id a).length) =
          ((Engine.start store maxFrameSize).after moves).receive id (a ++ b) clock) ∧
    ∀ s missing,
      ((Engine.start store maxFrameSize).after moves).hub.router.session? id = some s →
      Frame.inspect (s.inbound ++ a) maxFrameSize = .incomplete missing →
      (∀ clock,
        ((Engine.start store maxFrameSize).after moves).receive id a clock =
          ((Engine.start store maxFrameSize).after moves).rebuffer id (s.inbound ++ a)) ∧
      ∀ others, (∀ m ∈ others, Engine.feeds id m = false) → ∀ b first later,
        ((((Engine.start store maxFrameSize).after moves).receive id a first).after
            others).receive id b later =
          (((Engine.start store maxFrameSize).after moves).after others).receive id (a ++ b)
            later := by
  have unmarked := Engine.failed_after (e := Engine.start store maxFrameSize) rfl moves
  have limit : ((Engine.start store maxFrameSize).after moves).maxFrameSize = maxFrameSize :=
    (Engine.start store maxFrameSize).maxFrameSize_after moves
  constructor
  · intro staying b clock
    exact Engine.receive_receive ⟨staying, unmarked⟩ id a b clock
  · intro s missing known waiting
    rw [← limit] at waiting
    constructor
    · exact fun clock => Engine.receive_of_incomplete unmarked known waiting clock
    · intro others apart b first later
      exact Engine.receive_after_receive unmarked known waiting apart b first later

/-- Two sessions are connected, and half a request of the first has arrived. -/
def halfHeard : List Move :=
  [.event (.connected ⟨1⟩ "a" .staying),
    .event (.connected ⟨2⟩ "b" .staying),
    .event (.data ⟨1⟩ [0, 0, 0, 12, 0, 0] 0)]

/-- The next byte may come alone, and before the rest the other session may open the map. -/
theorem receive_in_pieces_halfHeard :
    let e := (Engine.start (MemoryStore.insertMap {} 1 "plan" {}) 1000).after halfHeard
    let other := Move.event (.data ⟨2⟩ (Frame.build .openMap [.signed 1]).bytes 5)
    (e.receive ⟨1⟩ [0] 5).receive ⟨1⟩ [3, 0, 0, 0, 1] 5 =
        e.receive ⟨1⟩ ([0] ++ [3, 0, 0, 0, 1]) 5 ∧
      e.receive ⟨1⟩ [0] 5 = e.rebuffer ⟨1⟩ [0, 0, 0, 12, 0, 0, 0] ∧
      ((e.receive ⟨1⟩ [0] 5).after [other]).receive ⟨1⟩ [3, 0, 0, 0, 1] 6 =
        (e.after [other]).receive ⟨1⟩ ([0] ++ [3, 0, 0, 0, 1]) 6 := by
  intro e other
  have readers : (e.hub.router.sessions.entries.map fun entry => entry.2.reader) =
      [.staying, .staying] := by cbv
  have staying : ∀ q s, e.hub.router.session? q = some s → s.reader = .staying := by
    intro q s known
    have member := List.mem_map_of_mem (f := fun entry : SessionId × Session => entry.2.reader)
      (Table.mem_entries_iff.mpr known)
    rw [readers] at member
    simpa using member
  have known : e.hub.router.session? ⟨1⟩ =
      some { id := ⟨1⟩, host := "a", inbound := [0, 0, 0, 12, 0, 0] } := by cbv
  have waiting : Frame.inspect ([0, 0, 0, 12, 0, 0] ++ [0]) 1000 = .incomplete 1 := by decide
  obtain ⟨pieces, piece⟩ := receive_in_pieces (MemoryStore.insertMap {} 1 "plan" {}) 1000 halfHeard
    ⟨1⟩ [0]
  obtain ⟨kept, between⟩ := piece _ 1 known waiting
  have joined := pieces staying [3, 0, 0, 0, 1] 5
  rw [Clock.after_ofNat] at joined
  exact ⟨joined, kept 5, between [other] (by decide) _ 5 6⟩

end TopoSync
