import Mathlib
import TopoSync.Proofs.Chunks
import TopoSync.Proofs.Hub.Replies
import TopoSync.Store.Database
import TopoSync.Store.Interruptible

/-!
# Refusals have no effect

A request that is refused leaves everything as it was, provided that reading leaves the store as it
was; only whoever wants to open a node that does not exist is told so.  Hence a frame that is rejected
might as well not have been sent, and the frames after it are answered as they would have been.
-/

namespace TopoSync

/-- A store in which reading changes nothing. -/
class QuietStore (σ : Type) [Store σ] : Prop where
  loadMap : ∀ (store : σ) map, (Store.loadMap store map).2 = store
  loadNode : ∀ (store : σ) node, (Store.loadNode store node).2 = store

instance : QuietStore MemoryStore where
  loadMap _ _ := rfl
  loadNode _ _ := rfl

instance : QuietStore Database where
  loadMap _ _ := rfl
  loadNode _ _ := rfl

theorem Interruptible.snd_read {σ α : Type} {s : Interruptible σ}
    {step : σ → Except StoreError α × σ} (quiet : (step s.inner).2 = s.inner) :
    (s.read step).2 = s := by
  rw [read]
  split
  · dsimp only
    rw [quiet]
  · rfl

instance {σ : Type} [Store σ] [QuietStore σ] : QuietStore (Interruptible σ) where
  loadMap _ map := Interruptible.snd_read (QuietStore.loadMap _ map)
  loadNode _ node := Interruptible.snd_read (QuietStore.loadNode _ node)

/-- What a session is told of a refusal: that the node which it wants to open does not exist, and
nothing otherwise. -/
def Refusal.reply? : Request → Refusal → Option Notification
  | .openNode _, nodeNotFound node => some (.nodeMissing node)
  | _, _ => none

/-- What a session is told of the rejection of a frame. -/
def Rejection.reply? (frame : Bytes) : Rejection → Option Notification
  | refused _ reason => (Request.ofFrame? frame).bind fun request => reason.reply? request
  | unknownCommand _ | tooShort .. | malformed .. => none

namespace Hub

variable {σ : Type}

/-- The hub after a session is told something, or nothing. -/
def reply (h : Hub σ) (session : SessionId) (n : Option Notification) : Hub σ :=
  h.post (n.toList.map fun n => (session, n))

@[simp] theorem reply_none (h : Hub σ) (session : SessionId) : h.reply session none = h := rfl

/-- Whether an operation leaves the hub as it is if it is refused. -/
def Spares {β γ : Type} (h : Hub σ) (o : Except β γ × Hub σ) : Prop :=
  ∀ reason, o.1 = .error reason → o.2 = h

theorem spares_refused {β γ : Type} (h : Hub σ) (reason : β) :
    Spares h ((.error reason, h) : Except β γ × Hub σ) :=
  fun _ _ => rfl

theorem spares_done {β γ : Type} (h h' : Hub σ) (value : γ) :
    Spares h ((.ok value, h') : Except β γ × Hub σ) :=
  fun _ refused => nomatch refused

theorem Spares.dropValue {α : Type} {h : Hub σ} {o : Outcome σ α} (spares : Spares h o) :
    Spares h (Hub.dropValue o) := by
  intro reason refused
  rcases verdict : o.1 with e | value
  · exact spares e verdict
  · rw [Hub.dropValue, verdict] at refused
    cases refused

section Elements

variable {α : Type} [MapElement α] (h : Hub σ) (session : SessionId)

theorem spares_addElement (map : MapId) (temp : ElementId) (build : ElementId → α) :
    Spares h (h.addElement session map temp build) := by
  rcases h.addElement_cases session map temp build with
    ⟨e, refused⟩ | ⟨m, id, _, _, _, _, _, effect⟩
  · rw [refused]
    exact spares_refused h e
  · rw [effect]
    exact spares_done h _ id

theorem spares_deleteElement (map : MapId) (id : ElementId) :
    Spares h (h.deleteElement α session map id) := by
  rcases h.deleteElement_cases (α := α) session map id with
    ⟨e, refused⟩ | ⟨m, _, k, ids, _, _, _, _, _, _, effect⟩
  · rw [refused]
    exact spares_refused h e
  · rw [effect]
    exact spares_done h _ k

theorem spares_acknowledge (old new : ElementId) :
    Spares h (h.acknowledge α session old new) := by
  rcases h.acknowledge_cases α session old new with ⟨e, refused⟩ | ⟨s, ids, _, _, effect⟩
  · rw [refused]
    exact spares_refused h e
  · rw [effect]
    exact spares_done h _ ()

end Elements

section Requests

variable (h : Hub σ) (session : SessionId)

theorem spares_logIn (login : String) : Spares h (h.logIn session login) := by
  rw [logIn]
  split
  · exact spares_done h _ ()
  · exact spares_refused h _

theorem spares_addConnection (map : MapId) (temp sym0 sym1 : ElementId) :
    Spares h (h.addConnection session map temp sym0 sym1) := by
  rw [addConnection]
  split
  · exact spares_refused h _
  · exact h.spares_addElement session map temp _

theorem spares_translateSymbol (map : MapId) (id : ElementId) (dx dy : Int32) :
    Spares h (h.translateSymbol session map id dx dy) := by
  rw [translateSymbol]
  split
  · exact spares_refused h _
  · dsimp only
    split
    · exact spares_refused h _
    · split
      · exact spares_refused h _
      · exact spares_done h _ ()

theorem spares_setFields (node : NodeId) (fields : NodeFields) :
    Spares h (h.setFields session node fields) := by
  rw [setFields]
  split
  · exact spares_refused h _
  · exact spares_done h _ ()

theorem spares_lockNode (node : NodeId) (now : UInt32) :
    Spares h (h.lockNode session node now) := by
  rw [lockNode]
  split
  · exact spares_refused h _
  · split
    · exact spares_refused h _
    · split
      · exact spares_refused h _
      · exact spares_done h _ ()

theorem spares_unlockNode (node : NodeId) : Spares h (h.unlockNode session node) := by
  rw [unlockNode]
  split
  · exact spares_refused h _
  · exact spares_done h _ ()

variable [Store σ]

theorem spares_closeMap (map : MapId) : Spares h (h.closeMap session map) := by
  rw [closeMap]
  split
  · exact spares_refused h _
  · exact spares_done h _ ()

theorem spares_closeNode (node : NodeId) : Spares h (h.closeNode session node) := by
  rw [closeNode]
  split
  · exact spares_refused h _
  · exact spares_done h _ ()

variable [QuietStore σ]

theorem spares_openMap (map : MapId) : Spares h (h.openMap session map) := by
  rcases h.openMap_cases session map with ⟨_, refused⟩ | ⟨reason, _, _, refused⟩ |
    ⟨m, _, _, joined⟩ | ⟨diagram, store, _, _, _, loaded⟩
  · rw [refused]
    exact spares_refused h _
  · rw [refused, QuietStore.loadMap]
    exact spares_refused h _
  · rw [joined]
    exact spares_done h _ ()
  · rw [loaded]
    exact spares_done h _ ()

/-- Opening a node is the one operation that answers when it is refused. -/
theorem openNode_refused (node : NodeId) {reason : Refusal}
    (refused : (h.openNode session node).1 = .error reason) :
    (h.openNode session node).2 = h.reply session (reason.reply? (.openNode node)) := by
  rcases h.openNode_cases session node with ⟨cause, _, _, unreadable⟩ | ⟨store, _, answer, missed⟩ |
    ⟨n, _, joined⟩ | ⟨record, store, _, _, loaded⟩
  · rw [unreadable] at refused ⊢
    cases refused
    rw [QuietStore.loadNode]
    rfl
  · rw [missed] at refused ⊢
    cases refused
    obtain rfl : h.store = store := by rw [← QuietStore.loadNode h.store node, answer]
    rfl
  · rw [joined] at refused
    cases refused
  · rw [loaded] at refused
    cases refused

/-- A request that is refused has no effect but its reply. -/
theorem apply_refused {now : UInt32} {request : Request} {reason : Refusal}
    (refused : (h.apply session now request).1 = .error reason) :
    (h.apply session now request).2 = h.reply session (reason.reply? request) := by
  cases request with
  | openNode node => exact h.openNode_refused session node refused
  | login login password => exact h.spares_logIn session login reason refused
  | getMapList => cases refused
  | openMap map => exact h.spares_openMap session map reason refused
  | closeMap map => exact h.spares_closeMap session map reason refused
  | addSymbol map id x y => exact (h.spares_addElement session map id _).dropValue reason refused
  | renameSymbol map old new =>
      exact h.spares_acknowledge (α := Symbol) session old new reason refused
  | deleteSymbol map id =>
      exact (h.spares_deleteElement (α := Symbol) session map id).dropValue reason refused
  | translateSymbol map id dx dy => exact h.spares_translateSymbol session map id dx dy reason refused
  | addConnection map id sym0 sym1 =>
      exact (h.spares_addConnection session map id sym0 sym1).dropValue reason refused
  | renameConnection map old new =>
      exact h.spares_acknowledge (α := Connection) session old new reason refused
  | deleteConnection map id =>
      exact (h.spares_deleteElement (α := Connection) session map id).dropValue reason refused
  | closeNode node => exact h.spares_closeNode session node reason refused
  | setNode node fields => exact h.spares_setFields session node fields reason refused
  | lockNode node => exact h.spares_lockNode session node now reason refused
  | unlockNode node => exact h.spares_unlockNode session node reason refused
  | unsupported command => cases refused

/-- A frame that is rejected has no effect but its reply. -/
theorem answerFrame_rejected {now : UInt32} {frame : Bytes} {reason : Rejection}
    (rejected : (h.answerFrame session now frame).1 = .error reason) :
    (h.answerFrame session now frame).2 = h.reply session (reason.reply? frame) := by
  cases asked : Request.ofFrame? frame with
  | none =>
      have silent : reason.reply? frame = none := by
        cases reason <;> simp [Rejection.reply?, asked]
      rw [answerFrame_eq, asked, silent, reply_none]
  | some request =>
      obtain ⟨command, answer⟩ := answerFrame_of_ofFrame? (σ := σ) asked
      rw [answer] at rejected ⊢
      dsimp only at rejected ⊢
      rcases verdict : (h.apply session now request).1 with cause | _
      · rw [verdict] at rejected
        obtain rfl : .refused command cause = reason := Except.error.inj rejected
        rw [h.apply_refused session verdict, Rejection.reply?, asked, Option.bind_some]
      · rw [verdict] at rejected
        cases rejected

omit [QuietStore σ] in
/-- A known command that sessions cannot ask for has no effect. -/
theorem answerFrame_unsupported {now : UInt32} {frame : Bytes} {command : Command}
    (asked : Request.ofFrame? frame = some (.unsupported command)) :
    (h.answerFrame session now frame).2 = h := by
  rw [answerFrame_eq, asked]
  rfl

end Requests

end Hub

namespace Engine

variable {σ : Type} [Store σ]

/-- What becomes of bytes in the middle of which there is a whole frame, and what would become of the
others without it. -/
theorem receive_around {e : Engine σ} {id : SessionId} {s : Session}
    (known : e.hub.router.session? id = some s) {bytes first frame rest : Bytes}
    {before : List Bytes} (joined : s.inbound ++ bytes = first ++ frame ++ rest)
    (whole : Framing.split e.maxFrameSize first = ⟨before, [], .wantsMore⟩)
    (one : Framing.split e.maxFrameSize frame = ⟨[frame], [], .wantsMore⟩) (clock : Clock) :
    let h := e.hub.answerFrames id clock before
    let now := (clock.after before.length).now
    let later := clock.after (before.length + 1)
    let cut := Framing.split e.maxFrameSize rest
    e.receive id bytes clock =
      { e with hub := (((((h.answerFrame id now frame).2.answerFrames id later cut.frames).rebuffer
        id cut.rest).settle id cut.stop).reapFailed) } ∧
    (e.rebuffer id []).receive id (first ++ rest) (clock.without before.length) =
      { e with hub := ((((h.answerFrames id later cut.frames).rebuffer id cut.rest).settle id
        cut.stop).reapFailed) } := by
  intro h now later cut
  have found : (e.rebuffer id []).hub.router.session? id = some (s.withInbound []) := by
    rw [rebuffer, Hub.session?_rebuffer_self, known, Option.map_some]
  constructor
  · rw [receive_of_known known, joined, List.append_assoc, Framing.split_append_of_whole whole,
      Framing.split_append_of_whole one]
    dsimp only
    rw [List.singleton_append, Hub.answerFrames_among]
  · rw [receive_of_known found]
    dsimp only [rebuffer, Session.withInbound]
    rw [List.nil_append, Framing.split_append_of_whole whole]
    dsimp only
    rw [Hub.answerFrames_rebuffer, Hub.rebuffer_rebuffer, Hub.answerFrames_without]

/-- A whole frame without effect on the hub might as well not have been sent. -/
theorem receive_without {e : Engine σ} {id : SessionId} {s : Session}
    (known : e.hub.router.session? id = some s) {bytes first frame rest : Bytes}
    {before : List Bytes} (joined : s.inbound ++ bytes = first ++ frame ++ rest)
    (whole : Framing.split e.maxFrameSize first = ⟨before, [], .wantsMore⟩)
    (one : Framing.split e.maxFrameSize frame = ⟨[frame], [], .wantsMore⟩) {clock : Clock}
    (idle : ((e.hub.answerFrames id clock before).answerFrame id (clock.after before.length).now
      frame).2 = e.hub.answerFrames id clock before) :
    e.receive id bytes clock =
      (e.rebuffer id []).receive id (first ++ rest) (clock.without before.length) := by
  obtain ⟨sent, unsent⟩ := receive_around known joined whole one clock
  rw [sent, unsent, idle]

/-- Whether two engines differ only in the routers of their hubs, which are related. -/
structure Alike (R : Router → Router → Prop) (e e' : Engine σ) : Prop where
  maxFrameSize : e'.maxFrameSize = e.maxFrameSize
  hub : Hub.Alike R e.hub e'.hub

section LoggedReply

variable {session : SessionId} {reply : Frame}

omit [Store σ] in
theorem rebuffer_alike {h h' : Hub σ} (alike : Hub.Alike (Router.LogsReply session reply) h h')
    (id : SessionId) (bytes : Bytes) :
    Hub.Alike (Router.LogsReply session reply) (h.rebuffer id bytes) (h'.rebuffer id bytes) :=
  alike.withRouter (alike.router.updateSession id _)

/-- The frames of a session, what is left of its bytes and why no more frames were cut are dealt with
alike. -/
theorem settle_alike {h h' : Hub σ} (alike : Hub.Alike (Router.LogsReply session reply) h h')
    (id : SessionId) (clock : Clock) (cut : Framing.Split) :
    Hub.Alike (Router.LogsReply session reply)
      (((h.answerFrames id clock cut.frames).rebuffer id cut.rest).settle id cut.stop).reapFailed
      (((h'.answerFrames id clock cut.frames).rebuffer id cut.rest).settle id
        cut.stop).reapFailed := by
  have lasting := Router.LogsReply.lasting session reply
  have answered := rebuffer_alike (alike.answerFrames lasting.toUnnoticed id clock cut.frames) id
    cut.rest
  cases cut.stop with
  | wantsMore => exact answered.reapFailed lasting
  | badLength length => exact (answered.disconnect lasting id).reapFailed lasting

variable {e e' : Engine σ}

/-- A reply more in the log makes no difference to any move. -/
theorem Alike.move (alike : Alike (Router.LogsReply session reply) e e') (m : Move) :
    Alike (Router.LogsReply session reply) (e.move m) (e'.move m) := by
  have lasting := Router.LogsReply.lasting session reply
  obtain ⟨limit, hub⟩ := alike
  cases m with
  | retire id after => exact ⟨limit, hub.withRouter (hub.router.updateSession id _)⟩
  | event event =>
      cases event with
      | connected id host reader => exact ⟨limit, hub.withRouter (hub.router.register _)⟩
      | data id bytes clock =>
          have same := hub.router.session?_eq id
          cases known : e.hub.router.session? id with
          | none =>
              have unknown := same.trans known
              rw [Engine.move, Engine.move, step, step, receive_of_unknown known,
                receive_of_unknown unknown]
              exact ⟨limit, hub⟩
          | some s =>
              rw [Engine.move, Engine.move, step, step, receive_of_known known,
                receive_of_known (same.trans known), limit]
              exact ⟨rfl, settle_alike hub id clock _⟩
      | disconnected id => exact ⟨limit, hub.disconnect lasting id⟩
      | shutdown => exact ⟨limit, hub.flush⟩

theorem Alike.after (alike : Alike (Router.LogsReply session reply) e e') (moves : List Move) :
    Alike (Router.LogsReply session reply) (e.after moves) (e'.after moves) := by
  induction moves generalizing e e' with
  | nil => exact alike
  | cons m rest ih => exact ih (alike.move m)

end LoggedReply

/-- No bytes at all have no effect on a session that nothing is kept of. -/
theorem receive_nil {e : Engine σ} (unmarked : e.hub.router.failed = []) {id : SessionId}
    {s : Session} (known : e.hub.router.session? id = some s) (clock : Clock) :
    (e.rebuffer id []).receive id [] clock = e.rebuffer id [] := by
  have found : (e.rebuffer id []).hub.router.session? id = some (s.withInbound []) := by
    rw [rebuffer, Hub.session?_rebuffer_self, known, Option.map_some]
  have waiting : Frame.inspect ((s.withInbound []).inbound ++ []) e.maxFrameSize =
      .incomplete Frame.headerSize := rfl
  have kept := receive_of_incomplete (e := e.rebuffer id []) unmarked found waiting clock
  exact kept.trans (congrArg (fun hub => { e with hub }) (e.hub.rebuffer_rebuffer id [] []))

end Engine

/-- In every state, a request that is refused leaves the hub as it is, except that whoever wants to
open a node that does not exist is told so.  After every run, a whole frame that is rejected without a
reply, or whose command sessions cannot ask for, might as well not have been sent, wherever it stands
among the bytes that arrive and those kept before, if the other frames meet the same readings of the
clock; alone it only ends the wait for its bytes.  After a rejection with a reply every later frame of
the session is answered as it would have been, and the hub is what it would have been but for the
reply; if the reader of the session's queue stays, then whatever happens later, the reply in the log
and in the counts remains the only difference. -/
theorem refusals_have_no_effect {σ : Type} [Store σ] [QuietStore σ] (store : σ)
    (maxFrameSize : Nat) (moves : List Move) :
    (∀ (h : Hub σ) session now request reason,
      (h.apply session now request).1 = .error reason →
      (h.apply session now request).2 = h.reply session (reason.reply? request)) ∧
    let e := (Engine.start store maxFrameSize).after moves
    ∀ id s, e.hub.router.session? id = some s →
      (∀ clock, (e.rebuffer id []).receive id [] clock = e.rebuffer id []) ∧
      ∀ bytes first frame rest before clock,
        s.inbound ++ bytes = first ++ frame ++ rest →
        Framing.split maxFrameSize first = ⟨before, [], .wantsMore⟩ →
        Framing.split maxFrameSize frame = ⟨[frame], [], .wantsMore⟩ →
        let h := e.hub.answerFrames id clock before
        let now := (clock.after before.length).now
        let without :=
          (e.rebuffer id []).receive id (first ++ rest) (clock.without before.length)
        (∀ command, Request.ofFrame? frame = some (.unsupported command) →
          e.receive id bytes clock = without) ∧
        ∀ reason, (h.answerFrame id now frame).1 = .error reason →
          (reason.reply? frame = none → e.receive id bytes clock = without) ∧
          ∀ n, reason.reply? frame = some n →
            (first = [] → rest = [] →
              e.receive id bytes clock =
                { e with hub := ((e.hub.reply id (some n)).rebuffer id []).reapFailed }) ∧
            (∀ times later,
              Hub.Alike (Router.OffersReply id) (h.answerFrames id times later)
                ((h.answerFrame id now frame).2.answerFrames id times later) ∧
              ∀ time next,
                (((h.answerFrame id now frame).2.answerFrames id times later).answerFrame id time
                  next).1 = ((h.answerFrames id times later).answerFrame id time next).1) ∧
            (s.reader = .staying → ∀ later,
              Engine.Alike (Router.LogsReply id n.toFrame) (without.after later)
                ((e.receive id bytes clock).after later)) := by
  refine ⟨fun h session now request reason refused => h.apply_refused session refused, ?_⟩
  intro e id s known
  have limit : e.maxFrameSize = maxFrameSize :=
    (Engine.start store maxFrameSize).maxFrameSize_after moves
  have unmarked : e.hub.router.failed = [] := Engine.failed_after rfl moves
  refine ⟨fun clock => Engine.receive_nil unmarked known clock, ?_⟩
  intro bytes first frame rest before clock joined whole one h now without
  rw [← limit] at whole one
  refine ⟨fun command asked => ?_, fun reason rejected => ?_⟩
  · exact Engine.receive_without known joined whole one (h.answerFrame_unsupported id asked)
  have effect := h.answerFrame_rejected id rejected
  refine ⟨fun silent => ?_, fun n told => ?_⟩
  · rw [silent] at effect
    exact Engine.receive_without known joined whole one effect
  rw [told] at effect
  have registered : e.hub.router.isRegistered id = true :=
    Router.isRegistered_iff_exists.mpr ⟨s, known⟩
  obtain ⟨t, connected⟩ := Router.isRegistered_iff_exists.mp
    ((Hub.isRegistered_answerFrames registered clock before id).trans registered)
  obtain ⟨sent, unsent⟩ := Engine.receive_around known joined whole one clock
  refine ⟨fun nothing none => ?_, fun times later => ?_, fun staying later => ?_⟩
  · subst nothing none
    rw [Framing.split_nil] at sent whole
    obtain rfl : [] = before := congrArg Framing.Split.frames whole
    rw [sent, effect]
    rfl
  · have unnoticed := Router.OffersReply.unnoticed id
    have alike := (Hub.alike_post connected n).answerFrames unnoticed id times later
    rw [effect]
    exact ⟨alike, fun time next => (alike.answerFrame unnoticed id time next).answer⟩
  · have stayed : t.reader = .staying := by
      refine Hub.staying_answerFrames registered (fun u found => ?_) clock before t connected
      rw [Option.some.inj (found.symm.trans known)]
      exact staying
    have alike := Hub.alike_post_of_staying connected stayed n
    refine Engine.Alike.after ?_ later
    rw [sent, show without = _ from unsent, effect]
    exact ⟨rfl, Engine.settle_alike alike id _ _⟩

/-- A session is connected, and half a question for a node has arrived from it. -/
def halfAsked : List Move :=
  [.event (.connected ⟨1⟩ "a" .staying),
    .event (.data ⟨1⟩ [0, 0, 0, 12, 0, 0] 0)]

/-- The node does not exist: the rest of the question is answered with nothing else than that, and a
map can be opened later as if nobody had asked.  Giving the node back is refused without a reply. -/
theorem refusals_have_no_effect_halfAsked :
    let e := (Engine.start (MemoryStore.insertMap {} 1 "plan" {}) 1000).after halfAsked
    let question := (Frame.build .openNode [.word 9]).bytes
    let farewell := (Frame.build .closeNode [.word 9]).bytes
    let opening := Move.event (.data ⟨1⟩ (Frame.build .openMap [.signed 1]).bytes 6)
    e.receive ⟨1⟩ (question.drop 6) 5 =
        { e with hub := ((e.hub.reply ⟨1⟩ (some (.nodeMissing 9))).rebuffer ⟨1⟩ []).reapFailed } ∧
      Engine.Alike (Router.LogsReply ⟨1⟩ (Notification.nodeMissing 9).toFrame)
        (((e.rebuffer ⟨1⟩ []).receive ⟨1⟩ [] 5).after [opening])
        ((e.receive ⟨1⟩ (question.drop 6) 5).after [opening]) ∧
      e.receive ⟨1⟩ (question.drop 6 ++ farewell) 5 =
        (e.rebuffer ⟨1⟩ []).receive ⟨1⟩ question 5 := by
  intro e question farewell opening
  have known : e.hub.router.session? ⟨1⟩ =
      some { id := ⟨1⟩, host := "a", inbound := [0, 0, 0, 12, 0, 0] } := by cbv
  obtain ⟨_, run⟩ := refusals_have_no_effect (MemoryStore.insertMap {} 1 "plan" {}) 1000 halfAsked
  obtain ⟨_, frames⟩ := run ⟨1⟩ _ known
  have missing : (e.hub.answerFrame ⟨1⟩ 5 question).1 =
      .error (.refused .openNode (.nodeNotFound 9)) := by cbv
  have unopened : ((e.hub.answerFrames ⟨1⟩ 5 [question]).answerFrame ⟨1⟩ 5 farewell).1 =
      .error (.refused .closeNode (.nodeNotOpen ⟨1⟩ 9)) := by cbv
  obtain ⟨_, asked⟩ := frames (question.drop 6) [] question [] [] 5 (by cbv) (by cbv) (by cbv)
  obtain ⟨answered, _, later⟩ := (asked _ missing).2 (.nodeMissing 9) (by cbv)
  obtain ⟨_, left⟩ := frames (question.drop 6 ++ farewell) question farewell [] [question] 5
    (by cbv) (by cbv) (by cbv)
  refine ⟨answered rfl rfl, later rfl [opening], ?_⟩
  exact (left _ unopened).1 (by cbv)

end TopoSync
