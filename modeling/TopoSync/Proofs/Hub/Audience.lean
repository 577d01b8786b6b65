import TopoSync.Proofs.Hub.Hearing
import TopoSync.Proofs.Lifecycle

/-!
# Who is told what

Every notification has a subject: the list of maps, a map, a node, or a node that does not exist; and
whoever receives its frame can tell the subject from it.  What is about a map or a node is posted only
to those who subscribe to it at that moment.  This is seen change by change, since posting a letter
leaves everything that is open as it is.
-/

namespace TopoSync

/-- What a session is told something about. -/
inductive Subject
  /-- The list of maps. -/
  | listing
  | map (map : MapId)
  | node (node : NodeId)
  /-- A node that does not exist. -/
  | missing (node : NodeId)
deriving DecidableEq, Repr

namespace Notification

/-- What a notification is about. -/
def subject : Notification → Subject
  | mapList _ => .listing
  | mapSnapshot map _ | symbolRenamed map .. | symbolAdded map .. | symbolDeleted map _
  | symbolTranslated map .. | connectionRenamed map .. | connectionAdded map ..
  | connectionDeleted map _ => .map map
  | nodeSnapshot node .. | nodeUpdated node _ | nodeLocked node .. | nodeUnlocked node => .node node
  | nodeMissing node => .missing node

/-- The maps that a notification lists. -/
def listed : Notification → List MapId
  | mapList entries => entries.map MapEntry.id
  | mapSnapshot .. | symbolRenamed .. | symbolAdded .. | symbolDeleted .. | symbolTranslated ..
  | connectionRenamed .. | connectionAdded .. | connectionDeleted .. | nodeMissing _
  | nodeSnapshot .. | nodeUpdated .. | nodeLocked .. | nodeUnlocked _ => []

end Notification

namespace Frame

/-- The word at a place of the payload, the first one at place 0. -/
def payloadWord (f : Frame) (place : Nat) : UInt32 :=
  Word.ofBytes ((f.payload.rest.drop (4 * place)).take 4)

/-- What a frame is about, if it is one that sessions are sent. -/
def subject? (f : Frame) : Option Subject :=
  match f.command? with
  | some .getMapList => some .listing
  | some .openMap | some .addSymbol | some .renameSymbol | some .deleteSymbol
  | some .translateSymbol | some .addConnection | some .renameConnection
  | some .deleteConnection => some (.map (Word.toSigned (f.payloadWord 0)))
  | some .openNode =>
      if f.payloadWord 1 = LockKind.notFound.word then some (.missing (f.payloadWord 0))
      else some (.node (f.payloadWord 0))
  | some .updateNode | some .lockNode | some .unlockNode => some (.node (f.payloadWord 0))
  | _ => none

theorem payloadWord_build (c : Command) (fields : List Field) (place : Nat) :
    (build c fields).payloadWord place =
      Word.ofBytes (((Field.encodeAll fields).drop (4 * place)).take 4) := by
  rw [payloadWord, payload_build]

/-- The word that a payload begins with is the first one. -/
theorem payloadWord_zero (c : Command) (n : UInt32) (rest : List Field) :
    (build c (.word n :: rest)).payloadWord 0 = n := by
  rw [payloadWord_build]
  exact Word.ofBytes_toBytes n

theorem payloadWord_zero_signed (c : Command) (n : Int32) (rest : List Field) :
    Word.toSigned ((build c (.signed n :: rest)).payloadWord 0) = n := by
  have first : (build c (.signed n :: rest)).payloadWord 0 = Word.ofSigned n := by
    rw [payloadWord_build]
    exact Word.ofBytes_toBytes _
  rw [first, Word.toSigned_ofSigned]

theorem payloadWord_one (c : Command) (n k : UInt32) (rest : List Field) :
    (build c (.word n :: .word k :: rest)).payloadWord 1 = k := by
  rw [payloadWord_build]
  exact Word.ofBytes_toBytes k

end Frame

theorem LockKind.word_ne_notFound {kind : LockKind} (found : kind ≠ .notFound) :
    kind.word ≠ LockKind.notFound.word := by
  intro same
  apply found
  have read := congrArg LockKind.ofCode? same
  rw [ofCode?_word, ofCode?_word] at read
  exact Option.some.inj read

/-- The frame of a notification is about what the notification is about. -/
theorem Notification.subject?_toFrame {n : Notification} (coherent : n.Coherent) :
    n.toFrame.subject? = some n.subject := by
  rw [Frame.subject?, toFrame, Frame.command?_build]
  cases n with
  | mapList entries => rfl
  | nodeMissing node =>
      simp only [command, fields, Frame.payloadWord_one, Frame.payloadWord_zero, if_true, subject]
  | nodeSnapshot node kind holder record =>
      have found : kind.word ≠ LockKind.notFound.word := LockKind.word_ne_notFound coherent.1
      simp only [command, fields, List.cons_append, Frame.payloadWord_one, Frame.payloadWord_zero,
        if_neg found, subject]
  | nodeUpdated | nodeLocked | nodeUnlocked =>
      simp only [command, fields, Frame.payloadWord_zero, subject]
  | mapSnapshot =>
      simp only [command, fields, List.cons_append, Frame.payloadWord_zero_signed, subject]
  | _ => simp only [command, fields, Frame.payloadWord_zero_signed, subject]

/-- Of the frames to be delivered some are added to those sent, in the same order. -/
theorem Router.sent_deliver_sublist (r : Router) (frames : List (SessionId × Frame)) :
    ∃ queued, (r.deliver frames).2.sent = r.sent ++ queued ∧ queued.Sublist frames := by
  induction frames generalizing r with
  | nil => exact ⟨[], (List.append_nil _).symm, .slnil⟩
  | cons e rest ih =>
      obtain ⟨id, f⟩ := e
      obtain ⟨queued, later, sublist⟩ := ih (r.send id f).2
      rw [sent_send] at later
      split at later
      · refine ⟨(id, f) :: queued, ?_, sublist.cons_cons _⟩
        rw [List.append_assoc] at later
        exact later
      · rw [List.append_nil] at later
        exact ⟨queued, later, sublist.cons _⟩

namespace Hub

variable {σ : Type}

/-- Whether a session may be told something as the hub is: only subscribers are told about a map or a
node, and the reserved map is nothing to tell about. -/
def MayTell (h : Hub σ) (session : SessionId) (n : Notification) : Prop :=
  match n.subject with
  | .listing => 0 ∉ n.listed
  | .map map => map ≠ 0 ∧ h.ViewsMap session map
  | .node node => h.ViewsNode session node
  | .missing _ => True

variable {h h' : Hub σ} {session : SessionId}

theorem mayTell_others {members : Roster} {leftOut : SessionId} {n : Notification}
    (each : ∀ s ∈ members, h.MayTell s n) :
    ∀ l ∈ lettersToOthers members leftOut n, h.MayTell l.1 l.2 := by
  intro l listed
  obtain ⟨s, member, rfl⟩ := mem_lettersToOthers listed
  exact each s member

/-- A subscriber may be told about a map that has just been put into place, whatever is posted then. -/
theorem mayTell_putMap {map : MapId} {m : OpenMap} (real : map ≠ 0)
    (member : session ∈ m.subscribers) (letters : List Letter) {n : Notification}
    (about : n.subject = .map map) : ((h.putMap map m).post letters).MayTell session n := by
  rw [MayTell, about]
  exact ⟨real, m, Table.get?_insert_self _ _ _, member⟩

theorem mayTell_putNode {node : NodeId} {k : OpenNode} (member : session ∈ k.subscribers)
    (letters : List Letter) {n : Notification} (about : n.subject = .node node) :
    ((h.putNode node k).post letters).MayTell session n := by
  rw [MayTell, about]
  exact ⟨k, Table.get?_insert_self _ _ _, member⟩

theorem Edit.subject_notice (map : MapId) (e : Edit) : (e.notice map).subject = .map map := by
  cases e <;> rfl

theorem Edit.subject_receipt {map : MapId} {old : ElementId} {e : Edit} {n : Notification}
    (received : n ∈ e.receipt map old) : n.subject = .map map := by
  cases e with
  | symbolAdded | connectionAdded =>
      rw [List.mem_singleton.mp received]
      rfl
  | symbolRemoved | symbolMoved | connectionRemoved => cases received

variable [Store σ] {marks : List Mark}

/-- Every letter of a change goes to a session that may be told at that moment. -/
theorem Change.mayTell (change : Change h marks h') (ok : h.Orderly) :
    ∀ l ∈ lettersIn marks, h'.MayTell l.1 l.2 := by
  cases change with
  | mapsListed session listed =>
      rename_i entries store
      intro l member
      cases List.mem_singleton.mp member
      intro reserved
      obtain ⟨e, kept, zero⟩ := List.mem_map.mp reserved
      exact of_decide_eq_true (List.mem_filter.mp kept).2 zero
  | nodeMissed session node closed missing =>
      intro l member
      cases List.mem_singleton.mp member
      trivial
  | mapJoined session map m real known found =>
      intro l member
      cases List.mem_singleton.mp member
      exact mayTell_putMap real (Roster.mem_insert.mpr (.inl rfl)) _ rfl
  | mapLoaded session map real known closed loaded =>
      intro l member
      cases List.mem_singleton.mp member
      exact mayTell_putMap real (Roster.mem_insert.mpr (.inl rfl)) _ rfl
  | mapEdited session map m edit old found member fits =>
      have real : map ≠ 0 := by
        rintro rfl
        cases ok.reserved_closed.symm.trans found
      rw [lettersIn_deed, lettersIn_letters]
      intro l listed
      rcases List.mem_append.mp listed with receipt | notice
      · obtain ⟨n, received, rfl⟩ := List.mem_map.mp receipt
        refine mayTell_putMap real ?_ _ (Edit.subject_receipt received)
        exact member
      · refine mayTell_others (fun s subscribed => ?_) l notice
        refine mayTell_putMap real ?_ _ (Edit.subject_notice map edit)
        exact subscribed
  | nodeJoined session node n known found =>
      intro l member
      cases List.mem_singleton.mp member
      exact mayTell_putNode (Roster.mem_insert.mpr (.inl rfl)) _ rfl
  | nodeLoaded session node known closed loaded =>
      intro l member
      cases List.mem_singleton.mp member
      exact mayTell_putNode (Roster.mem_insert.mpr (.inl rfl)) _ rfl
  | nodeLocked node n s holder found free member known login host =>
      rw [lettersIn_letters]
      intro l listed
      obtain ⟨s, subscribed, rfl⟩ := List.mem_map.mp listed
      refine mayTell_putNode ?_ _ rfl
      exact subscribed
  | nodeUpdated session node n fields found held =>
      rw [lettersIn_deed, lettersIn_letters]
      refine mayTell_others fun s subscribed => mayTell_putNode ?_ _ rfl
      exact subscribed
  | nodeUnlocked session node n found held =>
      rw [lettersIn_letters]
      intro l listed
      obtain ⟨s, subscribed, rfl⟩ := List.mem_map.mp listed
      refine mayTell_putNode ?_ _ rfl
      exact subscribed
  | _ =>
      intro l member
      cases member

/-- A change adds to the frames sent some of its letters, in the same order. -/
theorem Change.sent_sublist (change : Change h marks h') :
    ∃ queued, h'.router.sent = h.router.sent ++ queued ∧
      queued.Sublist ((lettersIn marks).map Letter.toFrame) := by
  rcases change.router_cases with
    delivered | ⟨silent, id, f, keeps, amended⟩ | ⟨silent, cleared⟩ | ⟨id, ended, out⟩
  · rw [delivered]
    exact h.router.sent_deliver_sublist _
  · rw [amended]
    exact ⟨[], (List.append_nil _).symm, List.nil_sublist _⟩
  · rw [cleared]
    exact ⟨[], (List.append_nil _).symm, List.nil_sublist _⟩
  · rw [out]
    exact ⟨[], (List.append_nil _).symm, List.nil_sublist _⟩

/-- A succession of changes with the letters that they post, in order, each beside the hub as it is
when the letter is posted. -/
inductive Passage : Hub σ → List (Hub σ × Letter) → Hub σ → Prop
  | still (h : Hub σ) : Passage h [] h
  | step {h h₁ h₂ : Hub σ} {marks : List Mark} {rest : List (Hub σ × Letter)}
      (change : Change h marks h₁) (passage : Passage h₁ rest h₂) :
      Passage h ((lettersIn marks).map (fun l => (h₁, l)) ++ rest) h₂

/-- Every trail can be followed posting by posting. -/
theorem Trail.passage (trail : Trail h marks h') :
    ∃ postings, Passage h postings h' ∧ postings.map Prod.snd = lettersIn marks := by
  induction trail with
  | still h => exact ⟨[], .still h, rfl⟩
  | @step h h₁ h₂ first rest change _ ih =>
      obtain ⟨postings, passage, letters⟩ := ih
      refine ⟨_, .step change passage, ?_⟩
      rw [List.map_append, letters, List.map_map, lettersIn, lettersIn, lettersIn,
        List.filterMap_append]
      exact congrArg (· ++ _) (List.map_id _)

namespace Passage

variable {postings : List (Hub σ × Letter)}

/-- Whatever is posted on the way goes to sessions that may be told at that moment. -/
theorem mayTell (passage : Passage h postings h') (ok : h.Orderly) :
    ∀ p ∈ postings, p.1.MayTell p.2.1 p.2.2 := by
  induction passage with
  | still => exact fun _ member => nomatch member
  | step change _ ih =>
      intro p member
      rcases List.mem_append.mp member with first | later
      · obtain ⟨l, posted, rfl⟩ := List.mem_map.mp first
        exact change.mayTell ok l posted
      · exact ih (change.orderly ok) p later

/-- What is added to the frames sent are frames of the postings, in the same order. -/
theorem sent_sublist (passage : Passage h postings h') :
    ∃ queued, h'.router.sent = h.router.sent ++ queued ∧
      queued.Sublist (postings.map fun p => p.2.toFrame) := by
  induction passage with
  | still => exact ⟨[], (List.append_nil _).symm, .slnil⟩
  | step change _ ih =>
      obtain ⟨first, sentFirst, sublistFirst⟩ := change.sent_sublist
      obtain ⟨later, sentLater, sublistLater⟩ := ih
      refine ⟨first ++ later, ?_, ?_⟩
      · rw [sentLater, sentFirst, List.append_assoc]
      · rw [List.map_append, List.map_map]
        exact sublistFirst.append sublistLater

end Passage

end Hub

end TopoSync
