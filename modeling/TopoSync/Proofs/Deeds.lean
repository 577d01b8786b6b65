import TopoSync.Proofs.Lifecycle

/-!
# The deeds of a run

Of everything that happens in a run, only its deeds change what maps and nodes contain: the accepted
requests for edits and for new fields, in the order in which they are answered.  An act carries out at
most one deed, and whatever else it does only leaves letters and the ends of sessions behind.
-/

namespace TopoSync

/-- Whether an act comes from outside and not from the hub's own work. -/
def Act.isOuter : Act → Bool
  | connect .. | retire .. => true
  | buffer .. | answer .. | finish _ | clearMarks | flush => false

/-- The edit of a map that a deed is. -/
def Deed.editOf? (map : MapId) : Deed → Option Edit
  | .edited q edit => if q = map then some edit else none
  | .fieldsSet .. => none

theorem Deed.editOf?_eq_some_iff {map : MapId} {d : Deed} {e : Edit} :
    d.editOf? map = some e ↔ d = .edited map e := by
  cases d with
  | edited q edit =>
      by_cases here : q = map
      · simp [editOf?, here]
      · simp [editOf?, here]
  | fieldsSet node fields => simp [editOf?]

/-- The deed that a mark is of. -/
def Mark.deed? : Mark → Option Deed
  | deed _ d => some d
  | letter _ | ended _ => none

/-- The deeds among some marks. -/
def deedsIn (marks : List Mark) : List Deed :=
  marks.filterMap Mark.deed?

@[simp] theorem deedsIn_nil : deedsIn [] = [] := rfl

@[simp] theorem deedsIn_append (first rest : List Mark) :
    deedsIn (first ++ rest) = deedsIn first ++ deedsIn rest :=
  List.filterMap_append

@[simp] theorem deedsIn_deed (s : SessionId) (d : Deed) (rest : List Mark) :
    deedsIn (.deed s d :: rest) = d :: deedsIn rest := rfl

@[simp] theorem deedsIn_letters (letters : List Letter) : deedsIn (letters.map .letter) = [] := by
  induction letters with
  | nil => rfl
  | cons l rest ih => exact ih

@[simp] theorem deedsIn_ends (sessions : List SessionId) : deedsIn (sessions.map .ended) = [] := by
  induction sessions with
  | nil => rfl
  | cons s rest ih => exact ih

namespace Hub

variable {σ : Type}

/-- The deed that an act carries out, whoever asked for it. -/
def deedDone? (h : Hub σ) : Act → Option Deed
  | .answer id _ frame => (Request.ofFrame? frame).bind (h.deed? id)
  | .connect .. | .retire .. | .buffer .. | .finish _ | .clearMarks | .flush => none

theorem deedDone?_of_asked {id : SessionId} {now : UInt32} {frame : Bytes} {request : Request}
    {d : Deed} {h : Hub σ} (asked : Request.ofFrame? frame = some request)
    (done : h.deed? id request = some d) : h.deedDone? (.answer id now frame) = some d := by
  rw [deedDone?, asked]
  exact done

/-- The marks that an act leaves of its deed. -/
def deedMarksOf (h : Hub σ) : Act → List Mark
  | .answer id _ frame => h.answerMarks id frame
  | .connect .. | .retire .. | .buffer .. | .finish _ | .clearMarks | .flush => []

theorem deedsIn_deedMarksOf (h : Hub σ) (a : Act) :
    deedsIn (h.deedMarksOf a) = (h.deedDone? a).toList := by
  cases a with
  | answer id now frame =>
      rw [deedMarksOf, deedDone?, answerMarks]
      cases Request.ofFrame? frame with
      | none => rfl
      | some request =>
          dsimp only [deedMarks, Option.bind_some]
          cases h.deed? id request <;> rfl
  | _ => rfl

variable [Store σ]

/-- The deeds of some acts, in order. -/
def deeds (h : Hub σ) : List Act → List Deed
  | [] => []
  | a :: rest => (h.deedDone? a).toList ++ (h.perform a).deeds rest

/-- An act of the hub itself is a succession of changes: its deed first, then letters, then the end
of sessions. -/
theorem trail_act {h : Hub σ} {a : Act} (enabled : a.Enabled h) (inner : a.isOuter = false) :
    ∃ (letters : List Letter) (ends : List SessionId),
      Trail h (h.deedMarksOf a ++ letters.map .letter ++ ends.map .ended) (h.perform a) := by
  cases a with
  | connect id host reader => cases inner
  | retire id after => cases inner
  | buffer id rest => exact ⟨[], [], .single (.amended h id _ fun _ => rfl)⟩
  | answer id now frame =>
      obtain ⟨letters, trail⟩ := trail_answerFrame enabled now frame
      refine ⟨letters, [], ?_⟩
      rw [List.map_nil, List.append_nil]
      exact trail
  | finish id =>
      obtain ⟨letters, ending⟩ := h.trail_endSession id
      have cleared := Trail.single (Change.marksCleared (h.endSession id))
      refine ⟨letters, [id], ?_⟩
      have both := ending.trans cleared
      rwa [List.append_nil] at both
  | clearMarks => exact ⟨[], [], .single (.marksCleared h)⟩
  | flush => exact ⟨[], [], h.trail_flush⟩

/-- What comes from outside changes neither maps nor nodes nor the store. -/
theorem shared_of_outer (h : Hub σ) {a : Act} (outer : a.isOuter = true) :
    (h.perform a).maps = h.maps ∧ (h.perform a).nodes = h.nodes ∧
      (h.perform a).store = h.store ∧ h.deedDone? a = none := by
  cases a with
  | connect id host reader => exact ⟨rfl, rfl, rfl, rfl⟩
  | retire id after => exact ⟨rfl, rfl, rfl, rfl⟩
  | _ => cases outer

end Hub

/-- The deeds of a run, in order. -/
def Engine.deeds {σ : Type} [Store σ] (e : Engine σ) (moves : List Move) : List Deed :=
  e.hub.deeds (e.acts moves)

end TopoSync
