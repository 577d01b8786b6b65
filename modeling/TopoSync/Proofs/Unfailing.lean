import TopoSync.Checked.Engine
import TopoSync.Proofs.Acts

/-!
# No step fails

A run can be followed step by step, with every read at an index, every slice and every subtraction
written out as a step that is defined within bounds only.  No run gets stuck: whatever bytes arrive,
in whatever pieces, and however queues break, each event is dealt with and leaves the engine that it
leaves when nothing is checked.
-/

namespace TopoSync

namespace Engine

variable {σ : Type} [Store σ]

/-- The engine after a move, step by step. -/
def move? (e : Engine σ) : Move → Option (Engine σ)
  | .event event => e.step? event
  | .retire id after => some (e.retireReader id after)

/-- The engine after a run, step by step. -/
def after? (e : Engine σ) (moves : List Move) : Option (Engine σ) :=
  moves.foldlM move? e

theorem move?_eq (e : Engine σ) (m : Move) : e.move? m = some (e.move m) := by
  cases m with
  | event event => exact e.step?_eq event
  | retire id after => rfl

theorem after?_eq (e : Engine σ) (moves : List Move) : e.after? moves = some (e.after moves) :=
  Checked.foldlM_eq_some (fun e m _ => e.move?_eq m) e

end Engine

/-- No step of any run fails.  Every run from the start comes to its end, for any limit on the length
of frames and over any store, and whatever event comes next, with any bytes whatsoever, it is dealt
with and leaves an engine; so is every row of events up to the shutdown. -/
theorem no_step_fails {σ : Type} [Store σ] (store : σ) (maxFrameSize : Nat) (moves : List Move) :
    let e := (Engine.start store maxFrameSize).after moves
    (Engine.start store maxFrameSize).after? moves = some e ∧
    (∀ event, e.step? event = some (e.step event)) ∧
    ∀ events, e.run? events = some (e.run events) := by
  intro e
  refine ⟨?_, ?_, ?_⟩
  · exact (Engine.start store maxFrameSize).after?_eq moves
  · exact e.step?_eq
  · exact e.run?_eq

end TopoSync
