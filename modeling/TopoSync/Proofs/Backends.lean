import TopoSync.Proofs.Hub.Matching
import TopoSync.Proofs.Placeholding

/-!
# Interchangeable stores

One engine works over a store in memory and another one over a database that keeps the same.  The same
moves then lead to the same acts, act by act with the same answers, and between any two acts the two
hubs match.
-/

namespace TopoSync

namespace Router

/-- The queues that two matching routers have for a session differ only in the contents of maps, and
these are alike. -/
theorem Matches.queueOf {r r' : Router} (same : r.Matches r') (id : SessionId) :
    List.Forall₂ Frame.Alike (r.queueOf id) (r'.queueOf id) := by
  refine List.rel_map (fun e e' sent => sent.2) (List.rel_filter (fun e e' sent => ?_) same.sent)
  show decide (e.1 = id) = true ↔ decide (e'.1 = id) = true
  rw [sent.1]

end Router

namespace Engine

variable {e : Engine MemoryStore} {e' : Engine Database}

/-- Engines whose hubs match deal with a move in the same acts. -/
theorem actsOf_of_matches (same : e.hub.Matches e'.hub) (sizes : e'.maxFrameSize = e.maxFrameSize)
    (m : Move) : e'.actsOf m = e.actsOf m := by
  cases m with
  | retire id after => rfl
  | event event =>
      cases event with
      | connected id host reader => rfl
      | disconnected id => exact same.finishes [id]
      | shutdown => rfl
      | data id bytes clock =>
          rw [actsOf, actsOf, receiveActs, receiveActs, same.router.session?, sizes]
          cases e.hub.router.session? id with
          | none => rfl
          | some s =>
              dsimp only
              let cut := Framing.split e.maxFrameSize (s.pushBytes bytes).inbound
              have answered := same.performAll (.buffer id cut.rest :: Act.answers id clock cut.frames)
              cases (Framing.split e.maxFrameSize (s.pushBytes bytes).inbound).stop with
              | wantsMore => exact congrArg (_ ++ ·) answered.reaping
              | badLength length =>
                  dsimp only
                  rw [answered.finishes [id]]
                  exact congrArg (_ ++ ·) (answered.performAll _).reaping

/-- So a run has the same acts in both. -/
theorem acts_of_matches (same : e.hub.Matches e'.hub) (sizes : e'.maxFrameSize = e.maxFrameSize)
    (moves : List Move) : e'.acts moves = e.acts moves := by
  induction moves generalizing e e' with
  | nil => rfl
  | cons m rest ih =>
      have first := actsOf_of_matches same sizes m
      have next : (e.move m).hub.Matches (e'.move m).hub := by
        rw [hub_move, hub_move, first]
        exact same.performAll _
      rw [acts, acts, first, ih next (by rw [maxFrameSize_move, maxFrameSize_move, sizes])]

end Engine

/-- Over a store in memory that takes saves and over a database that keeps the same maps and nodes, every
run consists of the same acts.  At every moment of it the two hubs match: the same maps and nodes are
open, with the same subscribers, locks and fields, sessions are the same with their logins and their
placeholders, and what each map contains, open or stored, is alike.  The next frame gets the same answer
from both.  Every session has got the same frames in the same order, except that the contents of a map,
when they were told, were alike. -/
theorem stores_interchangeable {store : MemoryStore} {database : Database}
    (taking : store.refusing = false) (same : database.Reflects store) (maxFrameSize : Nat)
    (moves : List Move) :
    let e := Engine.start store maxFrameSize
    let e' := Engine.start database maxFrameSize
    e'.acts moves = e.acts moves ∧
    (e.after moves).hub = e.hub.performAll (e.acts moves) ∧
    (e'.after moves).hub = e'.hub.performAll (e'.acts moves) ∧
    ∀ done rest, e.acts moves = done ++ rest →
      let h := e.hub.performAll done
      let h' := e'.hub.performAll done
      h.Matches h' ∧
      (∀ id, List.Forall₂ Frame.Alike (h.router.queueOf id) (h'.router.queueOf id)) ∧
      ∀ id now frame later, rest = .answer id now frame :: later →
        (h'.answerFrame id now frame).1 = (h.answerFrame id now frame).1 := by
  intro e e'
  have start : e.hub.Matches e'.hub :=
    ⟨Hub.Backed.start taking, same, rfl, fun _ => .none, rfl, ⟨rfl, rfl, rfl, rfl, .nil⟩⟩
  refine ⟨Engine.acts_of_matches start rfl moves, e.hub_after moves, e'.hub_after moves, ?_⟩
  intro done rest _ h h'
  have matched : h.Matches h' := start.performAll done
  exact ⟨matched, matched.router.queueOf, fun id now frame _ _ =>
    (matched.answerFrame id now frame).answer⟩

/-- A map whose two symbols are not in the order of their numbers, with a connection. -/
def crossedPlan : Diagram :=
  { symbols := [Symbol.placed 2 30 40, Symbol.placed 1 10 20], connections := [⟨1, 1, 2⟩] }

/-- A node whose two interfaces are not in the order of their numbers. -/
def crossedSwitch : NodeRecord :=
  ⟨{ name := "switch" }, [{ id := 2, ifIndex := 1 }, { id := 1, ifIndex := 2 }]⟩

/-- Both in memory. -/
def crossedStore : MemoryStore :=
  (MemoryStore.insertMap {} 7 "plan" crossedPlan).insertNode 5 crossedSwitch

/-- Both in tables. -/
def crossedTables : Database :=
  (Database.insertNode (Store.saveMap (Database.insertMap {} 7 "plan") 7 crossedPlan).2 5
    crossedSwitch).toOption.getD {}

theorem crossedTables_reflects : crossedTables.Reflects crossedStore := by
  have empty : Database.Reflects {} {} := ⟨fun _ => rfl, nofun, fun _ => rfl, nofun, nofun⟩
  have plan : crossedPlan.Matches crossedPlan := ⟨.refl _, by decide, by decide⟩
  have ascending : crossedSwitch.interfaces.Pairwise fun i j => i.ifIndex < j.ifIndex := by decide
  refine (empty.insertMap 7 "plan" plan).insertNode ascending ?_
  decide_cbv

/-- A session adds a symbol and leaves, so that the map and the node are saved and no longer open; then
another one opens both and moves a symbol. -/
def leftToAnother : List Move :=
  [.event (.connected ⟨1⟩ "a" .staying),
    sending ⟨1⟩ .openMap [7],
    sending ⟨1⟩ .openNode [5],
    sending ⟨1⟩ .addSymbol [7, -1, 50, 60],
    .event (.disconnected ⟨1⟩),
    .event (.connected ⟨2⟩ "b" .staying),
    sending ⟨2⟩ .openNode [5],
    sending ⟨2⟩ .openMap [7],
    sending ⟨2⟩ .translateSymbol [7, 1, 1, 1]]

theorem stores_interchangeable_leftToAnother :
    let e := Engine.start crossedStore 1000
    let e' := Engine.start crossedTables 1000
    e'.acts leftToAnother = e.acts leftToAnother ∧
      (e.after leftToAnother).hub.Matches (e'.after leftToAnother).hub ∧
      (e'.after leftToAnother).hub.router.queueOf ⟨2⟩ ≠
        (e.after leftToAnother).hub.router.queueOf ⟨2⟩ ∧
      List.Forall₂ Frame.Alike ((e.after leftToAnother).hub.router.queueOf ⟨2⟩)
        ((e'.after leftToAnother).hub.router.queueOf ⟨2⟩) := by
  intro e e'
  obtain ⟨acts, run, run', moments⟩ :=
    stores_interchangeable rfl crossedTables_reflects 1000 leftToAnother
  obtain ⟨matched, queues, _⟩ := moments (e.acts leftToAnother) [] (List.append_nil _).symm
  rw [← run] at matched queues
  rw [acts] at run'
  rw [← run'] at matched queues
  refine ⟨acts, matched, ?_, queues ⟨2⟩⟩
  decide_cbv

end TopoSync
