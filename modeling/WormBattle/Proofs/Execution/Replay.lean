import WormBattle.Proofs.Execution.Made

/-!
# The actions of a run

A run touches its world only by the actions that it asks for. So the world that it leaves is the one
to which these actions lead when they are performed one after the other
(`ProgramInstance.Made.stateAfter_eq`), done or refused, and whatever the program has read in
between.
-/

namespace WormBattle

variable {α σ : Type}

/-- The action that the world is asked for. -/
def Effect.asked? : Effect α → Option (Action α)
  | asked _ action => some action
  | assigned .. | printed _ | done .. => none

/-- The actions that a run has asked its world for, in order. -/
def Run.asked (run : Run α σ) : List (Action α) :=
  run.effects.filterMap Effect.asked?

/-- The world after a worm has been let do some actions. -/
def Environment.replay [Environment α σ] (worm : EntityId) (state : σ)
    (actions : List (Action α)) : σ :=
  actions.foldl (fun state action => (Environment.perform state worm action).2) state

namespace Machine

/-- The actions that the machine has asked for, in order. -/
def requests (m : Machine α σ) : List (Action α) :=
  m.trace.reverse.filterMap Effect.asked?

variable [Environment α σ] {m m' : Machine α σ} {worm : EntityId} {state : σ}

/-- The machine's world is what the actions of its worm have made of a first one. -/
structure Replays (worm : EntityId) (state : σ) (m : Machine α σ) : Prop where
  worm_eq : m.worm = worm
  state_eq : m.state = Environment.replay worm state m.requests

private theorem Replays.of_same (h : Replays worm state m) (hworm : m'.worm = m.worm)
    (hstate : m'.state = m.state) (hrequests : m'.requests = m.requests) :
    Replays worm state m' :=
  ⟨hworm.trans h.worm_eq, by rw [hstate, hrequests, h.state_eq]⟩

/-- One more action has been asked for. -/
theorem Replays.of_asked (h : Replays worm state m) {action : Action α}
    (hworm : m'.worm = m.worm)
    (hstate : m'.state = (Environment.perform m.state m.worm action).2)
    (hrequests : m'.requests = m.requests ++ [action]) : Replays worm state m' := by
  refine ⟨hworm.trans h.worm_eq, ?_⟩
  rw [hstate, hrequests, Environment.replay, List.foldl_append, h.state_eq, h.worm_eq]
  rfl

private theorem Replays.onward (h : Replays worm state m) (honward : m.Onward m') :
    Replays worm state m' := by
  cases honward with
  | spent _ => exact h.of_same rfl rfl rfl
  | assigned name value _ =>
    exact h.of_same rfl rfl (by simp [requests, setGlobal, note, Effect.asked?])
  | printed value _ => exact h.of_same rfl rfl (by simp [requests, Effect.asked?])
  | refused _ hact =>
    exact h.of_asked rfl (congrArg Prod.snd hact).symm (by simp [requests, Effect.asked?])
  | done _ hact _ =>
    exact h.of_asked rfl (congrArg Prod.snd hact).symm (by simp [requests, Effect.asked?])

private theorem Replays.halted {stop : Stop α} (h : Replays worm state m)
    (hhalted : m.Halted stop m') : Replays worm state m' := by
  cases hhalted with
  | idle _ _ _ => exact h.of_same rfl rfl rfl
  | died _ hact _ =>
    exact h.of_asked rfl (congrArg Prod.snd hact).symm (by simp [requests, Effect.asked?])

end Machine

namespace ProgramInstance

variable [Scalar α] [Environment α σ] {i : ProgramInstance α} {worm : EntityId}

/-- **A run does to its world what its actions do.** -/
theorem Made.stateAfter_eq (h : i.Made) (hworm : i.worm = some worm) (budget : Nat) (state : σ) :
    (i.runWith budget state).stateAfter =
      Environment.replay worm state (i.runWith budget state).asked := by
  rw [Run.asked]
  rcases h.run_cases budget state with
    ⟨e, -, hrun⟩ | ⟨worm', stop, work, m, hready, hhalts, -, -, hstate, heffects⟩
  · rw [hrun]
    rfl
  · obtain ⟨-, -, hbound, -⟩ := readyWorm_eq_ok_iff.mp hready
    cases hworm.symm.trans hbound
    have hreplays : Machine.Replays worm state m :=
      hhalts.keeps_machine (P := Machine.Replays worm state)
        (Q := fun _ => Machine.Replays worm state) (fun _ _ => Machine.Replays.onward)
        (fun _ _ _ => Machine.Replays.halted) ⟨rfl, rfl⟩
    rw [hstate, heffects]
    exact hreplays.state_eq

end ProgramInstance

end WormBattle
