import WormBattle.Proofs.Scalar.Distance
import WormBattle.Proofs.World.Room
import WormBattle.Proofs.World.Samples

/-!
# Landings

A worm that has jumped has no action points left, and either it is gone, since the first sample at
which its jump stopped was outside the world, or it stands at one of the samples (`World.Jumped`).
It has never stepped back as far as to its start: a worm of positive radius is nearer than that to
its own spot. What was decided beforehand (`World.canJump`) and what is told of the duration
(`World.jumpTime`) agree with that (`Simulation.Reachable.jumped`).
-/

namespace WormBattle

variable {α : Type} [Scalar α]

/-- However often a worm without action points has grown, it stands where it stood and has none. -/
theorem Worm.spent_iterate_grown {worm : Worm α} (hspent : worm.actionPoints = 0) (n : ℕ) :
    (Worm.grown^[n] worm).position = worm.position ∧ (Worm.grown^[n] worm).actionPoints = 0 := by
  induction n generalizing worm with
  | zero => exact ⟨rfl, hspent⟩
  | succ n ih =>
    have hgrown : worm.grown.actionPoints = 0 := by
      rw [grown, hspent]
      exact Nat.zero_min _
    exact ih hgrown

namespace World

variable {w w' : World α} {worm : Worm α} {id : EntityId} {timeStep : α} {landing : Landing α}

/-- A jump has come out after some time: the worm has left the world or has landed on the ground,
without action points. -/
inductive Jumped (w : World α) (worm : Worm α) (timeStep : α) (w' : World α) : α → Prop where
  /-- The first sample at which the jump stopped was outside the world, and the worm is gone. -/
  | left {k : ℕ} : IsLeast {k | 1 ≤ k ∧ w.StopsJump worm timeStep k} k →
      w.grid.isInside (worm.jumpSample timeStep k) worm.radius = false →
      w'.worm? worm.id = none →
      Jumped w worm timeStep w' ((k : α) * timeStep)
  /-- The jump has stopped at no sample before the one at which the worm stands. It is inside the
  world, at least a radius away from the start and not in terrain. -/
  | landed {k : ℕ} {after : Worm α} {time : α} :
      1 ≤ k → (∀ j, 1 ≤ j → j < k → ¬w.StopsJump worm timeStep j) →
      w.grid.isInside (worm.jumpSample timeStep k) worm.radius = true →
      worm.radius ≤ (worm.jumpSample timeStep k).distance worm.position →
      w.grid.HasRoom (worm.jumpSample timeStep k) worm.radius →
      (time = (k : α) * timeStep ∨ time = ((k + 1 : ℕ) : α) * timeStep - timeStep) →
      w'.worm? worm.id = some after → after.position = worm.jumpSample timeStep k →
      after.actionPoints = 0 →
      Jumped w worm timeStep w' time

private theorem jumpTime_eq_ok (hworm : w.worm? id = some worm)
    (hlanding : w.jumpLanding worm timeStep = .ok (some landing)) :
    w.jumpTime id timeStep = .ok landing.time := by
  simp only [jumpTime, requireWorm, hworm, hlanding, ok_bind]
  rfl

/-- A worm that has landed stands where it has landed, whatever it has eaten there. -/
theorem worm?_fed_landed (hworm : w.worm? id = some worm) (spot : Position α)
    (rations : List EntityId) :
    ∃ after, (w.fed (worm.drain.placed spot) rations).worm? id = some after ∧
      after.position = spot ∧ after.actionPoints = 0 := by
  let landed := worm.drain.placed spot
  let after := Worm.grown^[rations.length] landed
  have hworms : worm.id = id := id_of_worm? hworm
  have hid : after.id = id := (landed.same_iterate_grown _).1.trans hworms
  have hlisted : { w with food := w.food.filter fun f => f.id ∉ rations }.worm? after.id =
      some worm := hid ▸ hworm
  have hafter : (w.fed landed rations).worm? id = some after :=
    hid ▸ worm?_setWorm_self hlisted
  exact ⟨after, hafter, landed.spent_iterate_grown rfl _⟩

/-- A jump comes out as the first sample at which it stops decides, if the worm is gone after an
exit and stands there without action points after a landing. -/
theorem jumped_of_jumpEnds [Scalar.Separates α] {k : ℕ} (hradius : 0.0 < worm.radius)
    (hstart : worm.position.isFinite = true)
    (hleast : IsLeast {k | 1 ≤ k ∧ w.StopsJump worm timeStep k} k)
    (hends : w.JumpEnds worm timeStep k (some landing))
    (hexit : ∀ spot time, landing = .exit spot time → w'.worm? worm.id = none)
    (hground : ∀ spot time, landing = .ground spot time → ∃ after,
      w'.worm? worm.id = some after ∧ after.position = spot ∧ after.actionPoints = 0) :
    w.Jumped worm timeStep w' landing.time := by
  have hpass : ∀ j, 1 ≤ j → j < k → ¬w.StopsJump worm timeStep j :=
    fun j hj hjk hstops => absurd (hleast.2 ⟨hj, hstops⟩) (Nat.not_le_of_lt hjk)
  cases hends with
  | leaves houtside => exact .left hleast houtside (hexit _ _ rfl)
  | lands hinside hcontact hfar =>
    obtain ⟨after, hafter, hspot, hspent⟩ := hground _ _ rfl
    exact .landed hleast.1.1 hpass hinside hfar ⟨_, hcontact, nofun⟩ (.inl rfl) hafter hspot hspent
  | stays hblocked hfar hback =>
    obtain ⟨after, hafter, hspot, hspent⟩ := hground _ _ rfl
    obtain ⟨j, rfl⟩ : ∃ j, k = j + 1 := Nat.exists_eq_add_of_le' hleast.1.1
    cases j with
    | zero =>
      -- The spot before the first sample is the start, which is not as far away.
      exact absurd hfar (Scalar.Separates.not_le_distance_self hstart hradius)
    | succ j =>
      have hinside : w.grid.isInside (worm.jumpSample timeStep (j + 1)) worm.radius = true := by
        by_contra houtside
        exact hpass (j + 1) (by omega) (by omega) (.inl (by simpa using houtside))
      exact .landed (Nat.succ_pos j) (fun i hi hij => hpass i hi (by omega)) hinside hfar hback
        (.inr rfl) hafter hspot hspent

end World

namespace Simulation

open Command World

variable {s : Simulation α} {worm : Worm α} {id : EntityId}

/-- A jump that was found impossible is refused, and nothing is done. -/
theorem jump_refused (hs : s.world.Sound) (hcannot : s.world.canJump id = false) :
    ∃ e, (jump id).carryOut s = (.error e, s) := by
  have hnone : s.world.jumpTarget? id s.world.config.timeStep = none := by
    simpa [canJump] using hcannot
  have hrefused : (jump id).Ends s (fun _ _ => False) fun _ s' => s' = s := by
    rw [jump, ends_bind, ends_world]
    refine (ends_jumpWith hs id _).mono ?_ ?_
    · rintro _ s' ⟨_, _, _, htarget, -⟩
      cases hnone.symm.trans htarget
    · rintro _ s' (⟨-, hsame⟩ | ⟨⟨_, _, _, htarget, -⟩, -⟩)
      · exact hsame
      · cases hnone.symm.trans htarget
  rcases hjump : (jump id).carryOut s with ⟨e | ⟨⟩, s'⟩
  · exact ⟨e, by rw [hrefused.of_error hjump]⟩
  · exact (hrefused.of_ok hjump).elim

/-- **A jump lands where its samples say.** It takes a worm that has action points and does not lie
in terrain, and it takes as long as is told of it beforehand. A jump that was found impossible is
refused, and then nothing is done. -/
theorem Reachable.jumped [Scalar.Separates α] (hs : s.Reachable)
    (hworm : s.world.worm? id = some worm) (hradius : 0.0 < worm.radius) (timeStep : α) :
    (∀ s', (jumpWith id timeStep).carryOut s = (.ok (), s') →
      worm.actionPoints ≠ 0 ∧ s.world.grid.HasRoom worm.position worm.radius ∧
        ∃ time, s.world.jumpTime id timeStep = .ok time ∧
          s.world.Jumped worm timeStep s'.world time) ∧
    (s.world.canJump id = false → ∃ e, (jump id).carryOut s = (.error e, s)) := by
  refine ⟨fun s' hdone => ?_, jump_refused hs.sound⟩
  obtain ⟨worm', landing, hworm', htarget, -, hexit, hground⟩ :=
    (ends_jumpWith hs.sound id timeStep).of_ok hdone
  cases hworm.symm.trans hworm'
  obtain ⟨-, worm', hworm', hpoints, hroom, hlanding⟩ := jumpTarget?_eq_some htarget
  cases hworm.symm.trans hworm'
  obtain rfl := id_of_worm? hworm
  obtain ⟨k, hleast, hends⟩ := exists_jumpEnds_of_jumpLanding hlanding
  refine ⟨hpoints, hroom, landing.time, jumpTime_eq_ok hworm hlanding,
    jumped_of_jumpEnds hradius hroom.isFinite hleast hends hexit fun spot time hlands => ?_⟩
  obtain ⟨-, rfl⟩ := hground spot time hlands
  exact worm?_fed_landed hworm _ _

/-- A worm on flat ground that can jump. -/
def meadow : Simulation Rat :=
  let ground : TerrainGrid Rat :=
    { TerrainGrid.empty 10 10 with
      rows := 2
      cols := 2
      cells := #[true, true, false, false]
      size_cells := rfl }
  let start : Simulation Rat := { world := .fresh ⟨1⟩ ground default, ids := ⟨2⟩ }
  start.after [.addWorm (.fresh "Ann" ⟨1, 5.5⟩ 1 0.5 default ⟨1⟩)]

private theorem reachable_meadow : meadow.Reachable := by
  refine (Reachable.onGrid ⟨2⟩ (World.onGrid_eq_ok_iff.mpr ⟨?_, rfl⟩)).after
    ⟨⟨.make (Worm.make_eq_ok_iff.mpr ⟨?_, ?_, ?_, rfl⟩), ?_⟩, trivial⟩
  all_goals decide +kernel

/-- The worm flies into the ground and stays at the spot before. -/
theorem jumped_meadow : ∃ worm s' time, meadow.world.worm? ⟨1⟩ = some worm ∧ 0.0 < worm.radius ∧
    (jumpWith ⟨1⟩ 0.1).carryOut meadow = (.ok (), s') ∧
    meadow.world.jumpTime ⟨1⟩ 0.1 = .ok time ∧ meadow.world.Jumped worm 0.1 s'.world time ∧
    (s'.world.worm? ⟨1⟩).isSome = true := by
  obtain ⟨worm, hworm, hradius⟩ :
      ∃ worm, meadow.world.worm? ⟨1⟩ = some worm ∧ decide (0.0 < worm.radius) = true :=
    (Option.any_eq_true _ _).mp (by decide +kernel)
  have hradius : 0.0 < worm.radius := of_decide_eq_true hradius
  have hdone : ((jumpWith ⟨1⟩ 0.1).carryOut meadow).1.isOk = true := by decide +kernel
  obtain ⟨⟨⟩, hjumped⟩ := exists_of_isOk hdone
  obtain ⟨-, -, time, htime, hlanded⟩ :=
    (reachable_meadow.jumped hworm hradius 0.1).1 _ hjumped
  exact ⟨worm, _, time, hworm, hradius, hjumped, htime, hlanded, by decide +kernel⟩

end Simulation

end WormBattle
