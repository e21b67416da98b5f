import WormBattle.Proofs.World.Fan
import WormBattle.Proofs.World.Samples

/-!
# Where actions lead

Before a worm is set down somewhere, the terrain is asked how its disc lies there, and it is set
down only where there is room for it (`TerrainGrid.HasRoom`). This is so for a move
(`World.hasRoom_of_planMove`), for a fall (`World.hasRoom_of_landing`) and for a jump that ends on
the ground (`World.hasRoom_of_jumpTarget?`). A jump may also end where it leaves the world, and
nothing is asked about that spot. The terrain refuses to say how a disc lies at a spot that is not
finite, so a worm can be put wherever there is room for it.

A fall leads through the open air and ends in one of two ways (`World.Lands`): at the first spot in
contact with terrain, or at the last one in the open air if the next one already lies in terrain.

What a jump needs to have an end (`World.jumpTarget?_eq_some`) and what a flight strikes
(`World.exists_worm_of_flight`) is said here too.
-/

namespace WormBattle

variable {α : Type} [Scalar α]

/-- The spots of a worm's fall: the one where it hangs, and then the samples. -/
def Worm.fallSpot (worm : Worm α) : ℕ → Position α :=
  trail worm.position worm.fallSample

namespace World

variable {w : World α} {worm : Worm α} {id : EntityId} {spot : Position α}

/-! ### Moves -/

/-- The best move leads into the open air or to where the worm touches terrain. -/
theorem hasRoom_of_plannedMoveOf (h : w.plannedMoveOf worm = .ok (some spot)) :
    w.grid.HasRoom spot worm.radius := by
  cases bestMove_of_plannedMoveOf h with
  | toContact hplace => exact ⟨.contact, hplace.1.2.2, nofun⟩
  | ahead _ hk => exact ⟨.passable, hk.1.2, nofun⟩

/-- **A move leads to where there is room** for the worm. -/
theorem hasRoom_of_planMove {cost : Nat} (hworm : w.worm? id = some worm)
    (h : w.planMove id = .ok (spot, cost)) : w.grid.HasRoom spot worm.radius := by
  rw [planMove, bind_eq_ok_iff] at h
  obtain ⟨target?, htarget, h⟩ := h
  cases target? with
  | none => cases h
  | some target =>
    rw [bind_eq_ok_iff] at h
    obtain ⟨_, -, h⟩ := h
    cases h
    rw [plannedMove, requireWorm, hworm] at htarget
    exact hasRoom_of_plannedMoveOf htarget

/-! ### Falls -/

section Falls

variable (w worm)

/-- The worm's disc is in the open air inside the world at a spot of its fall. -/
def Hangs (k : ℕ) : Prop :=
  w.grid.isInside (worm.fallSpot k) worm.radius = true ∧
    w.grid.classify (worm.fallSpot k) worm.radius = .ok .passable

/-- How a fall ends that does not leave the world: at which of its spots, and how the worm's disc
lies to the terrain there. -/
inductive Lands (k : ℕ) : Location → Prop where
  /-- The spot is the first one in contact with terrain. -/
  | touching : (∀ j < k, w.Hangs worm j) → w.grid.isInside (worm.fallSpot k) worm.radius = true →
      w.grid.classify (worm.fallSpot k) worm.radius = .ok .contact → Lands k .contact
  /-- The spot is the last one in the open air, and the next one lies in terrain. -/
  | hanging : (∀ j ≤ k, w.Hangs worm j) →
      w.grid.isInside (worm.fallSpot (k + 1)) worm.radius = true →
      w.grid.classify (worm.fallSpot (k + 1)) worm.radius = .ok .impassable → Lands k .passable

variable {w worm} {k : ℕ} {location : Location} {landed : Position α}

namespace Lands

/-- Above the spot where it lands a worm hangs in the air. -/
theorem above (h : w.Lands worm k location) : ∀ j < k, w.Hangs worm j := by
  cases h with
  | touching habove => exact habove
  | hanging hopen => exact fun j hj => hopen j hj.le

/-- A worm lands inside the world. -/
theorem isInside (h : w.Lands worm k location) :
    w.grid.isInside (worm.fallSpot k) worm.radius = true := by
  cases h with
  | touching _ hinside => exact hinside
  | hanging hopen => exact (hopen k le_rfl).1

/-- How a worm lies where it lands. -/
theorem classify (h : w.Lands worm k location) :
    w.grid.classify (worm.fallSpot k) worm.radius = .ok location := by
  cases h with
  | touching _ _ hcontact => exact hcontact
  | hanging hopen => exact (hopen k le_rfl).2

end Lands

/-- **A fall from the open air lands in one of the two ways.** Up to the spot that it has reached it
has been in the open air. -/
theorem lands_of_fallFrom {left i : ℕ} (hopen : ∀ j ≤ i, w.Hangs worm j)
    (h : w.fallFrom worm.id worm.position worm.radius
      (worm.radius * worm.config.searchStepFraction) left (i + 1) (worm.fallSpot i) =
        .ok (some landed)) :
    ∃ k location, w.Lands worm k location ∧ landed = worm.fallSpot k := by
  induction left generalizing i with
  | zero => cases h
  | succ left ih =>
    have hspot : (⟨worm.position.x, worm.position.y -
        ((i + 1 : ℕ) : α) * (worm.radius * worm.config.searchStepFraction)⟩ : Position α) =
        worm.fallSpot (i + 1) := rfl
    simp only [fallFrom, hspot] at h
    split at h
    · cases h
    · rename_i hinside
      have hinside : w.grid.isInside (worm.fallSpot (i + 1)) worm.radius = true := by
        simpa using hinside
      rw [bind_eq_ok_iff] at h
      obtain ⟨location, hlocation, h⟩ := h
      cases location with
      | passable =>
        refine ih (fun j hj => ?_) h
        rcases Nat.le_succ_iff.mp hj with hj | rfl
        · exact hopen j hj
        · exact ⟨hinside, hlocation⟩
      | contact =>
        cases h
        exact ⟨i + 1, .contact,
          .touching (fun j hj => hopen j (Nat.le_of_lt_succ hj)) hinside hlocation, rfl⟩
      | impassable =>
        cases h
        exact ⟨i, .passable, .hanging hopen hinside hlocation, rfl⟩

/-- A worm that can fall hangs at the first spot of its fall. -/
theorem hangs_zero (hworm : w.worm? id = some worm) (hfall : w.canFall id = true) :
    w.Hangs worm 0 := by
  simp only [canFall, hworm, Bool.and_eq_true] at hfall
  obtain ⟨hinside, hopen⟩ := hfall
  refine ⟨hinside, ?_⟩
  split at hopen
  · assumption
  · cases hopen

/-- A fall that has an end ends where the worm lands. -/
theorem lands_of_landing (hworm : w.worm? id = some worm) (hfall : w.canFall id = true)
    (h : w.landing worm = .ok (some landed)) :
    ∃ k location, w.Lands worm k location ∧ landed = worm.fallSpot k := by
  rw [landing, bind_eq_ok_iff] at h
  obtain ⟨samples, -, h⟩ := h
  refine lands_of_fallFrom (i := 0) (fun j hj => ?_) h
  obtain rfl : j = 0 := Nat.le_zero.mp hj
  exact hangs_zero hworm hfall

/-- **A fall leads to where there is room** for the worm. -/
theorem hasRoom_of_landing (hworm : w.worm? id = some worm) (hfall : w.canFall id = true)
    (h : w.landing worm = .ok (some spot)) : w.grid.HasRoom spot worm.radius := by
  obtain ⟨k, location, hlands, rfl⟩ := lands_of_landing hworm hfall h
  refine ⟨location, hlands.classify, ?_⟩
  cases hlands <;> nofun

end Falls

/-! ### Jumps -/

/-- A worm jumps only if it has action points, is not inside terrain and is followed at a legal
step. -/
theorem jumpTarget?_eq_some {timeStep : α} {landing : Landing α}
    (h : w.jumpTarget? id timeStep = some landing) :
    checkTimeStep timeStep = .ok () ∧ ∃ worm, w.worm? id = some worm ∧ worm.actionPoints ≠ 0 ∧
      w.grid.HasRoom worm.position worm.radius ∧
      w.jumpLanding worm timeStep = .ok (some landing) := by
  rw [jumpTarget?] at h
  split at h
  · cases h
  · rename_i worm hworm
    split at h
    · cases h
    · rename_i hpoints
      split at h
      · cases h
      · cases h
      · rename_i location hinside hlocation
        split at h
        · rename_i landing? hlanding
          have hend : w.jumpLanding worm timeStep = .ok (some landing) := h ▸ hlanding
          rw [jumpLanding, bind_eq_ok_iff] at hlanding
          obtain ⟨⟨⟩, hstep, -⟩ := hlanding
          refine ⟨hstep, worm, hworm, hpoints, ⟨location, hlocation, ?_⟩, hend⟩
          exact hinside
        · cases h

/-- **A jump that ends on the ground leads to where there is room** for the worm. -/
theorem hasRoom_of_jumpTarget? {timeStep time : α} (hworm : w.worm? id = some worm)
    (h : w.jumpTarget? id timeStep = some (.ground spot time)) :
    w.grid.HasRoom spot worm.radius := by
  obtain ⟨-, worm', hworm', -, -, hlanding⟩ := jumpTarget?_eq_some h
  cases hworm.symm.trans hworm'
  obtain ⟨k, -, hends⟩ := exists_jumpEnds_of_jumpLanding hlanding
  cases hends with
  | lands _ hcontact _ => exact ⟨.contact, hcontact, nofun⟩
  | stays _ _ hback => exact hback

/-! ### Flights -/

/-- A flight strikes only worms that are listed. -/
theorem exists_worm_of_flight {projectile : Projectile α} {timeStep : α} {impact : Position α}
    {time : α} {killed : Bool}
    (h : w.flight projectile timeStep = .ok (.worm id impact killed, time)) :
    ∃ worm, w.worm? id = some worm := by
  obtain ⟨k, -, hends⟩ := exists_shotEnds_of_flight h
  cases hends with
  | @strikes before after worm _ _ hworms _ _ =>
    rw [← Option.isSome_iff_exists, worm?, List.find?_isSome]
    exact ⟨worm, by simp [hworms], by simp⟩

end World

end WormBattle
