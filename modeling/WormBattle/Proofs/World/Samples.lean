import Mathlib.Order.Bounds.Basic
import WormBattle.Proofs.Entity.Worm
import WormBattle.World.Fire

/-!
# Searches by samples

Jumps, flights and falls are followed sample by sample, up to a number of samples that is fixed
beforehand. What such a search has in common is a `Sampling`: at which samples it stops, what it
decides there, and how it may be refused. It ends in one of three ways (`Sampling.Ends`): a sample
decides it, and then the search has stopped at no sample before; a sample cannot be judged; or the
samples run out, and then the search has stopped at none.

The three searches of a world are samplings (`World.jumpSampling`, `World.shotSampling`,
`World.fallSampling`). The searches themselves carry the sample before along, which is the one
before in the `trail` of start and samples. A jump that runs into terrain ends there if there is
room for the disc (`TerrainGrid.HasRoom`).
-/

namespace WormBattle

/-- A search by samples, which are numbered from one. -/
structure Sampling (ε β : Type) where
  /-- The search does not go on after a sample. -/
  Stops : ℕ → Prop
  /-- What is decided at a sample. -/
  Decides : ℕ → β → Prop
  /-- A sample cannot be judged. -/
  Fails : ℕ → ε → Prop
  /-- The reason for a refusal when the samples have run out. -/
  never : ε
  /-- A search that is decided stops. -/
  stops_of_decides : ∀ {k b}, Decides k b → Stops k

namespace Sampling

variable {ε β : Type} (search : Sampling ε β)

/-- The ways in which a search ends that goes on behind a sample with so many samples left. -/
inductive Ends (i left : ℕ) : Except ε β → Prop where
  /-- A sample decides. -/
  | decided {k : ℕ} {b : β} : i < k → k ≤ i + left → (∀ j, i < j → j < k → ¬search.Stops j) →
      search.Decides k b → Ends i left (.ok b)
  /-- A sample cannot be judged. -/
  | failed {k : ℕ} {e : ε} : i < k → k ≤ i + left → search.Fails k e → Ends i left (.error e)
  /-- The samples have run out. -/
  | spent : (∀ j, i < j → j ≤ i + left → ¬search.Stops j) → Ends i left (.error search.never)

variable {search} {i left n : ℕ} {b : β} {e : ε} {result : Except ε β}

private theorem Ends.out : search.Ends i 0 (.error search.never) :=
  .spent fun j hij hj => absurd hj (by omega)

private theorem Ends.now (h : search.Decides (i + 1) b) : search.Ends i (left + 1) (.ok b) :=
  .decided (Nat.lt_succ_self i) (by omega) (fun j hij hj => absurd hj (by omega)) h

private theorem Ends.fail (h : search.Fails (i + 1) e) : search.Ends i (left + 1) (.error e) :=
  .failed (Nat.lt_succ_self i) (by omega) h

/-- The search goes on at a sample at which it does not stop. -/
theorem Ends.later (hpass : ¬search.Stops (i + 1)) (h : search.Ends (i + 1) left result) :
    search.Ends i (left + 1) result := by
  have hnext : ∀ {last}, (∀ j, i + 1 < j → j < last → ¬search.Stops j) →
      ∀ j, i < j → j < last → ¬search.Stops j := by
    intro last h j hij hj
    rcases Nat.eq_or_lt_of_le (Nat.succ_le_of_lt hij) with rfl | hlt
    · exact hpass
    · exact h j hlt hj
  cases h with
  | decided hk hle hbefore hdecides =>
    exact .decided (by omega) (by omega) (hnext hbefore) hdecides
  | failed hk hle hfails => exact .failed (by omega) (by omega) hfails
  | spent hnone =>
    have hbefore : ∀ j, i + 1 < j → j < i + left + 2 → ¬search.Stops j :=
      fun j hij hj => hnone j hij (by omega)
    exact .spent fun j hij hj => hnext hbefore j hij (by omega)

/-- What is decided is decided at the first sample at which the search stops. -/
theorem Ends.first (h : search.Ends 0 n (.ok b)) :
    ∃ k ≤ n, IsLeast {k | 1 ≤ k ∧ search.Stops k} k ∧ search.Decides k b := by
  cases h with
  | @decided k _ hk hle hbefore hdecides =>
    refine ⟨k, by omega, ⟨⟨hk, search.stops_of_decides hdecides⟩, fun j hj => ?_⟩, hdecides⟩
    by_contra hlt
    exact hbefore j hj.1 (by omega) hj.2

/-- The search is decided within so many samples, at the first one at which it stops. -/
def Settles (search : Sampling ε β) (n : ℕ) (result : Except ε β) : Prop :=
  ∃ k ≤ n, IsLeast {k | 1 ≤ k ∧ search.Stops k} k ∧ ∃ b, search.Decides k b ∧ result = .ok b

/-- A search that stops at its last sample and can judge all samples settles. -/
theorem Ends.settles (h : search.Ends 0 n result) (hn : 1 ≤ n) (hlast : search.Stops n)
    (hfails : ∀ k e, ¬search.Fails k e) : search.Settles n result := by
  have hok : ∃ b, result = .ok b := by
    cases h with
    | decided _ _ _ _ => exact ⟨_, rfl⟩
    | failed _ _ h => exact absurd h (hfails _ _)
    | spent hnone => exact absurd hlast (hnone n hn (by omega))
  obtain ⟨b, rfl⟩ := hok
  obtain ⟨k, hk, hleast, hdecides⟩ := h.first
  exact ⟨k, hk, hleast, b, hdecides, rfl⟩

end Sampling

variable {α : Type} [Scalar α]

/-! ### Room -/

namespace TerrainGrid

variable {g : TerrainGrid α} {centre : Position α} {radius : α}

private theorem isFinite_of_isPassable {passable : Bool}
    (h : g.isPassable centre radius = .ok passable) : centre.isFinite = true := by
  rw [isPassable, bind_eq_ok_iff] at h
  obtain ⟨⟨⟩, hdisc, -⟩ := h
  rw [checkDisc] at hdisc
  by_cases hfinite : centre.isFinite = true
  · exact hfinite
  · split at hdisc
    · cases hdisc
    · simp [hfinite] at hdisc

/-- There is room for a disc: it does not lie in terrain. -/
def HasRoom (g : TerrainGrid α) (centre : Position α) (radius : α) : Prop :=
  ∃ location, g.classify centre radius = .ok location ∧ location ≠ .impassable

/-- Only finite spots are classified. -/
theorem HasRoom.isFinite (h : g.HasRoom centre radius) : centre.isFinite = true := by
  obtain ⟨location, h, -⟩ := h
  rw [classify, bind_eq_ok_iff] at h
  obtain ⟨passable, hpassable, -⟩ := h
  exact isFinite_of_isPassable hpassable

end TerrainGrid

/-! ### Trails -/

/-- The spots of a search: its start, and then its samples. -/
def trail (start : Position α) (sample : ℕ → Position α) : ℕ → Position α
  | 0 => start
  | k + 1 => sample (k + 1)

/-! ### Jumps -/

/-- The samples of a worm's jump, on its unclamped trajectory. -/
def Worm.jumpSample (worm : Worm α) (timeStep : α) (k : ℕ) : Position α :=
  worm.launch.ballistic.positionAt ((k : α) * timeStep)

namespace World

variable (w : World α)

/-- A jump stops where it leaves the world, in terrain, and in contact with terrain at least a
radius away from its start. -/
def StopsJump (worm : Worm α) (timeStep : α) (k : ℕ) : Prop :=
  let sample := worm.jumpSample timeStep k
  w.grid.isInside sample worm.radius = false ∨
    w.grid.classify sample worm.radius = .ok .impassable ∨
    w.grid.classify sample worm.radius = .ok .contact ∧
      worm.radius ≤ sample.distance worm.position

/-- What the sample of a number decides about a jump. -/
inductive JumpEnds (worm : Worm α) (timeStep : α) (k : ℕ) : Option (Landing α) → Prop where
  /-- The worm leaves the world. -/
  | leaves : w.grid.isInside (worm.jumpSample timeStep k) worm.radius = false →
      JumpEnds worm timeStep k (some (.exit (worm.jumpSample timeStep k) ((k : α) * timeStep)))
  /-- The worm touches down. -/
  | lands : w.grid.isInside (worm.jumpSample timeStep k) worm.radius = true →
      w.grid.classify (worm.jumpSample timeStep k) worm.radius = .ok .contact →
      worm.radius ≤ (worm.jumpSample timeStep k).distance worm.position →
      JumpEnds worm timeStep k (some (.ground (worm.jumpSample timeStep k) ((k : α) * timeStep)))
  /-- The worm runs into terrain and stays at the spot before. -/
  | stays : w.grid.classify (worm.jumpSample timeStep k) worm.radius = .ok .impassable →
      worm.radius ≤
        (trail worm.position (worm.jumpSample timeStep) (k - 1)).distance worm.position →
      w.grid.HasRoom (trail worm.position (worm.jumpSample timeStep) (k - 1)) worm.radius →
      JumpEnds worm timeStep k (some (.ground
        (trail worm.position (worm.jumpSample timeStep) (k - 1)) ((k : α) * timeStep - timeStep)))
  /-- The worm runs into terrain and cannot stay at the spot before. -/
  | blocked : w.grid.classify (worm.jumpSample timeStep k) worm.radius = .ok .impassable →
      ¬(worm.radius ≤
          (trail worm.position (worm.jumpSample timeStep) (k - 1)).distance worm.position ∧
        w.grid.HasRoom (trail worm.position (worm.jumpSample timeStep) (k - 1)) worm.radius) →
      JumpEnds worm timeStep k none

/-- A jump as a search by samples. -/
def jumpSampling (worm : Worm α) (timeStep : α) : Sampling (Error α) (Option (Landing α)) where
  Stops := w.StopsJump worm timeStep
  Decides := w.JumpEnds worm timeStep
  Fails k e := w.grid.classify (worm.jumpSample timeStep k) worm.radius = .error e
  never := .jumpNeverEnded
  stops_of_decides h := by
    cases h with
    | leaves h => exact .inl h
    | lands _ h hfar => exact .inr (.inr ⟨h, hfar⟩)
    | stays h | blocked h _ => exact .inr (.inl h)

variable {w} {worm : Worm α} {timeStep : α} {landing : Landing α}

private theorem not_stopsJump {k : ℕ} {location : Location}
    (hinside : w.grid.isInside (worm.jumpSample timeStep k) worm.radius = true)
    (hlocation : w.grid.classify (worm.jumpSample timeStep k) worm.radius = .ok location)
    (hroom : location ≠ .impassable)
    (hnear : location = .contact →
      ¬worm.radius ≤ (worm.jumpSample timeStep k).distance worm.position) :
    ¬w.StopsJump worm timeStep k := by
  rintro (houtside | hblocked | ⟨hcontact, hfar⟩)
  · cases hinside.symm.trans houtside
  · cases hlocation.symm.trans hblocked
    exact hroom rfl
  · cases hlocation.symm.trans hcontact
    exact hnear rfl hfar

private theorem jumpFrom_ends (left i : ℕ) {beforeLocation : Location}
    (hbefore : w.grid.classify (trail worm.position (worm.jumpSample timeStep) i) worm.radius =
      .ok beforeLocation) :
    (w.jumpSampling worm timeStep).Ends i left
      (w.jumpFrom worm.launch.ballistic worm.radius timeStep left (i + 1)
        (trail worm.position (worm.jumpSample timeStep) i) beforeLocation) := by
  induction left generalizing i beforeLocation with
  | zero => exact .out
  | succ left ih =>
    have hsample : worm.launch.ballistic.positionAt (((i + 1 : ℕ) : α) * timeStep) =
        worm.jumpSample timeStep (i + 1) := rfl
    have hstart : worm.launch.ballistic.origin = worm.position := rfl
    simp only [jumpFrom, hsample, hstart]
    split
    · rename_i houtside
      exact .now (.leaves (by simpa using houtside))
    · rename_i hinside
      have hinside : w.grid.isInside (worm.jumpSample timeStep (i + 1)) worm.radius = true := by
        simpa using hinside
      cases hlocation : w.grid.classify (worm.jumpSample timeStep (i + 1)) worm.radius with
      | error e => exact .fail hlocation
      | ok location =>
        rw [ok_bind]
        cases location with
        | passable =>
          exact .later (not_stopsJump hinside hlocation nofun nofun) (ih (i + 1) hlocation)
        | contact =>
          dsimp only
          split
          · rename_i hfar
            exact .now (.lands hinside hlocation hfar)
          · rename_i hnear
            exact .later (not_stopsJump hinside hlocation nofun fun _ => hnear)
              (ih (i + 1) hlocation)
        | impassable =>
          dsimp only
          split
          · rename_i hback
            exact .now (.stays hlocation hback.1 ⟨beforeLocation, hbefore, hback.2⟩)
          · rename_i hnot
            refine .now (.blocked hlocation ?_)
            rintro ⟨hfar, location, hroom, hne⟩
            cases hbefore.symm.trans hroom
            exact hnot ⟨hfar, hne⟩

/-- A jump that gets off the ground is a search by samples. -/
theorem jumpLanding_ends {samples : ℕ} {location : Location}
    (hstep : checkTimeStep timeStep = .ok ()) (hfly : worm.launch.ballistic.canFly = true)
    (hsamples : sampleCount (worm.launch.ballistic.timeToSinkBelow 0.0) timeStep = .ok samples)
    (hlocation : w.grid.classify worm.position worm.radius = .ok location) :
    (w.jumpSampling worm timeStep).Ends 0 samples (w.jumpLanding worm timeStep) := by
  simp only [jumpLanding, hstep, hfly, hsamples, hlocation, ok_bind, Bool.not_true,
    Bool.false_eq_true, if_false]
  exact jumpFrom_ends samples 0 hlocation

/-- A jump that has an end is decided at the first sample at which it stops. -/
theorem exists_jumpEnds_of_jumpLanding (h : w.jumpLanding worm timeStep = .ok (some landing)) :
    ∃ k, IsLeast {k | 1 ≤ k ∧ w.StopsJump worm timeStep k} k ∧
      w.JumpEnds worm timeStep k (some landing) := by
  have hends := h
  simp only [jumpLanding, bind_eq_ok_iff] at hends
  obtain ⟨⟨⟩, hstep, hends⟩ := hends
  split at hends
  · cases hends
  · rename_i hfly
    have hfly : worm.launch.ballistic.canFly = true := by simpa using hfly
    simp only [bind_eq_ok_iff] at hends
    obtain ⟨samples, hsamples, location, hlocation, -⟩ := hends
    have hends := jumpLanding_ends hstep hfly hsamples hlocation
    rw [h] at hends
    obtain ⟨k, -, hleast, hdecides⟩ := hends.first
    exact ⟨k, hleast, hdecides⟩

end World

/-! ### Flights -/

/-- The samples of a flight. -/
def Projectile.sample (shot : Projectile α) (timeStep : α) (k : ℕ) : Position α :=
  shot.launch.ballistic.positionAt ((k : α) * timeStep)

/-- The shot overlaps a worm at a spot, and the worm is not the one that fired it. -/
def Projectile.Hits (shot : Projectile α) (spot : Position α) (worm : Worm α) : Prop :=
  some worm.id ≠ shot.owner ∧ worm.body.overlaps spot shot.body.radius = true

namespace World

variable (w : World α)

/-- A flight stops where it leaves the world, on worms, in terrain, and in contact with terrain at
least a radius away from its start. -/
def StopsShot (shot : Projectile α) (timeStep : α) (k : ℕ) : Prop :=
  let sample := shot.sample timeStep k
  w.grid.isInside sample shot.body.radius = false ∨
    (∃ worm ∈ w.worms, shot.Hits sample worm) ∨
    w.grid.classify sample shot.body.radius = .ok .impassable ∨
    w.grid.classify sample shot.body.radius = .ok .contact ∧
      shot.body.radius ≤ sample.distance shot.body.position

/-- What the sample of a number decides about a flight. -/
inductive ShotEnds (shot : Projectile α) (timeStep : α) (k : ℕ) : Impact α → Prop where
  /-- The shot leaves the world. -/
  | leaves : w.grid.isInside (shot.sample timeStep k) shot.body.radius = false →
      ShotEnds shot timeStep k (.outOfWorld (shot.sample timeStep k))
  /-- The shot strikes a worm, the first one in turn order. -/
  | strikes {before after : List (Worm α)} {worm : Worm α} {killed : Bool} :
      w.grid.isInside (shot.sample timeStep k) shot.body.radius = true →
      w.worms = before ++ worm :: after → shot.Hits (shot.sample timeStep k) worm →
      (∀ other ∈ before, ¬shot.Hits (shot.sample timeStep k) other) →
      ShotEnds shot timeStep k (.worm worm.id (shot.sample timeStep k) killed)
  /-- The shot runs into terrain, and its impact is at the spot before. -/
  | blocked : w.grid.isInside (shot.sample timeStep k) shot.body.radius = true →
      (∀ worm ∈ w.worms, ¬shot.Hits (shot.sample timeStep k) worm) →
      w.grid.classify (shot.sample timeStep k) shot.body.radius = .ok .impassable →
      ShotEnds shot timeStep k
        (.terrain (trail shot.body.position (shot.sample timeStep) (k - 1)))
  /-- The shot touches terrain. -/
  | lands : w.grid.isInside (shot.sample timeStep k) shot.body.radius = true →
      (∀ worm ∈ w.worms, ¬shot.Hits (shot.sample timeStep k) worm) →
      w.grid.classify (shot.sample timeStep k) shot.body.radius = .ok .contact →
      shot.body.radius ≤ (shot.sample timeStep k).distance shot.body.position →
      ShotEnds shot timeStep k (.terrain (shot.sample timeStep k))

/-- A flight as a search by samples. -/
def shotSampling (shot : Projectile α) (timeStep : α) : Sampling (Error α) (Impact α × α) where
  Stops := w.StopsShot shot timeStep
  Decides k ending := w.ShotEnds shot timeStep k ending.1
  Fails k e := w.grid.classify (shot.sample timeStep k) shot.body.radius = .error e
  never := .flightNeverEnded
  stops_of_decides {_ ending} h := by
    obtain ⟨impact, time⟩ := ending
    cases h with
    | leaves h => exact .inl h
    | strikes _ hworms hhits _ => exact .inr (.inl ⟨_, by simp [hworms], hhits⟩)
    | blocked _ _ h => exact .inr (.inr (.inl h))
    | lands _ _ h hfar => exact .inr (.inr (.inr ⟨h, hfar⟩))

variable {w} {shot : Projectile α} {timeStep : α} {impact : Impact α}

private theorem not_stopsShot {k : ℕ} {location : Location}
    (hinside : w.grid.isInside (shot.sample timeStep k) shot.body.radius = true)
    (hmiss : ∀ worm ∈ w.worms, ¬shot.Hits (shot.sample timeStep k) worm)
    (hlocation : w.grid.classify (shot.sample timeStep k) shot.body.radius = .ok location)
    (hroom : location ≠ .impassable)
    (hnear : location = .contact →
      ¬shot.body.radius ≤ (shot.sample timeStep k).distance shot.body.position) :
    ¬w.StopsShot shot timeStep k := by
  rintro (houtside | ⟨worm, hworm, hhits⟩ | hblocked | ⟨hcontact, hfar⟩)
  · cases hinside.symm.trans houtside
  · exact hmiss worm hworm hhits
  · cases hlocation.symm.trans hblocked
    exact hroom rfl
  · cases hlocation.symm.trans hcontact
    exact hnear rfl hfar

/-- The worm that a shot strikes is the first one in turn order that it overlaps. -/
theorem struck?_eq_some_iff {spot : Position α} {worm : Worm α} :
    w.struck? shot.owner spot shot.body.radius = some worm ↔ shot.Hits spot worm ∧
      ∃ before after, w.worms = before ++ worm :: after ∧
        ∀ other ∈ before, ¬shot.Hits spot other := by
  rw [struck?, List.find?_eq_some_iff_append]
  simp [Projectile.Hits, or_iff_not_imp_left]

private theorem struck?_eq_none_iff {spot : Position α} :
    w.struck? shot.owner spot shot.body.radius = none ↔ ∀ worm ∈ w.worms, ¬shot.Hits spot worm := by
  rw [struck?, List.find?_eq_none]
  simp [Projectile.Hits]

private theorem flyFrom_ends (left i : ℕ) :
    (w.shotSampling shot timeStep).Ends i left
      (w.flyFrom shot shot.launch.ballistic timeStep left (i + 1)
        (trail shot.body.position (shot.sample timeStep) i)) := by
  induction left generalizing i with
  | zero => exact .out
  | succ left ih =>
    have hsample : shot.launch.ballistic.positionAt (((i + 1 : ℕ) : α) * timeStep) =
        shot.sample timeStep (i + 1) := rfl
    have hstart : shot.launch.ballistic.origin = shot.body.position := rfl
    simp only [flyFrom, hsample, hstart]
    split
    · rename_i houtside
      exact .now (.leaves (by simpa using houtside))
    · rename_i hinside
      have hinside : w.grid.isInside (shot.sample timeStep (i + 1)) shot.body.radius = true := by
        simpa using hinside
      split
      · rename_i worm hstruck
        obtain ⟨hhits, before, after, hworms, hmiss⟩ := struck?_eq_some_iff.mp hstruck
        exact .now (.strikes hinside hworms hhits hmiss)
      · rename_i hnone
        have hmiss := struck?_eq_none_iff.mp (Option.eq_none_iff_forall_ne_some.mpr hnone)
        cases hlocation : w.grid.classify (shot.sample timeStep (i + 1)) shot.body.radius with
        | error e => exact .fail hlocation
        | ok location =>
          rw [ok_bind]
          cases location with
          | passable =>
            exact .later (not_stopsShot hinside hmiss hlocation nofun nofun) (ih (i + 1))
          | contact =>
            dsimp only
            split
            · rename_i hfar
              exact .now (.lands hinside hmiss hlocation hfar)
            · rename_i hnear
              exact .later (not_stopsShot hinside hmiss hlocation nofun fun _ => hnear) (ih (i + 1))
          | impassable => exact .now (.blocked hinside hmiss hlocation)

/-- A flight is a search by samples. -/
theorem flight_ends {samples : ℕ} (hstep : checkTimeStep timeStep = .ok ())
    (hsamples : sampleCount (shot.launch.ballistic.timeToSinkBelow 0.0) timeStep = .ok samples) :
    (w.shotSampling shot timeStep).Ends 0 samples (w.flight shot timeStep) := by
  simp only [flight, hstep, hsamples, ok_bind]
  exact flyFrom_ends samples 0

/-- A flight that has an end is decided at the first sample at which it stops. -/
theorem exists_shotEnds_of_flight {time : α} (h : w.flight shot timeStep = .ok (impact, time)) :
    ∃ k, IsLeast {k | 1 ≤ k ∧ w.StopsShot shot timeStep k} k ∧
      w.ShotEnds shot timeStep k impact := by
  have hends := h
  rw [flight, bind_eq_ok_iff] at hends
  obtain ⟨⟨⟩, hstep, hends⟩ := hends
  rw [bind_eq_ok_iff] at hends
  obtain ⟨samples, hsamples, -⟩ := hends
  have hends := flight_ends (w := w) hstep hsamples
  rw [h] at hends
  obtain ⟨k, -, hleast, hdecides⟩ := hends.first
  exact ⟨k, hleast, hdecides⟩

end World

/-! ### Falls -/

/-- The samples of a worm's fall, straight down. -/
def Worm.fallSample (worm : Worm α) (k : ℕ) : Position α :=
  ⟨worm.position.x,
    worm.position.y - (k : α) * (worm.radius * worm.config.searchStepFraction)⟩

namespace World

variable (w : World α)

/-- A fall stops where it leaves the world and where it meets terrain. -/
def StopsFall (worm : Worm α) (k : ℕ) : Prop :=
  w.grid.isInside (worm.fallSample k) worm.radius = false ∨
    w.grid.classify (worm.fallSample k) worm.radius = .ok .contact ∨
    w.grid.classify (worm.fallSample k) worm.radius = .ok .impassable

/-- What the sample of a number decides about a fall. -/
inductive FallEnds (worm : Worm α) (k : ℕ) : Option (Position α) → Prop where
  /-- The worm leaves the world. -/
  | leaves : w.grid.isInside (worm.fallSample k) worm.radius = false → FallEnds worm k none
  /-- The worm touches down. -/
  | lands : w.grid.isInside (worm.fallSample k) worm.radius = true →
      w.grid.classify (worm.fallSample k) worm.radius = .ok .contact →
      FallEnds worm k (some (worm.fallSample k))
  /-- The worm would run into terrain and stays at the spot before. -/
  | stays : w.grid.isInside (worm.fallSample k) worm.radius = true →
      w.grid.classify (worm.fallSample k) worm.radius = .ok .impassable →
      FallEnds worm k (some (trail worm.position worm.fallSample (k - 1)))

/-- A fall as a search by samples. -/
def fallSampling (worm : Worm α) : Sampling (Error α) (Option (Position α)) where
  Stops := w.StopsFall worm
  Decides := w.FallEnds worm
  Fails k e := w.grid.classify (worm.fallSample k) worm.radius = .error e
  never := .neverLanded worm.id
  stops_of_decides h := by
    cases h with
    | leaves h => exact .inl h
    | lands _ h => exact .inr (.inl h)
    | stays _ h => exact .inr (.inr h)

variable {w} {worm : Worm α}

private theorem fallFrom_ends (left i : ℕ) :
    (w.fallSampling worm).Ends i left
      (w.fallFrom worm.id worm.position worm.radius
        (worm.radius * worm.config.searchStepFraction) left (i + 1)
        (trail worm.position worm.fallSample i)) := by
  induction left generalizing i with
  | zero => exact .out
  | succ left ih =>
    have hsample : (⟨worm.position.x, worm.position.y -
        ((i + 1 : ℕ) : α) * (worm.radius * worm.config.searchStepFraction)⟩ : Position α) =
        worm.fallSample (i + 1) := rfl
    simp only [fallFrom, hsample]
    split
    · rename_i houtside
      exact .now (.leaves (by simpa using houtside))
    · rename_i hinside
      have hinside : w.grid.isInside (worm.fallSample (i + 1)) worm.radius = true := by
        simpa using hinside
      cases hlocation : w.grid.classify (worm.fallSample (i + 1)) worm.radius with
      | error e => exact .fail hlocation
      | ok location =>
        rw [ok_bind]
        cases location with
        | passable =>
          refine .later ?_ (ih (i + 1))
          rintro (houtside | hcontact | hblocked)
          · cases hinside.symm.trans houtside
          · cases hlocation.symm.trans hcontact
          · cases hlocation.symm.trans hblocked
        | contact => exact .now (.lands hinside hlocation)
        | impassable => exact .now (.stays hinside hlocation)

/-- A fall is a search by samples. -/
theorem landing_ends {samples : ℕ}
    (hsamples : sampleCount (Scalar.maxNum worm.position.y 0.0)
      (worm.radius * worm.config.searchStepFraction) = .ok samples) :
    (w.fallSampling worm).Ends 0 samples (w.landing worm) := by
  simp only [landing, hsamples, ok_bind]
  exact fallFrom_ends samples 0

end World

end WormBattle
