import WormBattle.Proofs.World.Numbers
import WormBattle.Proofs.World.Reach

/-!
# Shots in one step and in two

To fire and resolve a shot in one step comes to the same as to fire it and to resolve it then
(`Simulation.Reachable.fire_in_two`), although in one step the flight is followed before the shot is
in the world and paid for. Two facts carry this:

* A flight only depends on the terrain, on the bodies of the worms and on how the shot was fired
  (`World.SameScene.flight_eq`). The launch of a shot concerns none of these.
* A shot that has been aimed can be launched (`Command.carryOut_launch_aimed`): a world with a worm
  in it is open, and the number of the shot is new to it.
-/

namespace WormBattle

variable {α : Type}

/-- The projectile in another standing. -/
def Projectile.withMembership (p : Projectile α) (membership : Membership) : Projectile α :=
  { p with body := { p.body with membership } }

namespace World

/-- Two worlds have the same terrain, and their worms have the same bodies in the same order. -/
structure SameScene (w w' : World α) : Prop where
  grid : w'.grid = w.grid
  bodies : w'.worms.map Worm.body = w.worms.map Worm.body

variable [Scalar α] {w w' : World α} {worm : Worm α}

omit [Scalar α] in
/-- The launch of a shot leaves the scene as it is. -/
theorem SameScene.launched (h : w.worm? worm.id = some worm) (cost : Nat)
    (projectile : Projectile α) : w.SameScene (w.launched worm cost projectile) := by
  refine ⟨rfl, map_replaceWorm Worm.body fun found hfound => ?_⟩
  cases h.symm.trans hfound
  rfl

/-- A shot strikes the same body in the same scene. -/
theorem SameScene.body_of_struck? (h : w.SameScene w') (owner : Option EntityId)
    (sample : Position α) (radius : α) :
    (w'.struck? owner sample radius).map Worm.body =
      (w.struck? owner sample radius).map Worm.body := by
  let strikes (body : Body α) : Bool := some body.id ≠ owner && body.overlaps sample radius
  have hfind : ∀ w : World α, (w.struck? owner sample radius).map Worm.body =
      (w.worms.map Worm.body).find? strikes := by
    intro w
    rw [List.find?_map]
    rfl
  rw [hfind, hfind, h.bodies]

private theorem SameScene.flyFrom_eq (h : w.SameScene w') (projectile : Projectile α)
    (membership : Membership) (ballistic : Ballistic α) (timeStep : α) (left k : Nat)
    (before : Position α) :
    w'.flyFrom (projectile.withMembership membership) ballistic timeStep left k before =
      w.flyFrom projectile ballistic timeStep left k before := by
  induction left generalizing k before with
  | zero => rfl
  | succ left ih =>
    have hstruck := h.body_of_struck? projectile.owner (ballistic.positionAt ((k : α) * timeStep))
      projectile.body.radius
    rw [flyFrom, flyFrom, h.grid]
    cases hw : w.struck? projectile.owner (ballistic.positionAt ((k : α) * timeStep))
      projectile.body.radius with
    | none =>
      rw [hw, Option.map_none, Option.map_eq_none_iff] at hstruck
      simp only [Projectile.withMembership, hstruck] at ih ⊢
      simp only [ih]
    | some worm =>
      rw [hw, Option.map_some, Option.map_eq_some_iff] at hstruck
      obtain ⟨worm', hw', hbody⟩ := hstruck
      have hid : worm'.id = worm.id := congrArg Body.id hbody
      simp only [Projectile.withMembership, hw', hid] at ih ⊢

/-- **A flight depends on the scene and on how the shot was fired**, and on nothing else. -/
theorem SameScene.flight_eq (h : w.SameScene w') (projectile : Projectile α)
    (membership : Membership) (timeStep : α) :
    w'.flight (projectile.withMembership membership) timeStep = w.flight projectile timeStep := by
  rw [flight, flight]
  have hfly := h.flyFrom_eq projectile membership projectile.launch.ballistic timeStep
  simp only [← hfly]
  rfl

end World

namespace Command

variable [Scalar α] {s : Simulation α} {worm : Worm α} {id : EntityId}

/-- A projectile is resolved by following its flight and bringing it to its end. -/
theorem carryOut_resolve {projectile : Projectile α} (timeStep : α)
    (h : s.world.projectile = some projectile) : (resolve timeStep).carryOut s =
      match s.world.flight projectile timeStep with
      | .ok (impact, _) => (land impact projectile.weapon).carryOut s
      | .error e => (.error e, s) := by
  have hrequired : s.world.requireProjectile = .ok projectile := by
    rw [World.requireProjectile, h]
  rw [resolve, carryOut_bind]
  show (liftM s.world.requireProjectile >>= _ : Command α (Impact α)).carryOut s = _
  rw [carryOut_bind, carryOut_lift, hrequired]
  show (liftM (s.world.flight projectile timeStep) >>= _ : Command α (Impact α)).carryOut s = _
  rw [carryOut_bind, carryOut_lift]
  cases s.world.flight projectile timeStep <;> rfl

/-- A shot that has been aimed and launched has been fired. -/
theorem carryOut_fire {s₀ s₁ : Simulation α} {projectile : Projectile α} {cost yieldPercent : Nat}
    {shot : EntityId} (haim : (aim id yieldPercent).carryOut s = (.ok (projectile, cost), s₀))
    (hlaunch : (launch id projectile cost).carryOut s₀ = (.ok shot, s₁)) :
    (fire id yieldPercent).carryOut s = (.ok shot, s₁) := by
  rw [fire, carryOut_bind, haim]
  exact hlaunch

/-- In one step, the flight is followed before the launch. -/
theorem carryOut_fireAndResolve {s₀ s₁ : Simulation α} {projectile : Projectile α}
    {cost yieldPercent : Nat} {shot : EntityId} (timeStep : α)
    (haim : (aim id yieldPercent).carryOut s = (.ok (projectile, cost), s₀))
    (hlaunch : (launch id projectile cost).carryOut s₀ = (.ok shot, s₁)) :
    (fireAndResolve id yieldPercent timeStep).carryOut s =
      match s₀.world.flight projectile timeStep with
      | .ok (impact, _) => (land impact projectile.weapon).carryOut s₁
      | .error e => (.error e, s₀) := by
  rw [fireAndResolve, carryOut_bind, haim]
  show (liftM (s₀.world.flight projectile timeStep) >>= _ : Command α (Impact α)).carryOut s₀ = _
  rw [carryOut_bind, carryOut_lift]
  cases s₀.world.flight projectile timeStep with
  | error e => rfl
  | ok ending =>
    dsimp only
    rw [carryOut_bind, hlaunch]

/-- A shot under a number that is new to the world is launched. -/
theorem carryOut_launch (hs : s.world.Sound) (hr : s.world.Registered)
    (hworm : s.world.worm? id = some worm) {projectile : Projectile α} {cost : Nat}
    (hpay : cost ≤ worm.actionPoints) (hdetached : projectile.body.membership = .detached)
    (hnew : projectile.id ∉ s.world.ids) :
    (launch id projectile cost).carryOut s = (.ok projectile.id, { s with
      world := s.world.launched worm cost (projectile.withMembership (.member s.world.id)) }) := by
  have hopen : s.world.isTerminated = false := by
    by_contra hterminated
    have hlisted := (hr.closed (by simpa using hterminated)).1
    have hmem : worm.id ∈ s.world.ids :=
      World.mem_ids_iff.mpr (.inl (List.mem_map_of_mem (World.mem_of_worm? hworm)))
    rw [World.listed_eq_nil_iff.mp hlisted] at hmem
    cases hmem
  have hregistrable : s.world.checkRegistrable projectile.body = .ok () :=
    World.checkRegistrable_eq_ok_iff.mpr
      ⟨hopen, by simp [Body.isTerminated, hdetached], World.contains_eq_false_iff_ids.mpr hnew⟩
  refine Ends.of_end (P := fun r => r = (.ok projectile.id, { s with
    world := s.world.launched worm cost (projectile.withMembership (.member s.world.id)) }))
    ((ends_launch hs hworm hpay).mpr ⟨fun _ => ⟨fun body hbody => ?_, fun e he => ?_⟩,
      fun e he => ?_⟩)
  · obtain ⟨-, rfl⟩ := Body.attach_eq_ok_iff.mp hbody
    rfl
  · cases (Body.attach_eq_ok_iff.mpr ⟨hdetached, rfl⟩).symm.trans he
  · cases hregistrable.symm.trans he

end Command

namespace Simulation

open Command

variable [Scalar α] {s : Simulation α}

/-- **A shot in one step and in two**: it has the same end, and if it can be flown, it also leaves
the same simulation behind. -/
theorem Reachable.fire_in_two (hs : s.Reachable) (id : EntityId) (yieldPercent : Nat)
    (timeStep : α) :
    (∀ impact s', (fireAndResolve id yieldPercent timeStep).carryOut s = (.ok impact, s') →
      ∃ shot s₁, (fire id yieldPercent).carryOut s = (.ok shot, s₁) ∧
        (resolve timeStep).carryOut s₁ = (.ok impact, s')) ∧
    ∀ e s', (fireAndResolve id yieldPercent timeStep).carryOut s = (.error e, s') →
      (∃ s₁, (fire id yieldPercent).carryOut s = (.error e, s₁)) ∨
        ∃ shot s₁ s₂, (fire id yieldPercent).carryOut s = (.ok shot, s₁) ∧
          (resolve timeStep).carryOut s₁ = (.error e, s₂) := by
  rcases haim : (aim id yieldPercent).carryOut s with ⟨e | ⟨projectile, cost⟩, s₀⟩
  · -- The worm cannot aim, and neither way of firing gets any further.
    have hone : (fireAndResolve id yieldPercent timeStep).carryOut s = (.error e, s₀) := by
      rw [fireAndResolve, carryOut_bind, haim]
    have htwo : (fire id yieldPercent).carryOut s = (.error e, s₀) := by
      rw [fire, carryOut_bind, haim]
    rw [hone]
    refine ⟨fun impact s' h => (by cases h), fun e' s' h => .inl ⟨s₀, ?_⟩⟩
    cases h
    exact htwo
  obtain ⟨rfl, worm, hworm, hpay, -, -, hid, hdetached⟩ := (ends_aim s id yieldPercent).of_ok haim
  let aimed : Simulation α := { s with ids := ⟨s.ids.next + 1⟩ }
  let shot := projectile.withMembership (.member s.world.id)
  let fired : Simulation α := { aimed with world := s.world.launched worm cost shot }
  have hnew : projectile.id ∉ s.world.ids := by
    intro hmem
    have hlt := hs.numbered _ hmem
    rw [show projectile.id = ⟨s.ids.next⟩ from hid] at hlt
    exact Nat.lt_irrefl _ hlt
  have hlaunch : (launch id projectile cost).carryOut aimed = (.ok projectile.id, fired) :=
    carryOut_launch (s := aimed) hs.sound hs.registered hworm hpay hdetached hnew
  have hfire := carryOut_fire haim hlaunch
  have hone := carryOut_fireAndResolve timeStep haim hlaunch
  have htwo := carryOut_resolve (s := fired) timeStep rfl
  -- What is launched flies like what was aimed, and the launch leaves the scene as it is.
  have hflight : fired.world.flight shot timeStep = aimed.world.flight projectile timeStep :=
    (World.SameScene.launched (World.worm?_self hworm) cost shot).flight_eq projectile _ timeStep
  rw [hflight] at htwo
  rw [hone]
  cases hend : aimed.world.flight projectile timeStep with
  | error e =>
    rw [hend] at htwo
    refine ⟨fun impact s' h => (by cases h), fun e' s' h => .inr ?_⟩
    cases h
    exact ⟨projectile.id, fired, fired, hfire, htwo⟩
  | ok ending =>
    rw [hend] at htwo
    exact ⟨fun impact s' h => ⟨projectile.id, fired, hfire, htwo.trans h⟩,
      fun e s' h => .inr ⟨projectile.id, fired, s', hfire, htwo.trans h⟩⟩

/-- With an earlier shot still in flight, a worm is struck either way. -/
theorem fire_in_two_duel : let s := duel.after [.fire ⟨1⟩ 100]
    s.world.projectile.isSome = true ∧ ∃ impact s' shot s₁,
      (fireAndResolve ⟨1⟩ 100 0.05).carryOut s = (.ok impact, s') ∧
      (fire ⟨1⟩ 100).carryOut s = (.ok shot, s₁) ∧
      (resolve 0.05).carryOut s₁ = (.ok impact, s') := by
  intro s
  have hs : s.Reachable := reachable_duel.after ⟨trivial, trivial⟩
  have hdone : ((fireAndResolve ⟨1⟩ 100 0.05).carryOut s).1.isOk = true := by decide +kernel
  obtain ⟨impact, hone⟩ := exists_of_isOk hdone
  obtain ⟨shot, s₁, hfire, htwo⟩ := (hs.fire_in_two ⟨1⟩ 100 0.05).1 impact _ hone
  exact ⟨by decide +kernel, impact, _, shot, s₁, hone, hfire, htwo⟩

end Simulation

end WormBattle
