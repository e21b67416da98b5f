import WormBattle.Proofs.World.Refusal
import WormBattle.Proofs.World.Registered

/-!
# All or nothing in the registry

What enters a world, what leaves it and whose turn it is are changed by operations that are carried
out whole or not at all (`Command.Atomic`). Those that let something in look first and then act. The
others act first: they take an entity out of its list before they terminate it, and a projectile is
put into flight after the one before it has been taken out. Terminating an entity could be refused,
but not in a reachable simulation, where whatever is listed is a member of the world.

A projectile that enters takes the place of the one in flight, which is then gone for good, and it
is the only projectile of the world (`Command.Replaced`).
-/

namespace WormBattle

variable {α β γ : Type}

namespace Command

/-- A refusal leaves no trace. -/
def Atomic (c : Command α β) (s : Simulation α) : Prop :=
  c.Ends s (fun _ _ => True) fun _ s' => s' = s

variable {c : Command α β} {s s' : Simulation α} {e : Error α}

private theorem Atomic.eq (h : c.Atomic s) (hc : c.carryOut s = (.error e, s')) : s' = s :=
  h.of_error hc

private theorem Atomic.ignore (h : c.Atomic s) : (do let _ ← c : Command α Unit).Atomic s :=
  ends_bind.mpr h

/-! ### Entering -/

private theorem atomic_addWorm (s : Simulation α) (worm : Worm α) : (addWorm worm).Atomic s := by
  simp only [Atomic, addWorm, ends_bind, ends_world, ends_lift]
  refine ⟨fun _ _ => ?_, fun _ _ => trivial⟩
  cases worm.team with
  | none =>
    simp only [ends_bind, ends_lift, ends_modifyWorld, ends_pure]
    exact ⟨fun _ _ => trivial, fun _ _ => trivial⟩
  | some team =>
    simp only [ends_ite, ends_throw, ends_bind, ends_lift, ends_modifyWorld, ends_pure]
    exact ⟨fun _ => trivial, fun _ => ⟨fun _ _ => trivial, fun _ _ => trivial⟩⟩

private theorem atomic_addFood (s : Simulation α) (food : Food α) : (addFood food).Atomic s := by
  simp only [Atomic, addFood, ends_bind, ends_world, ends_lift, ends_modifyWorld, ends_pure]
  exact ⟨fun _ _ => ⟨fun _ _ => trivial, fun _ _ => trivial⟩, fun _ _ => trivial⟩

private theorem atomic_addTeam (s : Simulation α) (team : Team) : (addTeam team).Atomic s := by
  simp only [Atomic, addTeam, ends_bind, ends_world, ends_lift, ends_ite, ends_throw,
    ends_modifyWorld]
  simp

private theorem atomic_joinTeam (s : Simulation α) (id : EntityId) (team : String) :
    (joinTeam id team).Atomic s := by
  simp only [Atomic, joinTeam, ends_bind, ends_world, ends_ite, ends_throw, ends_requireWorm,
    ends_setWorm]
  simp

variable [Scalar α]

private theorem atomic_setProjectile (hs : s.world.Sound) (projectile : Projectile α) :
    (setProjectile projectile).Atomic s :=
  (ends_setProjectile hs).mpr
    ⟨fun _ => ⟨fun _ _ => trivial, fun _ _ => rfl⟩, fun _ _ => rfl⟩

/-! ### Leaving -/

private theorem atomic_removeWorm (hs : s.world.Sound) (id : EntityId) :
    (removeWorm id).Atomic s := by
  refine ends_removeWorm.mpr ⟨fun worm index hworm _ => ⟨fun _ _ => trivial, fun e he => ?_⟩,
    fun _ => rfl⟩
  rw [Body.terminate_detach (hs.member worm (World.mem_of_worm? hworm))] at he
  cases he

private theorem atomic_removeFood (hs : s.world.Sound) (id : EntityId) :
    (removeFood id).Atomic s := by
  refine ends_removeFood.mpr ⟨fun food hfood => ⟨fun _ _ => trivial, fun e he => ?_⟩, fun _ => rfl⟩
  rw [Body.terminate_detach (hs.foodMember food (List.mem_of_find?_eq_some hfood))] at he
  cases he

private theorem atomic_removeProjectile (hs : s.world.Sound) : removeProjectile.Atomic s := by
  refine ends_removeProjectile.mpr ⟨fun p hp => ⟨fun _ _ => trivial, fun e he => ?_⟩, fun _ => rfl⟩
  rw [Body.terminate_detach (hs.projectileMember p hp)] at he
  cases he

/-! ### Turns -/

private theorem atomic_start (s : Simulation α) : start.Atomic s :=
  ends_start.mpr ⟨fun _ => ⟨fun _ => trivial, fun _ => ⟨fun _ => trivial, fun _ => rfl⟩⟩,
    fun _ => rfl, fun _ _ => rfl⟩

private theorem atomic_startNextTurn (s : Simulation α) : startNextTurn.Atomic s :=
  ends_startNextTurn.mpr ⟨fun _ _ => ⟨fun _ => trivial, fun _ => ⟨fun _ => trivial, fun _ => rfl⟩⟩,
    fun _ => rfl⟩

end Command

namespace Operation

/-- The operations by which entities and teams come and go and turns are handed on. -/
def IsRegistration : Operation α → Prop
  | addWorm _ | addFood _ | setProjectile _ | addTeam _ | joinTeam .. | removeWorm _ | removeFood _
  | removeProjectile | start | startNextTurn => True
  | _ => False

open Command

private theorem atomic [Scalar α] {s : Simulation α} {op : Operation α} (hs : s.world.Sound)
    (hop : op.IsRegistration) : op.command.Atomic s := by
  cases op with
  | addWorm worm => exact (atomic_addWorm s worm).ignore
  | addFood food => exact (atomic_addFood s food).ignore
  | setProjectile projectile => exact (atomic_setProjectile hs projectile).ignore
  | addTeam team => exact atomic_addTeam s team
  | joinTeam id team => exact atomic_joinTeam s id team
  | removeWorm id => exact (atomic_removeWorm hs id).ignore
  | removeFood id => exact (atomic_removeFood hs id).ignore
  | removeProjectile => exact (atomic_removeProjectile hs).ignore
  | start => exact atomic_start s
  | startNextTurn => exact atomic_startNextTurn s
  | _ => exact hop.elim

end Operation

namespace Command

variable [Scalar α] {s s' : Simulation α} {p : Projectile α} {id : EntityId}

/-- A projectile has entered in place of the one in flight: nothing else has changed, the one before
is not to be found any more, and there is no projectile but the new one. -/
structure Replaced (s : Simulation α) (p : Projectile α) (s' : Simulation α) : Prop where
  eq : s' = { s with world := { s.world with
    projectile := some { p with body := { p.body with membership := .member s.world.id } } } }
  gone : ∀ old, s.world.projectile = some old → old.id ∉ s'.world.ids
  only : ∀ q, Entity.projectile q ∈ s'.world.listed ↔
    q = { p with body := { p.body with membership := .member s.world.id } }

/-- What it comes to when a projectile enters a world whose registry is in order. -/
theorem replaced_of_setProjectile (hs : s.world.Sound) (hr : s.world.Registered)
    (h : (setProjectile p).carryOut s = (.ok id, s')) : id = p.id ∧ Replaced s p s' := by
  have hends : (setProjectile p).Ends s (fun id s' => id = p.id ∧ Replaced s p s')
      fun _ _ => True := by
    refine (ends_setProjectile hs).mpr ⟨fun hopen => ⟨fun body hbody => ?_, fun _ _ => trivial⟩,
      fun _ _ => trivial⟩
    obtain ⟨-, rfl⟩ := Body.attach_eq_ok_iff.mp hbody
    obtain ⟨-, -, hnew⟩ := World.checkRegistrable_eq_ok_iff.mp hopen
    refine ⟨rfl, rfl, fun old hold hlisted => ?_, fun q => ?_⟩
    · -- The number of the one before is not that of a worm or a ration, nor that of the new one.
      have hnodup := hr.nodup
      rw [World.ids_eq, hold] at hnodup
      rw [World.ids_eq] at hlisted
      rcases List.mem_append.mp hlisted with hrest | hrest
      · exact List.disjoint_of_nodup_append hnodup hrest (List.mem_singleton.mpr rfl)
      · have hsame : old.id = p.id := List.mem_singleton.mp hrest
        exact (World.contains_eq_false_iff.mp hnew).2.2 old hold hsame
    · simp [World.listed]
  exact hends.of_ok h

end Command

namespace Simulation

variable [Scalar α] {s : Simulation α}

/-- **The registry is changed whole or not at all**, whatever is asked of it; in particular a
projectile that is refused does not take away the one in flight. One that is accepted replaces
it. -/
theorem Reachable.registers_or_refuses (hs : s.Reachable) :
    (∀ op : Operation α, op.IsRegistration → ∀ e s', op.command.carryOut s = (.error e, s') →
      s' = s) ∧
    ∀ p id s', (Command.setProjectile p).carryOut s = (.ok id, s') →
      id = p.id ∧ Command.Replaced s p s' :=
  ⟨fun _ hop _ _ hrefused => (Operation.atomic hs.sound hop).eq hrefused,
    fun _ _ _ hdone => Command.replaced_of_setProjectile hs.sound hs.registered hdone⟩

/-- A shot of some number that has not been put into flight. -/
def spareShot (id : EntityId) : Projectile Rat where
  body := ⟨id, ⟨3, 3⟩, 0.1, leastRadius, .detached⟩
  direction := 0
  density := 1
  weapon := .rifle
  yieldPercent := 0
  force := 1
  owner := none

/-- A shot that has the number of a ration leaves the one in flight alone, another replaces it. -/
theorem registers_or_refuses_crowded : crowded.world.projectile.map Projectile.id = some ⟨3⟩ ∧
    (∃ e, (Operation.setProjectile (spareShot ⟨2⟩)).command.carryOut crowded =
      (.error e, crowded)) ∧
    ∃ s', (Command.setProjectile (spareShot ⟨4⟩)).carryOut crowded = (.ok ⟨4⟩, s') ∧
      Command.Replaced crowded (spareShot ⟨4⟩) s' := by
  obtain ⟨hrefused, hdone⟩ := reachable_crowded.registers_or_refuses
  have htaken : ((Operation.setProjectile (spareShot ⟨2⟩)).command.carryOut crowded).1.isOk =
    false := by decide +kernel
  have hfree : ((Command.setProjectile (spareShot ⟨4⟩)).carryOut crowded).1.isOk = true := by
    decide +kernel
  refine ⟨by decide +kernel, ?_, ?_⟩
  · rcases hc : (Operation.setProjectile (spareShot ⟨2⟩)).command.carryOut crowded with ⟨e | _, s'⟩
    · exact ⟨e, by rw [hrefused (.setProjectile (spareShot ⟨2⟩)) trivial e s' hc]⟩
    · rw [hc] at htaken
      cases htaken
  · obtain ⟨id, hc⟩ := Command.exists_of_isOk hfree
    obtain ⟨rfl, hreplaced⟩ := hdone _ _ _ hc
    exact ⟨_, hc, hreplaced⟩

end Simulation

end WormBattle
