import WormBattle.Proofs.World.Samples
import WormBattle.Proofs.World.Shots

/-!
# Impacts

What comes of the shot in flight when it is resolved (`Simulation.Reachable.resolved`). Where it
ends is decided at the first sample at which its flight stops (`World.ShotEnds`), and what it leaves
behind of the world is known entirely (`World.ShotLeaves`): the shot is gone, the worm that it
struck has lost hit points and is gone if it has none left, and all else is as it was.
-/

namespace WormBattle

variable {α : Type}

namespace World

variable {w : World α} {worm worm' : Worm α} {id : EntityId} {before after : List (Worm α)}

/-- A listed worm stands behind worms of other numbers. -/
theorem exists_append_of_worm? (h : w.worm? id = some worm) :
    ∃ before after, w.worms = before ++ worm :: after ∧ ∀ other ∈ before, other.id ≠ id := by
  obtain ⟨-, before, after, hworms, hbefore⟩ := List.find?_eq_some_iff_append.mp h
  exact ⟨before, after, hworms, fun other hother => by simpa using hbefore other hother⟩

private theorem replaceWorm_append (hid : worm'.id = worm.id)
    (hbefore : ∀ other ∈ before, other.id ≠ worm.id) :
    replaceWorm worm' (before ++ worm :: after) = before ++ worm' :: after := by
  induction before with
  | nil => simp [replaceWorm, hid]
  | cons other before ih =>
    have hne : other.id ≠ worm'.id := hid ▸ hbefore other List.mem_cons_self
    rw [List.cons_append, replaceWorm, if_neg hne, ih fun x hx => hbefore x (.tail _ hx),
      List.cons_append]

private theorem findIdx?_append_cons (hid : worm.id = id)
    (hbefore : ∀ other ∈ before, other.id ≠ id) :
    (before ++ worm :: after).findIdx? (fun worm => worm.id = id) = some before.length := by
  have hnone : before.findIdx? (fun worm => worm.id = id) = none :=
    List.findIdx?_eq_none_iff.mpr fun other hother => by simpa using hbefore other hother
  simp [List.findIdx?_append, hnone, List.findIdx?_cons, hid]

/-- What a shot leaves behind of the world in which it is resolved. -/
inductive ShotLeaves (w : World α) (weapon : WeaponKind) : Impact α → World α → Prop where
  /-- It has ended on terrain. -/
  | terrain {spot : Position α} : ShotLeaves w weapon (.terrain spot) { w with projectile := none }
  /-- It has left the world. -/
  | outOfWorld {spot : Position α} :
      ShotLeaves w weapon (.outOfWorld spot) { w with projectile := none }
  /-- It has struck a worm, which has hit points left. -/
  | wounds {before after : List (Worm α)} {worm : Worm α} {spot : Position α} {lost : ℕ} :
      w.worms = before ++ worm :: after →
      lost = min worm.hitPoints (weapon.spec w.config.weapons).damage →
      worm.hitPoints - lost ≠ 0 →
      ShotLeaves w weapon (.worm worm.id spot false)
        { w with
          worms := before ++ { worm with hitPoints := worm.hitPoints - lost } :: after
          projectile := none }
  /-- It has struck a worm, which has none left and leaves. -/
  | kills {before after : List (Worm α)} {worm : Worm α} {spot : Position α} {lost : ℕ} :
      w.worms = before ++ worm :: after →
      lost = min worm.hitPoints (weapon.spec w.config.weapons).damage →
      worm.hitPoints - lost = 0 →
      ShotLeaves w weapon (.worm worm.id spot true)
        { w with
          worms := before ++ after
          projectile := none
          state := w.stateWithout before.length }

variable [Scalar α] {shot : Projectile α} {timeStep : α} {k : ℕ} {impact : Impact α}

/-- Where a flight ends does not depend on whether the worm that is struck outlives it. -/
theorem ShotEnds.withKilled {target : EntityId} {spot : Position α} {killed : Bool}
    (h : w.ShotEnds shot timeStep k (.worm target spot killed)) (killed' : Bool) :
    w.ShotEnds shot timeStep k (.worm target spot killed') := by
  cases h with
  | strikes hinside hworms hhits hfirst => exact .strikes hinside hworms hhits hfirst

/-- No shot strikes the worm that fired it. -/
theorem ShotEnds.owner_ne (h : w.ShotEnds shot timeStep k impact) {target : EntityId}
    {spot : Position α} {killed : Bool} (himpact : impact = .worm target spot killed) :
    shot.owner ≠ some target := by
  subst himpact
  cases h with
  | strikes _ _ hhits _ => exact hhits.1.symm

end World

namespace Command

variable [Scalar α] {s : Simulation α} {shot : Projectile α}

omit [Scalar α] in
/-- A projectile that its world lists is taken out, and nothing else happens. -/
theorem ends_removeProjectile_of_member (hshot : s.world.projectile = some shot) {world : WorldId}
    (hmember : shot.body.membership = .member world)
    {done : Projectile α → Simulation α → Prop} {refused : Error α → Simulation α → Prop}
    (hdone : ∀ p, done p { s with world := { s.world with projectile := none } }) :
    removeProjectile.Ends s done refused := by
  simp only [ends_removeProjectile, hshot, Option.some.injEq, forall_eq', reduceCtorEq,
    false_implies, and_true]
  refine ⟨fun body _ => hdone _, fun e he => ?_⟩
  cases (Body.terminate_detach hmember).symm.trans he

/-- The end of a flight leaves behind what it may, wherever the flight has ended. -/
theorem shotLeaves_land (hs : s.world.Sound) (hshot : s.world.projectile = some shot)
    (impact : Impact α) (weapon : WeaponKind) :
    (land impact weapon).Ends s
      (fun impact' s' => s' = { s with world := s'.world } ∧
        s.world.ShotLeaves weapon impact' s'.world ∧
        ∀ {shot timeStep k}, s.world.ShotEnds shot timeStep k impact →
          s.world.ShotEnds shot timeStep k impact')
      fun _ _ => True := by
  have hmember := hs.projectileMember shot hshot
  simp only [land, ends_bind, ends_world]
  cases impact with
  | terrain _ =>
    simp only [ends_bind, ends_pure]
    exact ends_removeProjectile_of_member hshot hmember fun _ => ⟨rfl, .terrain, fun h => h⟩
  | outOfWorld _ =>
    simp only [ends_bind, ends_pure]
    exact ends_removeProjectile_of_member hshot hmember fun _ => ⟨rfl, .outOfWorld, fun h => h⟩
  | worm target spot killed =>
    simp only [ends_bind, ends_requireWorm, ends_setWorm, ends_ite, ends_pure]
    refine ⟨fun worm hworm => ?_, fun _ => trivial⟩
    obtain rfl := World.id_of_worm? hworm
    obtain ⟨before, after, hworms, hbefore⟩ := World.exists_append_of_worm? hworm
    let lost := min worm.hitPoints (weapon.spec s.world.config.weapons).damage
    let struck : Worm α := { worm with hitPoints := worm.hitPoints - lost }
    have hstruck : worm.damage (weapon.spec s.world.config.weapons).damage = struck := by
      have hlost : worm.hitPoints - (weapon.spec s.world.config.weapons).damage =
          worm.hitPoints - lost := by omega
      rw [Worm.damage, hlost]
    have hreplaced : World.replaceWorm struck (before ++ worm :: after) =
        before ++ struck :: after := World.replaceWorm_append rfl hbefore
    rw [hstruck, World.setWorm, hworms, hreplaced]
    refine ⟨fun hdead => ?_, fun halive => ?_⟩
    · have hnone : worm.hitPoints - lost = 0 := by
        have hle : worm.hitPoints ≤ lost := by simpa [Worm.isAlive, struck] using hdead
        omega
      have hindex : (before ++ struck :: after).findIdx? (fun other => other.id = worm.id) =
          some before.length := World.findIdx?_append_cons rfl hbefore
      simp only [killWorm, ends_bind, ends_removeWorm, ends_pure]
      refine ⟨fun _ index _ hplace => ?_, fun _ => trivial⟩
      cases hindex.symm.trans hplace
      refine ⟨fun _ _ => ?_, fun _ _ => trivial⟩
      refine ends_removeProjectile_of_member ?_ hmember fun _ => ⟨rfl, ?_, fun h => h.withKilled _⟩
      · exact hshot
      · have hkilled : struck.isAlive = false := by simpa using hdead
        have herased : (before ++ struck :: after).eraseIdx before.length = before ++ after := by
          simp [List.eraseIdx_append]
        rw [hkilled, herased]
        exact .kills hworms rfl hnone
    · have hsome : worm.hitPoints - lost ≠ 0 := by
        have hlt : lost < worm.hitPoints := by simpa [Worm.isAlive, struck] using halive
        omega
      refine ends_removeProjectile_of_member ?_ hmember fun _ => ⟨rfl, ?_, fun h => h.withKilled _⟩
      · exact hshot
      · have hkilled : struck.isAlive = true := by simpa using halive
        rw [hkilled]
        exact .wounds hworms rfl hsome

end Command

namespace Simulation

open Command

variable [Scalar α] {s : Simulation α} {shot : Projectile α}

/-- **A resolved shot.** Its impact is decided at the first sample at which its flight stops: out of
the world, on the first worm in turn order that it overlaps, on terrain at the spot before, or on
terrain there. The shot is gone then, a worm that it has struck has lost hit points, and is gone if
it has none left, and nothing else has changed. No shot strikes the worm that fired it. -/
theorem Reachable.resolved (hs : s.Reachable) (hshot : s.world.projectile = some shot)
    (timeStep : α) {impact : Impact α} {s' : Simulation α}
    (h : (resolve timeStep).carryOut s = (.ok impact, s')) :
    (∃ k, IsLeast {k | 1 ≤ k ∧ s.world.StopsShot shot timeStep k} k ∧
      s.world.ShotEnds shot timeStep k impact) ∧
    s.world.ShotLeaves shot.weapon impact s'.world ∧
    s' = { s with world := s'.world } ∧
    ∀ target spot killed, impact = .worm target spot killed → shot.owner ≠ some target := by
  rw [carryOut_resolve timeStep hshot] at h
  cases hflight : s.world.flight shot timeStep with
  | error e =>
    rw [hflight] at h
    cases h
  | ok ending =>
    obtain ⟨flown, time⟩ := ending
    rw [hflight] at h
    obtain ⟨k, hleast, hends⟩ := World.exists_shotEnds_of_flight hflight
    obtain ⟨hsame, hleaves, hlanded⟩ := (shotLeaves_land hs.sound hshot flown shot.weapon).of_ok h
    exact ⟨⟨k, hleast, hlanded hends⟩, hleaves, hsame, fun target spot killed himpact =>
      (hlanded hends).owner_ne himpact⟩

/-- The shot of a duel kills the other worm. -/
theorem resolved_duel : let s := duel.after [.fire ⟨1⟩ 100]
    ∃ shot impact s', s.world.projectile = some shot ∧
      (resolve 0.05).carryOut s = (.ok impact, s') ∧
      s'.world.order = [⟨1⟩] ∧
      (∃ k, IsLeast {k | 1 ≤ k ∧ s.world.StopsShot shot 0.05 k} k ∧
        s.world.ShotEnds shot 0.05 k impact) ∧
      s.world.ShotLeaves shot.weapon impact s'.world := by
  intro s
  have hs : s.Reachable := reachable_duel.after ⟨trivial, trivial⟩
  obtain ⟨shot, hshot⟩ : ∃ shot, s.world.projectile = some shot :=
    Option.isSome_iff_exists.mp (by decide +kernel)
  have hdone : ((resolve 0.05).carryOut s).1.isOk = true := by decide +kernel
  obtain ⟨impact, hresolved⟩ := exists_of_isOk hdone
  obtain ⟨hends, hleaves, -⟩ := hs.resolved hshot 0.05 hresolved
  exact ⟨shot, impact, _, hshot, hresolved, by decide +kernel, hends, hleaves⟩

end Simulation

end WormBattle
