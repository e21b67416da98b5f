import WormBattle.Proofs.Scalar.Rational
import WormBattle.Proofs.World.Stuck

/-!
# Refused actions

Turning, selecting a weapon and all that has to do with shots never gets stuck, so the actions that
do are known: `Operation.torn_iff` says exactly when an action that is refused leaves a trace. A
worm that is refused an action stays listed in any case (`Command.sameWorms_act`).
-/

namespace WormBattle

variable {α : Type} [Scalar α]

private theorem Projectile.of_make {muzzle : Position α} {direction : α} {weapon : WeaponKind}
    {yieldPercent : Nat} {config : WeaponConfig α} {owner : Option EntityId} {id : EntityId}
    {p : Projectile α} (h : make muzzle direction weapon yieldPercent config owner id = .ok p) :
    p.owner = owner ∧ p.weapon = weapon ∧ p.id = id ∧ p.body.membership = .detached := by
  rw [make, bind_eq_ok_iff] at h
  obtain ⟨_, -, h⟩ := h
  by_cases hdirection : Angle.isDirection direction = true
  · simp only [hdirection, Bool.not_true, Bool.false_eq_true, if_false,
      bind_eq_ok_iff] at h
    obtain ⟨_, hbody, h⟩ := h
    obtain ⟨-, -, -, rfl⟩ := Body.make_eq_ok_iff.mp hbody
    cases h
    exact ⟨rfl, rfl, rfl, rfl⟩
  · simp only [hdirection, Bool.not_false, if_true] at h
    cases h

/-- The world after a worm has paid for a shot that is in flight. -/
def World.launched (w : World α) (worm : Worm α) (cost : Nat) (projectile : Projectile α) :
    World α :=
  { w.setWorm (worm.paid cost) with projectile := some projectile }

omit [Scalar α] in
private theorem World.SameWorms.launched {w : World α} {worm : Worm α}
    (h : w.worm? worm.id = some worm)
    (cost : Nat) (projectile : Projectile α) : w.SameWorms (w.launched worm cost projectile) := by
  have hpaid : w.SameWorms (w.setWorm (worm.paid cost)) := .setWorm h rfl
  exact ⟨hpaid.id, hpaid.state, hpaid.worms⟩

namespace Command

variable {s : Simulation α} {worm : Worm α} {id : EntityId}

/-! ### What never gets stuck -/

private theorem torn_turn (s : Simulation α) (id : EntityId) (angle : α) :
    (turn id angle).TornIff s False := by
  simp only [TornIff, turn, ends_bind, ends_requireWorm, ends_lift, ends_setWorm]
  exact ⟨fun _ _ => ⟨fun _ _ => not_false, fun _ _ => untouched rfl not_false⟩,
    fun _ => untouched rfl not_false⟩

omit [Scalar α] in
private theorem torn_selectNextWeapon (s : Simulation α) (id : EntityId) :
    (selectNextWeapon id).TornIff s False := by
  simp only [TornIff, selectNextWeapon, ends_bind, ends_requireWorm, ends_setWorm]
  exact ⟨fun _ _ => not_false, fun _ => untouched rfl not_false⟩

/-- Aiming only uses up a number. A worm that has aimed can pay for the shot, which is its own and
has that number. -/
theorem ends_aim (s : Simulation α) (id : EntityId) (yieldPercent : Nat) :
    (aim id yieldPercent).Ends s
      (fun shot s' => s' = { s with ids := ⟨s.ids.next + 1⟩ } ∧ ∃ worm,
        s.world.worm? id = some worm ∧ shot.2 ≤ worm.actionPoints ∧ shot.1.owner = some id ∧
        shot.1.weapon = worm.weapon ∧ shot.1.id = ⟨s.ids.next⟩ ∧
        shot.1.body.membership = .detached)
      fun _ s' => s' = s := by
  simp only [aim, ends_bind, ends_world, ends_lift, ends_requireWorm, ends_ite, ends_throw,
    ends_mint, ends_pure]
  refine ⟨fun cost _ => ⟨fun worm hworm => ⟨fun _ => trivial, fun hpay => ?_⟩, fun _ => trivial⟩,
    fun _ _ => trivial⟩
  refine ⟨fun projectile hmake => ?_, fun _ _ => trivial⟩
  exact ⟨trivial, worm, hworm, Nat.le_of_not_lt hpay, Projectile.of_make hmake⟩

/-- A projectile that may enter is put into flight in place of any other, and otherwise nothing is
done. -/
theorem ends_setProjectile (hs : s.world.Sound) {projectile : Projectile α}
    {done : EntityId → Simulation α → Prop} {refused : Error α → Simulation α → Prop} :
    (setProjectile projectile).Ends s done refused ↔
      (s.world.checkRegistrable projectile.body = .ok () →
        (∀ body, projectile.body.attach s.world.id = .ok body → done projectile.id
          { s with world := { s.world with projectile := some { projectile with body } } }) ∧
        ∀ e, projectile.body.attach s.world.id = .error e → refused e s) ∧
      ∀ e, s.world.checkRegistrable projectile.body = .error e → refused e s := by
  simp only [setProjectile, ends_bind, ends_world, ends_lift]
  cases hold : s.world.projectile with
  | none =>
    simp only [Option.isSome_none, Bool.false_eq_true, if_false, ends_bind, ends_modifyWorld,
      ends_pure]
    exact and_congr_left' ⟨fun h => h (), fun h _ => h⟩
  | some old =>
    -- Taking the old projectile out could be refused only if the world did not list it.
    have hgone := Body.terminate_detach (hs.projectileMember old hold)
    simp only [Option.isSome_some, if_true, ends_bind, ends_removeProjectile, ends_modifyWorld,
      ends_pure, hold, Option.some.injEq, forall_eq', hgone, Except.ok.injEq, reduceCtorEq,
      false_implies, implies_true, and_true]
    exact and_congr_left' ⟨fun h => h (), fun h _ => h⟩

/-- A shot that can be paid for is launched if it may enter, and otherwise nothing is done. -/
theorem ends_launch (hs : s.world.Sound) (hworm : s.world.worm? id = some worm)
    {projectile : Projectile α} {cost : Nat} (hpay : cost ≤ worm.actionPoints)
    {done : EntityId → Simulation α → Prop} {refused : Error α → Simulation α → Prop} :
    (launch id projectile cost).Ends s done refused ↔
      (s.world.checkRegistrable projectile.body = .ok () →
        (∀ body, projectile.body.attach s.world.id = .ok body → done projectile.id
          { s with world := s.world.launched worm cost { projectile with body } }) ∧
        ∀ e, projectile.body.attach s.world.id = .error e → refused e s) ∧
      ∀ e, s.world.checkRegistrable projectile.body = .error e → refused e s := by
  have hfound : ∀ p : Option (Projectile α),
      { s.world with projectile := p }.worm? id = some worm := fun _ => hworm
  simp only [launch, ends_bind, ends_setProjectile hs, ends_requireWorm, hfound, ends_lift,
    Option.some.injEq, forall_eq', Worm.spend_eq_ok hpay, Except.ok.injEq, reduceCtorEq,
    false_implies, implies_true, and_true, ends_setWorm, ends_pure]
  rfl

/-- A shot that can be paid for is launched, or nothing is done. -/
theorem launched_or_same (hs : s.world.Sound) (hworm : s.world.worm? id = some worm)
    (projectile : Projectile α) {cost : Nat} (hpay : cost ≤ worm.actionPoints) :
    (launch id projectile cost).Ends s
      (fun _ s' => ∃ p, s'.world = s.world.launched worm cost p)
      fun _ s' => s'.world = s.world :=
  (ends_launch hs hworm hpay).mpr
    ⟨fun _ => ⟨fun _ _ => ⟨_, rfl⟩, fun _ _ => rfl⟩, fun _ _ => rfl⟩

/-- A flight that has struck a listed worm, or none, comes to its end. -/
theorem ends_land (hs : s.world.Sound) {projectile : Projectile α}
    (hprojectile : s.world.projectile = some projectile) {impact : Impact α}
    (htarget : ∀ target position killed, impact = .worm target position killed →
      ∃ worm, s.world.worm? target = some worm) (weapon : WeaponKind) :
    (land impact weapon).Ends s (fun _ _ => True) fun _ _ => False := by
  have hclear : ∀ s' : Simulation α, s'.world.projectile = some projectile →
      removeProjectile.Ends s' (fun _ _ => True) fun _ _ => False := by
    intro s' hflying
    simp only [ends_removeProjectile, hflying]
    refine ⟨fun p hp => ⟨fun _ _ => trivial, fun e he => ?_⟩, fun hnone => by cases hnone⟩
    cases hp
    rw [Body.terminate_detach (hs.projectileMember projectile hprojectile)] at he
    cases he
  simp only [land, ends_bind, ends_world]
  cases impact with
  | terrain _ | outOfWorld _ =>
    simp only [ends_bind, ends_pure]
    exact hclear s hprojectile
  | worm target position killed =>
    obtain ⟨worm, hworm⟩ := htarget target position killed rfl
    obtain rfl := World.id_of_worm? hworm
    simp only [ends_bind, ends_requireWorm, ends_setWorm, ends_ite, ends_pure]
    refine ⟨fun worm' hworm' => ?_, fun hnone => by cases hworm.symm.trans hnone⟩
    cases hworm.symm.trans hworm'
    let struck := worm.damage (weapon.spec s.world.config.weapons).damage
    let s₁ : Simulation α := { s with world := s.world.setWorm struck }
    have hstruck : s₁.world.worm? struck.id = some struck := World.worm?_setWorm_self hworm
    have hs₁ : s₁.world.Sound := hs.setWorm hworm (.damage _)
    refine ⟨fun _ => ?_, fun _ => hclear s₁ hprojectile⟩
    refine (ends_killWorm hs₁ hstruck).mono (fun _ s' hkept => ?_) fun _ _ h => h
    exact hclear s' (hkept.2.trans hprojectile)

private theorem torn_fire (hs : s.world.Sound) (id : EntityId) (yieldPercent : Nat) :
    (fire id yieldPercent).TornIff s False := by
  rw [TornIff, fire, ends_bind]
  refine (ends_aim s id yieldPercent).mono ?_ fun _ _ hsame => untouched (hsame ▸ rfl) not_false
  rintro ⟨projectile, cost⟩ _ ⟨rfl, worm, hworm, hpay, -⟩
  let aimed : Simulation α := { s with ids := ⟨s.ids.next + 1⟩ }
  exact (launched_or_same (s := aimed) hs hworm projectile hpay).mono (fun _ _ _ => not_false)
    fun _ _ hsame => untouched hsame not_false

private theorem torn_resolve (hs : s.world.Sound) (timeStep : α) :
    (resolve timeStep).TornIff s False := by
  simp only [TornIff, resolve, ends_bind, ends_world, ends_lift]
  refine ⟨fun projectile hprojectile => ⟨?_, fun _ _ => untouched rfl not_false⟩,
    fun _ _ => untouched rfl not_false⟩
  rintro ⟨impact, time⟩ hflight
  have hflying : s.world.projectile = some projectile := by
    rw [World.requireProjectile] at hprojectile
    split at hprojectile
    · rename_i p hp
      cases hprojectile
      exact hp
    · cases hprojectile
  have hlisted : ∀ target position killed, impact = .worm target position killed →
      ∃ worm, s.world.worm? target = some worm := by
    rintro target position killed rfl
    exact World.exists_worm_of_flight hflight
  exact (ends_land hs hflying hlisted _).mono (fun _ _ _ => not_false) fun _ _ h => h.elim

/-- A shot with its flight is never torn. -/
theorem torn_fireAndResolve (hs : s.world.Sound) (id : EntityId) (yieldPercent : Nat)
    (timeStep : α) : (fireAndResolve id yieldPercent timeStep).TornIff s False := by
  rw [TornIff, fireAndResolve, ends_bind]
  refine (ends_aim s id yieldPercent).mono ?_ fun _ _ hsame => untouched (hsame ▸ rfl) not_false
  rintro ⟨projectile, cost⟩ _ ⟨rfl, worm, hworm, hpay, -⟩
  let aimed : Simulation α := { s with ids := ⟨s.ids.next + 1⟩ }
  simp only [ends_bind, ends_world, ends_lift]
  refine ⟨?_, fun _ _ => untouched rfl not_false⟩
  rintro ⟨impact, time⟩ hflight
  have halters : (launch id projectile cost).Alters .leaving := alters_launch id projectile cost
  refine ((launched_or_same (s := aimed) hs hworm projectile hpay).and (halters aimed)).mono
    ?_ fun _ _ h => untouched h.1 not_false
  rintro _ s₂ ⟨⟨p, hlaunched⟩, hchanges⟩
  have hkept : s.world.SameWorms s₂.world := hlaunched ▸ .launched (World.worm?_self hworm) cost p
  have hp : s₂.world.projectile = some p := hlaunched ▸ rfl
  refine (ends_land (hs.changes hchanges) hp ?_ _).mono (fun _ _ _ => not_false)
    fun _ _ h => h.elim
  -- The flight was followed before the launch, which has kept all worms.
  rintro target position killed rfl
  obtain ⟨struck, hstruck⟩ := World.exists_worm_of_flight hflight
  obtain ⟨struck', hstruck', -⟩ := hkept.worm? hstruck
  exact ⟨struck', hstruck'⟩

/-- A worm that is refused an action stays listed, and so do all others. -/
theorem sameWorms_act (hs : s.world.Sound) (id : EntityId) (action : Action α) :
    (act id action).Ends s (fun _ _ => True) fun _ s' => s.world.SameWorms s'.world := by
  have hkeep : ∀ {β : Type} {c : Command α β} {stuck : Prop}, c.TornIff s stuck →
      c.Ends s (fun _ _ => True) fun _ s' => s.world.SameWorms s'.world :=
    fun h => h.mono (fun _ _ _ => trivial) fun _ _ h => h.1
  cases action with
  | turn angle => exact hkeep (torn_turn s id angle)
  | move => exact hkeep (torn_move hs id)
  | jump => exact hkeep (torn_jump hs id)
  | fire yieldPercent =>
    simp only [act, ends_bind, ends_world, ends_pure]
    exact hkeep (torn_fireAndResolve hs id yieldPercent s.world.config.timeStep)
  | toggleWeapon => exact hkeep (torn_selectNextWeapon s id)

end Command

namespace Operation

/-- The actions of worms and of their shots. -/
def IsAction : Operation α → Prop
  | turn .. | selectNextWeapon _ | move _ | fall _ | eat _ | jump _ | jumpWith .. | fire ..
  | fireAndResolve .. | resolve _ => True
  | _ => False

/-- An action gets stuck in a world. -/
def Stuck (w : World α) : Operation α → Prop
  | move id => w.MoveStuck id
  | fall id => w.FallStuck id
  | eat id => ∃ worm, w.worm? id = some worm ∧ w.Chokes worm
  | jump id => w.JumpStuck id w.config.timeStep
  | jumpWith id timeStep => w.JumpStuck id timeStep
  | _ => False

open Command

/-- **Exactly the actions that get stuck leave a trace when they are refused.** Any other action
that is refused leaves the world as it was. -/
theorem torn_iff {s : Simulation α} (hs : s.Reachable) {op : Operation α} (hop : op.IsAction) :
    (∃ e s', op.command.carryOut s = (.error e, s') ∧ s'.world ≠ s.world) ↔ op.Stuck s.world := by
  have hs := hs.sound
  have hignore : ∀ {β : Type} {c : Command α β} {stuck : Prop}, c.TornIff s stuck →
      (do let _ ← c : Command α Unit).TornIff s stuck := by
    intro β c stuck h
    rw [TornIff, ends_bind]
    exact h
  cases op with
  | turn id angle => exact (torn_turn s id angle).iff
  | selectNextWeapon id => exact (torn_selectNextWeapon s id).iff
  | move id => exact (torn_move hs id).iff
  | fall id => exact (torn_fall hs id).iff
  | eat id => exact (hignore (torn_eat hs id)).iff
  | jump id => exact (torn_jump hs id).iff
  | jumpWith id timeStep => exact (torn_jumpWith hs id timeStep).iff
  | fire id yieldPercent => exact (hignore (torn_fire hs id yieldPercent)).iff
  | fireAndResolve id yieldPercent timeStep =>
    exact (hignore (torn_fireAndResolve hs id yieldPercent timeStep)).iff
  | resolve timeStep => exact (hignore (torn_resolve hs timeStep)).iff
  | _ => exact hop.elim

/-- A worm that stands on a ration, in a world where rations make worms shrink. -/
def shrinkingFeast : Simulation Rat :=
  let config : GameConfig Rat :=
    { (default : GameConfig Rat) with
      worm := { (default : WormConfig Rat) with growthFactor := 0.1 } }
  let start : Simulation Rat := { world := .fresh ⟨1⟩ (.empty 100 100) config, ids := ⟨3⟩ }
  start.after [.addWorm (.fresh "Ann" ⟨5, 5⟩ 0 0.5 config.worm ⟨1⟩),
    .addFood ⟨⟨⟨2⟩, ⟨5, 5⟩, 0.2, leastRadius, .detached⟩⟩]

private theorem reachable_shrinkingFeast : shrinkingFeast.Reachable := by
  refine (Simulation.Reachable.onGrid ⟨3⟩ (World.onGrid_eq_ok_iff.mpr ⟨?_, rfl⟩)).after
    ⟨⟨.make (Worm.make_eq_ok_iff.mpr ⟨?_, ?_, ?_, rfl⟩), ?_⟩, ?_, trivial⟩
  case refine_6 =>
    show 2 < _
    decide +kernel
  all_goals decide +kernel

/-- A worm that would shrink below the least radius by eating: the ration is gone, and the meal
refused. -/
theorem torn_shrinkingFeast :
    (Operation.eat ⟨1⟩ : Operation Rat).Stuck shrinkingFeast.world ∧ ∃ e s',
      (Operation.eat ⟨1⟩).command.carryOut shrinkingFeast = (.error e, s') ∧
        s'.world ≠ shrinkingFeast.world := by
  have hstuck : (Operation.eat ⟨1⟩ : Operation Rat).Stuck shrinkingFeast.world := by
    have hany : (shrinkingFeast.world.worm? ⟨1⟩).any
        (fun worm => decide (shrinkingFeast.world.Chokes worm)) = true := by decide +kernel
    simpa [Stuck, Option.any_eq_true] using hany
  have haction : (Operation.eat ⟨1⟩ : Operation Rat).IsAction := trivial
  exact ⟨hstuck, (torn_iff reachable_shrinkingFeast haction).mpr hstuck⟩

/-- Not every refused action leaves the world as it was: a ration may be gone. -/
theorem not_all_untouched : ¬∀ (s : Simulation Rat) (op : Operation Rat), s.Reachable →
    op.IsAction → ∀ e s', op.command.carryOut s = (.error e, s') → s'.world = s.world := by
  intro h
  have hrefused : ((Operation.eat ⟨1⟩).command.carryOut shrinkingFeast).1.isOk = false := by
    decide +kernel
  have hfewer : ((Operation.eat ⟨1⟩).command.carryOut shrinkingFeast).2.world.food.length ≠
      shrinkingFeast.world.food.length := by decide +kernel
  rcases hc : (Operation.eat ⟨1⟩).command.carryOut shrinkingFeast with ⟨e | _, s'⟩
  · have hsame := h shrinkingFeast (.eat ⟨1⟩) reachable_shrinkingFeast trivial e s' hc
    rw [hc, hsame] at hfewer
    exact hfewer rfl
  · rw [hc] at hrefused
    cases hrefused

end Operation

end WormBattle
