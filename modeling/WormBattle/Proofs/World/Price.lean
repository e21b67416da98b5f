import WormBattle.Proofs.World.Refusal

/-!
# What actions cost

A program is quoted the cost of an action before it acts (`World.actionCost`), and the action looks
up its cost once more when it is done. The two agree (`Simulation.Reachable.quote_agrees`): what is
done was quoted, could be paid and has been paid for exactly, as far as the worm lives on and eats
nothing; what has no quote or cannot be paid is refused, and the latter leaves everything as it was.

Costs add up along the way of an action (`World.Pays.trans`): it is paid for once, and whatever
comes afterwards, eating and falling, a shot that strikes another worm, takes no action points.
-/

namespace WormBattle

variable {α β γ : Type}

namespace World

/-- From one world to the other a worm has paid some action points, unless something has been eaten
meanwhile. -/
structure Pays (id : EntityId) (cost : Nat) (w w' : World α) : Prop where
  /-- No ration has come. -/
  food : w'.food.Sublist w.food
  /-- The worm was there before, and had as many points more. -/
  points : ∀ worm' ∈ w'.worms, worm'.id = id → ∃ worm ∈ w.worms, worm.id = id ∧
    (w'.food = w.food → worm'.actionPoints + cost = worm.actionPoints)

variable {w w' w'' : World α} {worm worm' : Worm α} {id : EntityId} {cost cost' : Nat}

private theorem Pays.trans (h : Pays id cost w w') (h' : Pays id cost' w' w'') :
    Pays id (cost + cost') w w'' := by
  refine ⟨h'.food.trans h.food, fun last hlast hid => ?_⟩
  obtain ⟨middle, hmiddle, hid, hpaid'⟩ := h'.points last hlast hid
  obtain ⟨first, hfirst, hid, hpaid⟩ := h.points middle hmiddle hid
  refine ⟨first, hfirst, hid, fun hsame => ?_⟩
  -- If nothing is missing in the end, nothing was missing on the way.
  have hway : w'.food = w.food := h.food.antisymm (hsame ▸ h'.food)
  have hlate := hpaid' (hsame.trans hway.symm)
  have hearly := hpaid hway
  omega

/-- Nothing is paid when the worms that stay are as they were. -/
theorem Pays.of_subset (hworms : w'.worms ⊆ w.worms) (hfood : w'.food.Sublist w.food) :
    Pays id 0 w w' :=
  ⟨hfood, fun worm hworm hid => ⟨worm, hworms hworm, hid, fun _ => rfl⟩⟩

private theorem Pays.refl (id : EntityId) (w : World α) : Pays id 0 w w :=
  .of_subset (List.Subset.refl _) (.refl _)

/-- A worm that keeps its points pays nothing. -/
theorem Pays.of_kept (h : w.worm? worm.id = some worm) (hsame : worm'.id = worm.id)
    (hpoints : worm'.actionPoints = worm.actionPoints) : Pays id 0 w (w.setWorm worm') := by
  refine ⟨.refl _, fun x hx hid => ?_⟩
  rcases eq_or_mem_of_mem_replaceWorm hx with rfl | hx
  · exact ⟨worm, mem_of_worm? h, hsame.symm.trans hid, fun _ => hpoints⟩
  · exact ⟨x, hx, hid, fun _ => rfl⟩

/-- A worm pays. -/
theorem Pays.of_paid (hnodup : (w.worms.map Worm.id).Nodup) (h : w.worm? worm.id = some worm)
    (hsame : worm'.id = worm.id) (hpoints : worm'.actionPoints + cost = worm.actionPoints) :
    Pays worm.id cost w (w.setWorm worm') := by
  refine ⟨.refl _, fun x hx hid => ?_⟩
  have hnodup' : ((w.setWorm worm').worms.map Worm.id).Nodup := by
    rwa [setWorm, map_id_replaceWorm]
  have hlisted : worm' ∈ (w.setWorm worm').worms :=
    mem_of_worm? (worm?_setWorm_self (hsame.symm ▸ h))
  have heq : x = worm' := List.inj_on_of_nodup_map hnodup' hx hlisted (hid.trans hsame.symm)
  exact ⟨worm, mem_of_worm? h, rfl, fun _ => heq ▸ hpoints⟩

/-- A worm pays, and is then replaced once more. -/
theorem Pays.of_paid_twice {worm'' : Worm α} (hnodup : (w.worms.map Worm.id).Nodup)
    (h : w.worm? worm.id = some worm) (hsame : worm'.id = worm.id) (hsame' : worm''.id = worm.id)
    (hpoints : worm''.actionPoints + cost = worm.actionPoints) :
    Pays worm.id cost w ((w.setWorm worm').setWorm worm'') := by
  rw [setWorm_setWorm w (hsame'.trans hsame.symm)]
  exact .of_paid hnodup h hsame' hpoints

/-- What a listed worm has paid. -/
theorem Pays.actionPoints (h : Pays id cost w w') (hnodup : (w.worms.map Worm.id).Nodup)
    (hworm : w.worm? id = some worm) (hworm' : w'.worm? id = some worm')
    (hfood : w'.food = w.food) : worm'.actionPoints + cost = worm.actionPoints := by
  obtain ⟨before, hbefore, hid, hpaid⟩ := h.points worm' (mem_of_worm? hworm') (id_of_worm? hworm')
  have heq : before = worm := List.inj_on_of_nodup_map hnodup hbefore (mem_of_worm? hworm)
    (hid.trans (id_of_worm? hworm).symm)
  rw [← heq]
  exact hpaid hfood

end World

namespace Command

variable {s : Simulation α} {worm : Worm α} {id target : EntityId}

/-! ### What costs nothing -/

/-- A command takes no action points from a worm but by what it eats. -/
def Spares (id : EntityId) (c : Command α β) : Prop :=
  ∀ s, c.Ends s (fun _ s' => s.world.Pays id 0 s'.world) fun _ s' => s.world.Pays id 0 s'.world

private theorem Spares.after {c : Command α β} (h : c.Spares id) {cost : Nat} {w : World α}
    (hw : w.Pays id cost s.world) :
    c.Ends s (fun _ s' => w.Pays id cost s'.world) fun _ s' => w.Pays id cost s'.world :=
  (h s).mono (fun _ _ => hw.trans) fun _ _ => hw.trans

/-- What is known of a command that takes nothing when it comes after a payment. -/
theorem Spares.done_after {c : Command α β} (h : c.Spares id) {cost : Nat} {w : World α}
    (hw : w.Pays id cost s.world) :
    c.Ends s (fun _ s' => w.Pays id cost s'.world) fun _ _ => True :=
  (h.after hw).mono (fun _ _ hpays => hpays) fun _ _ _ => trivial

private theorem Spares.bind {c : Command α β} {f : β → Command α γ} (hc : c.Spares id)
    (hf : ∀ b, (f b).Spares id) : (c >>= f).Spares id := by
  intro s
  rw [ends_bind]
  exact (hc s).mono (fun b _ h => (hf b).after h) fun _ _ h => h

private theorem spares_pure (b : β) : (pure b : Command α β).Spares id :=
  fun _ => ends_pure.mpr (.refl _ _)

private theorem spares_removeProjectile : (removeProjectile (α := α)).Spares id := by
  intro s
  have hland : s.world.Pays id 0 { s.world with projectile := none } :=
    .of_subset (List.Subset.refl _) (.refl _)
  exact ends_removeProjectile.mpr ⟨fun _ _ => ⟨fun _ _ => hland, fun _ _ => hland⟩,
    fun _ => .refl _ _⟩

private theorem spares_killWorm (target : EntityId) : (killWorm (α := α) target).Spares id := by
  intro s
  simp only [killWorm, ends_bind, ends_removeWorm, ends_pure]
  refine ⟨fun worm index _ _ => ?_, fun _ => .refl _ _⟩
  have hgone : s.world.Pays id 0 { s.world with
      worms := s.world.worms.eraseIdx index, state := s.world.stateWithout index } :=
    .of_subset (fun _ => List.mem_of_mem_eraseIdx) (.refl _)
  exact ⟨fun _ _ => hgone, fun _ _ => hgone⟩

variable [Scalar α]

private theorem spares_eatEach (target : EntityId) (rations : List EntityId) :
    (eatEach (α := α) target rations).Spares id := by
  induction rations with
  | nil => exact spares_pure ()
  | cons ration rations ih =>
    intro s
    simp only [eatEach, ends_bind, ends_removeFood, ends_requireWorm, ends_lift, ends_setWorm]
    refine ⟨fun food hfood => ?_, fun _ => .refl _ _⟩
    have hgone : s.world.Pays id 0 { s.world with food := s.world.food.eraseP _ } :=
      .of_subset (List.Subset.refl _) (List.eraseP_sublist (p := fun f => f.id = ration))
    refine ⟨fun _ _ => ⟨fun worm hworm => ⟨fun worm' hgrow => ?_, fun _ _ => hgone⟩,
      fun _ => hgone⟩, fun _ _ => hgone⟩
    obtain ⟨-, rfl⟩ := Worm.grow_eq_ok_iff.mp hgrow
    -- A ration is missing now, so nothing is said about the points that growing may cost.
    have hfewer : s.world.food.eraseP (fun f => f.id = ration) ≠ s.world.food := by
      intro heq
      have hlength := congrArg List.length heq
      have hmem : food ∈ s.world.food := List.mem_of_find?_eq_some hfood
      have hid : food.id = ration := by simpa using List.find?_some hfood
      have hpos := List.length_pos_of_mem hmem
      rw [List.length_eraseP_of_mem hmem (by simpa using hid)] at hlength
      omega
    refine ih.after ⟨hgone.food, fun x hx hid => ?_⟩
    rcases World.eq_or_mem_of_mem_replaceWorm hx with rfl | hx
    · exact ⟨worm, World.mem_of_worm? hworm, hid, fun hsame => absurd hsame hfewer⟩
    · exact ⟨x, hx, hid, fun hsame => absurd hsame hfewer⟩

private theorem spares_eat (target : EntityId) : (eat (α := α) target).Spares id := by
  intro s
  simp only [eat, ends_bind, ends_requireWorm, ends_world, ends_pure]
  exact ⟨fun _ _ => spares_eatEach target _ s, fun _ => .refl _ _⟩

private theorem spares_fall (target : EntityId) : (fall (α := α) target).Spares id := by
  intro s
  simp only [fall, ends_bind, ends_world, ends_ite, ends_throw, ends_requireWorm, ends_lift]
  refine ⟨fun _ => .refl _ _, fun _ => ⟨fun worm hworm => ⟨fun landing _ => ?_,
    fun _ _ => .refl _ _⟩, fun _ => .refl _ _⟩⟩
  cases landing with
  | none => exact spares_killWorm target s
  | some landed =>
    simp only [ends_bind, ends_lift, ends_setWorm, ends_ite, ends_pure]
    refine ⟨fun placed hplaced => ?_, fun _ _ => .refl _ _⟩
    obtain ⟨-, rfl⟩ := Worm.setPosition_eq_ok_iff.mp hplaced
    have hlanded : s.world.Pays id 0 (s.world.setWorm (worm.fallen landed)) :=
      .of_kept (World.worm?_self hworm) rfl rfl
    exact ⟨fun _ => (spares_eat target).after hlanded,
      fun _ => (spares_killWorm target).after hlanded⟩

/-- What comes after a move. -/
theorem spares_eat_fall (target : EntityId) : (do
    let _ ← eat target
    if (← world).canFall target then fall target : Command α Unit).Spares id := by
  intro s
  simp only [ends_bind, ends_world, ends_ite, ends_pure]
  refine (spares_eat target s).mono (fun _ s' heaten => ?_) fun _ _ h => h
  exact ⟨fun _ => (spares_fall target).after heaten, fun _ => heaten⟩

omit [Scalar α] in
private theorem spares_land (impact : Impact α) (weapon : WeaponKind) :
    (land impact weapon).Spares id := by
  have hclear : ∀ impact : Impact α, (do
      let _ ← removeProjectile
      pure impact : Command α (Impact α)).Spares id :=
    fun impact => spares_removeProjectile.bind fun _ => spares_pure impact
  intro s
  simp only [land, ends_bind, ends_world]
  cases impact with
  | terrain _ | outOfWorld _ => exact ((spares_pure _).bind hclear) s
  | worm target position _ =>
    simp only [ends_bind, ends_requireWorm, ends_setWorm]
    refine ⟨fun worm hworm => ?_, fun _ => .refl _ _⟩
    have hstruck : s.world.Pays id 0 (s.world.setWorm
        (worm.damage (weapon.spec s.world.config.weapons).damage)) :=
      .of_kept (World.worm?_self hworm) rfl rfl
    rw [ends_ite]
    refine ⟨fun _ => ?_, fun _ => ((spares_pure _).bind hclear).after hstruck⟩
    exact ((spares_killWorm target).bind fun _ => (spares_pure _).bind hclear).after hstruck

end Command

/-! ### What has a price -/

namespace World

variable [Scalar α] {w w' : World α} {worm : Worm α} {id : EntityId} {action : Action α}
  {cost : Nat}

/-- An action has been done at the price that was quoted for it, and its worm could pay. -/
def PaidFor (w : World α) (id : EntityId) (action : Action α) (w' : World α) : Prop :=
  ∃ worm cost, w.worm? id = some worm ∧ w.actionCost id action = .ok cost ∧
    cost ≤ worm.actionPoints ∧ w.Pays id cost w'

/-- A worm cannot pay the price that is quoted for an action. -/
def Short (w : World α) (id : EntityId) (action : Action α) : Prop :=
  ∃ worm cost, w.worm? id = some worm ∧ w.actionCost id action = .ok cost ∧
    worm.actionPoints < cost

private theorem not_short (hworm : w.worm? id = some worm)
    (hquote : w.actionCost id action = .ok cost)
    (hpay : cost ≤ worm.actionPoints) : ¬w.Short id action := by
  rintro ⟨worm', cost', hworm', hquote', hshort⟩
  cases hworm.symm.trans hworm'
  cases hquote.symm.trans hquote'
  omega

end World

namespace Command

variable [Scalar α] {s s₁ : Simulation α} {worm : Worm α} {id : EntityId} {action : Action α}
  {cost : Nat}

/-- An action is done at the price that was quoted for it, and if its worm cannot pay, nothing is
done. -/
def Priced (c : Command α Unit) (s : Simulation α) (id : EntityId) (action : Action α) : Prop :=
  c.Ends s (fun _ s' => s.world.PaidFor id action s'.world)
    fun _ s' => s.world.Short id action → s' = s

/-- Once it is known that the worm can pay, it only matters how the action is done. -/
theorem ends_of_payable {c : Command α β} (hworm : s.world.worm? id = some worm)
    (hquote : s.world.actionCost id action = .ok cost) (hpay : cost ≤ worm.actionPoints)
    (h : c.Ends s₁ (fun _ s' => s.world.Pays id cost s'.world) fun _ _ => True) :
    c.Ends s₁ (fun _ s' => s.world.PaidFor id action s'.world)
      fun _ s' => s.world.Short id action → s' = s :=
  h.mono (fun _ _ hpaid => ⟨worm, cost, hworm, hquote, hpay, hpaid⟩)
    fun _ _ _ hshort => absurd hshort (World.not_short hworm hquote hpay)

private theorem priced_turn (hs : s.world.Sound) (id : EntityId) (angle : α) :
    (turn id angle).Priced s id (.turn angle) := by
  simp only [Priced, turn, ends_bind, ends_requireWorm, ends_lift, ends_setWorm]
  refine ⟨fun worm hworm => ⟨fun worm' hturn => ?_, fun _ _ _ => trivial⟩, fun _ _ => trivial⟩
  obtain ⟨cost, hcost, hpay, rfl⟩ := Worm.turn_eq_ok_iff.mp hturn
  obtain rfl := World.id_of_worm? hworm
  have hquote : s.world.actionCost worm.id (.turn angle) = .ok cost := by
    simp [World.actionCost, World.requireWorm, hworm, hcost]
  exact ⟨worm, cost, hworm, hquote, hpay, .of_paid hs.nodup hworm rfl (Nat.sub_add_cancel hpay)⟩

private theorem priced_selectNextWeapon (s : Simulation α) (id : EntityId) :
    (selectNextWeapon id).Priced s id .toggleWeapon := by
  simp only [Priced, selectNextWeapon, ends_bind, ends_requireWorm, ends_setWorm]
  refine ⟨fun worm hworm => ?_, fun _ _ => trivial⟩
  have hquote : s.world.actionCost id .toggleWeapon = .ok 0 := by
    simp [World.actionCost, World.requireWorm, hworm]
  exact ⟨worm, 0, hworm, hquote, Nat.zero_le _, .of_kept (World.worm?_self hworm) rfl rfl⟩

private theorem priced_move (hs : s.world.Sound) (id : EntityId) : (move id).Priced s id .move := by
  simp only [Priced, move, ends_bind, ends_world, ends_lift, ends_requireWorm, ends_setWorm]
  refine ⟨?_, fun _ _ _ => trivial⟩
  rintro ⟨target, cost⟩ hplan
  refine ⟨fun worm hworm => ⟨fun _ _ => ⟨fun paid hpaid => ?_, fun _ _ _ => trivial⟩,
    fun _ _ _ => trivial⟩, fun _ _ => trivial⟩
  obtain ⟨hpay, rfl⟩ := Worm.spend_eq_ok_iff.mp hpaid
  obtain rfl := World.id_of_worm? hworm
  have hquote : s.world.actionCost worm.id .move = .ok cost := by
    simp [World.actionCost, World.requireWorm, hworm, hplan]
  refine ⟨fun placed hplaced => ?_,
    fun _ _ hshort => absurd hshort (World.not_short hworm hquote hpay)⟩
  obtain ⟨-, rfl⟩ := Worm.setPosition_eq_ok_iff.mp hplaced
  have hmoved : s.world.Pays worm.id cost ((s.world.setWorm (worm.paid cost)).setWorm
      ((worm.paid cost).placed target)) :=
    .of_paid_twice hs.nodup hworm rfl rfl (Nat.sub_add_cancel hpay)
  -- What follows the payment, eating and falling, takes no more points.
  refine ends_of_payable hworm hquote hpay ?_
  rw [ends_ite]
  exact ⟨fun _ => (spares_eat_fall worm.id).done_after hmoved,
    fun _ => (spares_killWorm worm.id).done_after hmoved⟩

private theorem priced_jump (hs : s.world.Sound) (id : EntityId) : (jump id).Priced s id .jump := by
  simp only [Priced, jump, jumpWith, ends_bind, ends_world, ends_lift]
  refine ⟨fun _ _ => ?_, fun _ _ _ => trivial⟩
  split
  · rename_i landing htarget
    obtain ⟨-, worm, hworm, hpoints, -⟩ := World.jumpTarget?_eq_some htarget
    obtain rfl := World.id_of_worm? hworm
    have hquote : s.world.actionCost worm.id .jump = .ok worm.actionPoints := by
      simp [World.actionCost, World.requireWorm, hworm, hpoints, World.canJump, htarget]
    refine ends_of_payable hworm hquote le_rfl ?_
    simp only [ends_bind, ends_requireWorm, ends_setWorm, ends_lift, hworm]
    simp only [Option.some.injEq, forall_eq', implies_true, and_true]
    intro placed hplaced
    obtain ⟨-, rfl⟩ := Worm.setPosition_eq_ok_iff.mp hplaced
    let jumped : World α :=
      (s.world.setWorm worm.drain).setWorm (worm.drain.placed landing.position)
    have hjumped : s.world.Pays worm.id worm.actionPoints jumped :=
      .of_paid_twice hs.nodup hworm rfl rfl (Nat.zero_add _)
    cases landing with
    | exit _ _ => exact (spares_killWorm worm.id).done_after hjumped
    | ground _ _ =>
      exact ((spares_eat worm.id).bind fun _ => spares_pure ()).done_after hjumped
  · exact fun _ => rfl

/-- A shot that its worm can pay for is paid for when it is launched. -/
theorem pays_launch (hs : s.world.Sound) (hworm : s.world.worm? worm.id = some worm)
    (projectile : Projectile α) (hpay : cost ≤ worm.actionPoints) :
    (launch worm.id projectile cost).Ends s (fun _ s' => s.world.Pays worm.id cost s'.world)
      fun _ _ => True := by
  refine (launched_or_same hs hworm projectile hpay).mono (fun _ s' hlaunched => ?_)
    fun _ _ _ => trivial
  obtain ⟨p, hlaunched⟩ := hlaunched
  have hpays : s.world.Pays worm.id cost (s.world.setWorm (worm.paid cost)) :=
    .of_paid hs.nodup hworm rfl (Nat.sub_add_cancel hpay)
  rw [hlaunched]
  exact ⟨hpays.food, hpays.points⟩

private theorem priced_fire (hs : s.world.Sound) (id : EntityId) (yieldPercent : Nat)
    (timeStep : α) :
    (do let _ ← fireAndResolve id yieldPercent timeStep : Command α Unit).Priced s id
      (.fire yieldPercent) := by
  simp only [Priced, fireAndResolve, aim, ends_bind, ends_world, ends_lift, ends_requireWorm,
    ends_ite, ends_throw, ends_mint, ends_pure]
  refine ⟨fun cost hcost => ⟨fun worm hworm => ⟨fun _ _ => trivial, fun hpay =>
    ⟨fun projectile _ => ?_, fun _ _ _ => trivial⟩⟩, fun _ _ => trivial⟩, fun _ _ _ => trivial⟩
  have hpay : cost ≤ worm.actionPoints := Nat.le_of_not_lt hpay
  obtain rfl := World.id_of_worm? hworm
  have hquote : s.world.actionCost worm.id (.fire yieldPercent) = .ok cost := by
    simp [World.actionCost, World.requireWorm, hworm, hcost]
  refine ⟨?_, fun _ _ hshort => absurd hshort (World.not_short hworm hquote hpay)⟩
  rintro ⟨impact, time⟩ -
  let aimed : Simulation α := { s with ids := ⟨s.ids.next + 1⟩ }
  have hshot : (do
      let _ ← launch worm.id projectile cost
      land impact projectile.weapon : Command α (Impact α)).Ends aimed
      (fun _ s' => s.world.Pays worm.id cost s'.world) fun _ _ => True := by
    rw [ends_bind]
    exact (pays_launch (s := aimed) hs hworm projectile hpay).mono
      (fun _ _ hpays => (spares_land impact _).done_after hpays) fun _ _ h => h
  exact ends_bind.mp (ends_of_payable hworm hquote hpay hshot)

private theorem priced_act (hs : s.world.Sound) (id : EntityId) (action : Action α) :
    (act id action).Priced s id action := by
  cases action with
  | turn angle => exact priced_turn hs id angle
  | move => exact priced_move hs id
  | jump => exact priced_jump hs id
  | fire yieldPercent => exact priced_fire hs id yieldPercent s.world.config.timeStep
  | toggleWeapon => exact priced_selectNextWeapon s id

end Command

namespace Simulation

variable [Scalar α] {s : Simulation α}

open Command

/-- **The quoted cost of an action is what it costs.** An action that is done was quoted at a cost
that its worm could pay, and if the worm lives on and nothing has been eaten, it has paid just that.
An action without a quote is refused. So is one that its worm cannot pay for, and then nothing is
done. -/
theorem Reachable.quote_agrees (hs : s.Reachable) (id : EntityId) (action : Action α) :
    (∀ s', (act id action).carryOut s = (.ok (), s') →
      ∃ worm cost, s.world.worm? id = some worm ∧ s.world.actionCost id action = .ok cost ∧
        cost ≤ worm.actionPoints ∧
        ∀ worm', s'.world.worm? id = some worm' → s'.world.food = s.world.food →
          worm'.actionPoints + cost = worm.actionPoints) ∧
    (∀ e, s.world.actionCost id action = .error e →
      ∃ e' s', (act id action).carryOut s = (.error e', s')) ∧
    ∀ worm cost, s.world.worm? id = some worm → s.world.actionCost id action = .ok cost →
      worm.actionPoints < cost → ∃ e, (act id action).carryOut s = (.error e, s) := by
  have hs := hs.sound
  have hpriced := priced_act hs id action
  refine ⟨fun s' hdone => ?_, fun e hquote => ?_, fun worm cost hworm hquote hshort => ?_⟩
  · obtain ⟨worm, cost, hworm, hquote, hpay, hpays⟩ := hpriced.of_ok hdone
    refine ⟨worm, cost, hworm, hquote, hpay, fun worm' hworm' hfood => ?_⟩
    exact hpays.actionPoints hs.nodup hworm hworm' hfood
  · rcases hc : (act id action).carryOut s with ⟨e' | _, s'⟩
    · exact ⟨e', s', rfl⟩
    · obtain ⟨-, cost, -, hquote', -⟩ := hpriced.of_ok hc
      cases hquote.symm.trans hquote'
  · have hshort : s.world.Short id action := ⟨worm, cost, hworm, hquote, hshort⟩
    rcases hc : (act id action).carryOut s with ⟨e | _, s'⟩
    · rw [hpriced.of_error hc hshort]
      exact ⟨e, rfl⟩
    · obtain ⟨worm', cost', hworm', hquote', hpay, -⟩ := hpriced.of_ok hc
      exact absurd hshort (World.not_short hworm' hquote' hpay)

/-- A worm for which turning is dear. -/
def dearTurns : Simulation Rat :=
  let config : GameConfig Rat :=
    { (default : GameConfig Rat) with
      worm := { (default : WormConfig Rat) with turnCostFullCircle := 6000 } }
  let start : Simulation Rat := { world := .fresh ⟨1⟩ (.empty 100 100) config, ids := ⟨2⟩ }
  start.after [.addWorm (.fresh "Ann" ⟨5, 5⟩ 0 0.5 config.worm ⟨1⟩)]

private theorem reachable_dearTurns : dearTurns.Reachable := by
  refine (Reachable.onGrid ⟨2⟩ (World.onGrid_eq_ok_iff.mpr ⟨?_, rfl⟩)).after
    ⟨⟨.make (Worm.make_eq_ok_iff.mpr ⟨?_, ?_, ?_, rfl⟩), ?_⟩, trivial⟩
  all_goals decide +kernel

/-- It turns a little and pays for it, and it cannot pay for a larger turn. -/
theorem quote_agrees_dearTurns :
    (∃ worm cost s', dearTurns.world.worm? ⟨1⟩ = some worm ∧
      dearTurns.world.actionCost ⟨1⟩ (.turn 0.1) = .ok cost ∧
      (act ⟨1⟩ (.turn 0.1)).carryOut dearTurns = (.ok (), s') ∧
      ∀ worm', s'.world.worm? ⟨1⟩ = some worm' → worm'.actionPoints + cost = worm.actionPoints) ∧
    ∃ e, (act ⟨1⟩ (.turn 1)).carryOut dearTurns = (.error e, dearTurns) := by
  have hdone : ((act ⟨1⟩ (.turn 0.1)).carryOut dearTurns).1.isOk = true := by decide +kernel
  have hfood : ((act ⟨1⟩ (.turn 0.1)).carryOut dearTurns).2.world.food = [] := by decide +kernel
  have hnone : dearTurns.world.food = [] := by decide +kernel
  have hshort : (dearTurns.world.worm? ⟨1⟩).any (fun worm =>
      (dearTurns.world.actionCost ⟨1⟩ (.turn 1)).toOption.any
        fun cost => decide (worm.actionPoints < cost)) = true := by decide +kernel
  refine ⟨?_, ?_⟩
  · rcases hc : (act ⟨1⟩ (.turn 0.1)).carryOut dearTurns with ⟨_ | ⟨⟩, s'⟩
    · rw [hc] at hdone
      cases hdone
    · rw [hc] at hfood
      obtain ⟨worm, cost, hworm, hquote, -, hpaid⟩ :=
        (reachable_dearTurns.quote_agrees ⟨1⟩ (.turn 0.1)).1 s' hc
      exact ⟨worm, cost, s', hworm, hquote, rfl,
        fun worm' hworm' => hpaid worm' hworm' (hfood.trans hnone.symm)⟩
  · obtain ⟨worm, hworm, hshort⟩ := (Option.any_eq_true _ _).mp hshort
    obtain ⟨cost, hquote, hshort⟩ := (Option.any_eq_true _ _).mp hshort
    refine (reachable_dearTurns.quote_agrees ⟨1⟩ (.turn 1)).2.2 worm cost hworm ?_
      (of_decide_eq_true hshort)
    rcases h : dearTurns.world.actionCost ⟨1⟩ (.turn 1) with e | cost'
    · rw [h] at hquote
      cases hquote
    · rw [h] at hquote
      cases hquote
      rfl

end Simulation

end WormBattle
