import WormBattle.Proofs.World.Refusal
import WormBattle.Proofs.World.Registered

/-!
# Numbers

Every number that a world lists has been handed out before (`Simulation.Numbered`), so an entity
that is made under the next number is new to the world. Numbers are handed out in order, and nothing
takes one back: what a world lists at the end of a command was listed before, or has a number that
was handed out by then (`Simulation.Numbering`), as long as what is added from outside had one.
-/

namespace WormBattle

variable {α β γ : Type}

namespace World

variable {w w' : World α} {id : EntityId}

/-- A number is listed if a worm, a ration or the projectile has it. -/
theorem mem_ids_iff : id ∈ w.ids ↔ id ∈ w.worms.map Worm.id ∨ id ∈ w.food.map Food.id ∨
    ∃ p, w.projectile = some p ∧ p.id = id := by
  rw [ids_eq, List.mem_append, List.mem_append, or_assoc, Option.mem_toList]
  simp

end World

namespace Simulation

variable {s s' s'' : Simulation α}

/-- What the world lists has been numbered before. -/
def Numbered (s : Simulation α) : Prop :=
  ∀ id ∈ s.world.ids, id.value < s.ids.next

/-- What is listed has been listed before or has been numbered by now. -/
structure Numbering (s s' : Simulation α) : Prop where
  next_le : s.ids.next ≤ s'.ids.next
  ids : ∀ id ∈ s'.world.ids, id ∈ s.world.ids ∨ id.value < s'.ids.next

/-- Numbering goes on from where it is. -/
@[refl] theorem Numbering.refl (s : Simulation α) : s.Numbering s :=
  ⟨Nat.le_refl _, fun _ hid => .inl hid⟩

private theorem Numbering.trans (h : s.Numbering s') (h' : s'.Numbering s'') : s.Numbering s'' := by
  refine ⟨h.next_le.trans h'.next_le, fun id hid => ?_⟩
  rcases h'.ids id hid with hid | hlt
  · exact (h.ids id hid).imp_right fun hlt => hlt.trans_le h'.next_le
  · exact .inr hlt

private theorem Numbering.of_subset (hids : s'.world.ids ⊆ s.world.ids)
    (hnext : s.ids.next ≤ s'.ids.next) : s.Numbering s' :=
  ⟨hnext, fun _ hid => .inl (hids hid)⟩

private theorem Numbered.numbering (h : s.Numbered) (h' : s.Numbering s') : s'.Numbered := by
  intro id hid
  rcases h'.ids id hid with hid | hlt
  · exact (h id hid).trans_le h'.next_le
  · exact hlt

private theorem Numbering.setWorm (s : Simulation α) (worm : Worm α) :
    s.Numbering { s with world := s.world.setWorm worm } :=
  .of_subset (fun _ hid => World.ids_setWorm s.world worm ▸ hid) (Nat.le_refl _)

/-- A number has been handed out. -/
theorem Numbering.mint (s : Simulation α) : s.Numbering { s with ids := ⟨s.ids.next + 1⟩ } :=
  .of_subset (fun _ hid => hid) (Nat.le_succ _)

private theorem Numbering.withProgram (s : Simulation α) (id : EntityId)
    (program : Option (ProgramInstance α)) : s.Numbering (s.withProgram id program) := by
  unfold Simulation.withProgram
  split
  · exact .setWorm s _
  · exact .refl s

private theorem Numbering.withTurn [Scalar α] (s : Simulation α) (index number : Nat) :
    s.Numbering { s with world := s.world.withTurn index number } := by
  refine .of_subset (fun id hid => ?_) (Nat.le_refl _)
  rw [World.mem_ids_iff, World.withTurn, World.map_modify_rested fun _ => rfl] at hid
  exact World.mem_ids_iff.mpr hid

end Simulation

namespace Command

open Simulation

/-- A command keeps to the numbers that were handed out, also if it is refused. -/
def Numbers (c : Command α β) : Prop :=
  ∀ s, c.Ends s (fun _ s' => s.Numbering s') fun _ s' => s.Numbering s'

variable {s : Simulation α} {id : EntityId}

private theorem Numbers.bind {c : Command α β} {f : β → Command α γ} (hc : c.Numbers)
    (hf : ∀ b, (f b).Numbers) : (c >>= f).Numbers := by
  intro s
  rw [ends_bind]
  exact (hc s).mono (fun b s' h => (hf b s').mono (fun _ _ => h.trans) fun _ _ => h.trans)
    fun _ _ h => h

/-- A command that comes after others. -/
theorem Numbers.after {c : Command α β} (h : c.Numbers) {s₀ : Simulation α}
    (hs : s₀.Numbering s) : c.Ends s (fun _ s' => s₀.Numbering s') fun _ s' => s₀.Numbering s' :=
  (h s).mono (fun _ _ => hs.trans) fun _ _ => hs.trans

private theorem numbers_pure (b : β) : (pure b : Command α β).Numbers :=
  fun s => ends_pure.mpr (.refl s)

private theorem numbers_throw (e : Error α) : (throw e : Command α β).Numbers :=
  fun s => ends_throw.mpr (.refl s)

private theorem numbers_lift (value : Except (Error α) β) : (liftM value : Command α β).Numbers :=
  fun s => ends_lift.mpr ⟨fun _ _ => .refl s, fun _ _ => .refl s⟩

private theorem numbers_world : (world : Command α (World α)).Numbers :=
  fun s => ends_world.mpr (.refl s)

private theorem numbers_requireWorm (id : EntityId) : (requireWorm (α := α) id).Numbers :=
  numbers_world.bind fun _ => numbers_lift _

private theorem numbers_setWorm (worm : Worm α) : (setWorm worm).Numbers :=
  fun s => ends_setWorm.mpr (.setWorm s worm)

/-! ### Leaving -/

private theorem numbers_removeProjectile : (removeProjectile (α := α)).Numbers := by
  intro s
  rw [ends_removeProjectile]
  have hgone : s.Numbering { s with world := { s.world with projectile := none } } :=
    .of_subset (fun id hid => by
      rw [World.mem_ids_iff] at hid ⊢
      exact hid.imp_right fun hid => hid.imp_right fun ⟨_, hp, _⟩ => nomatch hp) (Nat.le_refl _)
  exact ⟨fun _ _ => ⟨fun _ _ => hgone, fun _ _ => hgone⟩, fun _ => .refl s⟩

private theorem numbers_removeFood (id : EntityId) : (removeFood (α := α) id).Numbers := by
  intro s
  rw [ends_removeFood]
  refine ⟨fun food _ => ?_, fun _ => .refl s⟩
  have hgone : s.Numbering { s with world :=
      { s.world with food := s.world.food.eraseP fun f => f.id = id } } :=
    .of_subset (fun other hother => by
      rw [World.mem_ids_iff] at hother ⊢
      exact hother.imp_right fun hother => hother.imp_left
        fun hfood => (List.eraseP_sublist.map Food.id).subset hfood) (Nat.le_refl _)
  exact ⟨fun _ _ => hgone, fun _ _ => hgone⟩

private theorem numbers_removeWorm (id : EntityId) : (removeWorm (α := α) id).Numbers := by
  intro s
  rw [ends_removeWorm]
  refine ⟨fun worm index _ _ => ?_, fun _ => .refl s⟩
  have hgone : s.Numbering { s with world := { s.world with
      worms := s.world.worms.eraseIdx index
      state := s.world.stateWithout index } } :=
    .of_subset (fun other hother => by
      rw [World.mem_ids_iff] at hother ⊢
      exact hother.imp_left
        fun hworm => ((List.eraseIdx_sublist _ _).map Worm.id).subset hworm) (Nat.le_refl _)
  exact ⟨fun _ _ => hgone, fun _ _ => hgone⟩

private theorem numbers_killWorm (id : EntityId) : (killWorm (α := α) id).Numbers :=
  (numbers_removeWorm id).bind fun _ => numbers_pure ()

/-! ### Entering -/

private theorem numbers_addWorm {worm : Worm α} (hnumber : worm.id.value < s.ids.next) :
    (addWorm worm).Ends s (fun _ s' => s.Numbering s') fun _ s' => s.Numbering s' := by
  have henter : ∀ body, worm.body.attach s.world.id = .ok body → s.Numbering
      { s with world := { s.world with worms := s.world.worms ++ [{ worm with body }] } } := by
    intro body hbody
    obtain ⟨-, rfl⟩ := Body.attach_eq_ok_iff.mp hbody
    refine ⟨Nat.le_refl _, fun id hid => ?_⟩
    rw [World.mem_ids_iff, List.map_append, List.mem_append, or_assoc] at hid
    rcases hid with hid | hid | hid
    · exact .inl (World.mem_ids_iff.mpr (.inl hid))
    · obtain rfl := List.mem_singleton.mp hid
      exact .inr hnumber
    · exact .inl (World.mem_ids_iff.mpr (.inr hid))
  simp only [addWorm, ends_bind, ends_world, ends_lift]
  refine ⟨fun _ _ => ?_, fun _ _ => .refl s⟩
  split
  · simp only [ends_bind, ends_lift, ends_modifyWorld, ends_pure, ends_ite, ends_throw]
    exact ⟨fun _ => .refl s, fun _ => ⟨henter, fun _ _ => .refl s⟩⟩
  · simp only [ends_bind, ends_lift, ends_modifyWorld, ends_pure]
    exact ⟨henter, fun _ _ => .refl s⟩

private theorem numbers_addFood {food : Food α} (hnumber : food.id.value < s.ids.next) :
    (addFood food).Ends s (fun _ s' => s.Numbering s') fun _ s' => s.Numbering s' := by
  simp only [addFood, ends_bind, ends_world, ends_lift, ends_modifyWorld, ends_pure]
  refine ⟨fun _ _ => ⟨fun body hbody => ?_, fun _ _ => .refl s⟩, fun _ _ => .refl s⟩
  obtain ⟨-, rfl⟩ := Body.attach_eq_ok_iff.mp hbody
  refine ⟨Nat.le_refl _, fun id hid => ?_⟩
  rw [World.mem_ids_iff, ((World.insertFood_perm _ _).map Food.id).mem_iff, List.map_cons,
    List.mem_cons] at hid
  rcases hid with hid | (rfl | hid) | hid
  · exact .inl (World.mem_ids_iff.mpr (.inl hid))
  · exact .inr hnumber
  · exact .inl (World.mem_ids_iff.mpr (.inr (.inl hid)))
  · exact .inl (World.mem_ids_iff.mpr (.inr (.inr hid)))

private theorem numbers_setProjectile {projectile : Projectile α}
    (hnumber : projectile.id.value < s.ids.next) :
    (setProjectile projectile).Ends s (fun _ s' => s.Numbering s') fun _ s' => s.Numbering s' := by
  simp only [setProjectile, ends_bind, ends_world, ends_lift]
  refine ⟨fun _ _ => ⟨fun body hbody => ?_, fun _ _ => .refl s⟩, fun _ _ => .refl s⟩
  obtain ⟨-, rfl⟩ := Body.attach_eq_ok_iff.mp hbody
  have hfly : ∀ {s' : Simulation α}, s.Numbering s' → (do
      modifyWorld fun w => { w with projectile := some { projectile with
        body := { projectile.body with membership := .member s.world.id } } }
      return projectile.id : Command α EntityId).Ends s' (fun _ s' => s.Numbering s')
        fun _ s' => s.Numbering s' := by
    intro s' hs'
    simp only [ends_bind, ends_modifyWorld, ends_pure]
    refine ⟨hs'.next_le, fun id hid => ?_⟩
    rcases World.mem_ids_iff.mp hid with hid | hid | ⟨p, ⟨⟩, rfl⟩
    · exact hs'.ids id (World.mem_ids_iff.mpr (.inl hid))
    · exact hs'.ids id (World.mem_ids_iff.mpr (.inr (.inl hid)))
    · exact .inr (hnumber.trans_le hs'.next_le)
  split
  · rw [ends_bind]
    exact (numbers_removeProjectile s).mono (fun _ _ => hfly) fun _ _ h => h
  · exact hfly (.refl s)

private theorem numbers_modifyWorld {f : World α → World α} (h : ∀ w, (f w).ids = w.ids) :
    (modifyWorld f).Numbers :=
  fun s => ends_modifyWorld.mpr (.of_subset (fun _ hid => h s.world ▸ hid) (Nat.le_refl _))

private theorem numbers_addTeam (team : Team) : (addTeam (α := α) team).Numbers := by
  intro s
  simp only [addTeam, ends_bind, ends_world, ends_lift, ends_ite, ends_throw]
  exact ⟨fun _ _ => ⟨fun _ => .refl s, fun _ => ⟨fun _ => .refl s,
    fun _ => numbers_modifyWorld (by exact fun _ => rfl) s⟩⟩, fun _ _ => .refl s⟩

private theorem numbers_joinTeam (id : EntityId) (team : String) :
    (joinTeam (α := α) id team).Numbers := by
  intro s
  simp only [joinTeam, ends_bind, ends_world, ends_ite, ends_throw, ends_requireWorm]
  exact ⟨fun _ => .refl s, fun _ => ⟨fun _ _ => numbers_setWorm _ s, fun _ => .refl s⟩⟩

private theorem numbers_terminate : (terminate (α := α)).Numbers := by
  intro s
  refine ends_terminate.mpr ⟨fun _ => .refl s,
    fun _ => .of_subset (fun id hid => ?_) (Nat.le_refl _)⟩
  obtain hid | hid | ⟨_, hid, _⟩ := World.mem_ids_iff.mp hid
  · cases hid
  · cases hid
  · cases hid

variable [Scalar α]

/-! ### What worms do -/

private theorem numbers_turn (id : EntityId) (angle : α) : (turn id angle).Numbers :=
  (numbers_requireWorm id).bind fun _ => (numbers_lift _).bind fun _ => numbers_setWorm _

omit [Scalar α] in
private theorem numbers_selectNextWeapon (id : EntityId) : (selectNextWeapon (α := α) id).Numbers :=
  (numbers_requireWorm id).bind fun _ => numbers_setWorm _

private theorem numbers_eatEach (id : EntityId) (food : List EntityId) :
    (eatEach (α := α) id food).Numbers := by
  induction food with
  | nil => exact numbers_pure ()
  | cons ration rest ih =>
    exact (numbers_removeFood ration).bind fun _ => (numbers_requireWorm id).bind fun _ =>
      (numbers_lift _).bind fun _ => (numbers_setWorm _).bind fun _ => ih

private theorem numbers_eat (id : EntityId) : (eat (α := α) id).Numbers :=
  (numbers_requireWorm id).bind fun _ => numbers_world.bind fun _ =>
    (numbers_eatEach id _).bind fun _ => numbers_pure _

private theorem numbers_fall (id : EntityId) : (fall (α := α) id).Numbers := by
  intro s
  simp only [fall, ends_bind, ends_world, ends_ite, ends_throw, ends_requireWorm, ends_lift]
  refine ⟨fun _ => .refl s, fun _ => ⟨fun worm _ => ⟨fun landing _ => ?_, fun _ _ => .refl s⟩,
    fun _ => .refl s⟩⟩
  cases landing with
  | none => exact numbers_killWorm id s
  | some landed =>
    simp only [ends_bind, ends_lift, ends_setWorm, ends_ite, ends_pure]
    exact ⟨fun _ _ => ⟨fun _ => (numbers_eat id).after (.setWorm s _),
      fun _ => (numbers_killWorm id).after (.setWorm s _)⟩, fun _ _ => .refl s⟩

private theorem numbers_move (id : EntityId) : (move (α := α) id).Numbers := by
  intro s
  simp only [move, ends_bind, ends_world, ends_lift, ends_requireWorm, ends_setWorm]
  refine ⟨?_, fun _ _ => .refl s⟩
  rintro ⟨target, cost⟩ -
  refine ⟨fun worm _ => ⟨fun _ _ => ⟨fun paid _ => ?_, fun _ _ => .refl s⟩,
    fun _ _ => .refl s⟩, fun _ => .refl s⟩
  have hpaid : s.Numbering { s with world := s.world.setWorm paid } := .setWorm s paid
  refine ⟨fun placed _ => ?_, fun _ _ => hpaid⟩
  have hmoved := hpaid.trans (.setWorm _ placed)
  simp only [ends_ite, ends_bind, ends_world]
  refine ⟨fun _ => ?_, fun _ => (numbers_killWorm id).after hmoved⟩
  refine ((numbers_eat id).after hmoved).mono (fun _ s' heaten => ?_) fun _ _ h => h
  exact ⟨fun _ => (numbers_fall id).after heaten, fun _ => heaten⟩

private theorem numbers_jumpWith (id : EntityId) (timeStep : α) :
    (jumpWith id timeStep).Numbers := by
  refine (numbers_lift _).bind fun _ => numbers_world.bind fun w => ?_
  split
  · rename_i landing _
    refine (numbers_requireWorm id).bind fun _ => (numbers_setWorm _).bind fun _ =>
      (numbers_lift _).bind fun _ => (numbers_setWorm _).bind fun _ => ?_
    cases landing with
    | exit _ _ => exact numbers_killWorm id
    | ground _ _ => exact (numbers_eat id).bind fun _ => numbers_pure ()
  · exact numbers_throw _

private theorem numbers_jump (id : EntityId) : (jump (α := α) id).Numbers :=
  numbers_world.bind fun _ => numbers_jumpWith id _

/-! ### Firing -/

/-- A shot gets a number that is handed out for it. -/
theorem numbers_aim (s : Simulation α) (id : EntityId) (yieldPercent : Nat) :
    (aim id yieldPercent).Ends s (fun shot s' => s.Numbering s' ∧ shot.1.id.value < s'.ids.next)
      fun _ s' => s.Numbering s' := by
  refine (ends_aim s id yieldPercent).mono ?_ fun _ _ hsame => hsame ▸ .refl s
  rintro shot _ ⟨rfl, worm, -, -, -, -, hid, -⟩
  refine ⟨.mint s, ?_⟩
  rw [hid]
  exact Nat.lt_succ_self _

omit [Scalar α] in
private theorem numbers_launch (id : EntityId) {projectile : Projectile α} (cost : Nat)
    (hnumber : projectile.id.value < s.ids.next) :
    (launch id projectile cost).Ends s (fun _ s' => s.Numbering s')
      fun _ s' => s.Numbering s' := by
  have hpay : ∀ shot : EntityId, (do
      setWorm (← (← requireWorm id).spend cost)
      return shot : Command α EntityId).Numbers := fun shot =>
    (numbers_requireWorm id).bind fun _ => (numbers_lift _).bind fun _ =>
      (numbers_setWorm _).bind fun _ => numbers_pure shot
  rw [launch, ends_bind]
  exact (numbers_setProjectile hnumber).mono (fun shot _ => (hpay shot).after) fun _ _ h => h

private theorem numbers_fire (id : EntityId) (yieldPercent : Nat) :
    (fire (α := α) id yieldPercent).Numbers := by
  intro s
  rw [fire, ends_bind]
  refine (numbers_aim s id yieldPercent).mono ?_ fun _ _ h => h
  rintro ⟨projectile, cost⟩ s' ⟨haimed, hnumber⟩
  exact (numbers_launch id cost hnumber).mono (fun _ _ => haimed.trans) fun _ _ => haimed.trans

omit [Scalar α] in
private theorem numbers_land (impact : Impact α) (weapon : WeaponKind) :
    (land impact weapon).Numbers := by
  have hclear : ∀ impact : Impact α, (do
      let _ ← removeProjectile
      pure impact : Command α (Impact α)).Numbers :=
    fun impact => numbers_removeProjectile.bind fun _ => numbers_pure impact
  refine numbers_world.bind fun w => ?_
  cases impact with
  | terrain _ | outOfWorld _ => exact (numbers_pure _).bind hclear
  | worm target position _ =>
    refine (numbers_requireWorm target).bind fun _ => (numbers_setWorm _).bind fun _ => ?_
    split
    · exact (numbers_killWorm target).bind fun _ => (numbers_pure _).bind hclear
    · exact (numbers_pure _).bind hclear

private theorem numbers_resolve (timeStep : α) : (resolve timeStep).Numbers :=
  numbers_world.bind fun _ => (numbers_lift _).bind fun _ => (numbers_lift _).bind fun _ =>
    numbers_land _ _

private theorem numbers_fireAndResolve (id : EntityId) (yieldPercent : Nat) (timeStep : α) :
    (fireAndResolve id yieldPercent timeStep).Numbers := by
  intro s
  simp only [fireAndResolve, ends_bind, ends_world, ends_lift]
  refine (numbers_aim s id yieldPercent).mono ?_ fun _ _ h => h
  rintro ⟨projectile, cost⟩ s' ⟨haimed, hnumber⟩
  refine ⟨fun _ _ => (numbers_launch id cost hnumber).mono (fun _ s'' hfired => ?_)
    fun _ _ => haimed.trans, fun _ _ => haimed⟩
  exact (numbers_land _ _).after (haimed.trans hfired)

/-! ### Programs -/

private theorem numbers_act (id : EntityId) (action : Action α) : (act id action).Numbers := by
  cases action with
  | turn angle => exact numbers_turn id angle
  | move => exact numbers_move id
  | jump => exact numbers_jump id
  | fire yieldPercent =>
    exact numbers_world.bind fun _ => (numbers_fireAndResolve id yieldPercent _).bind fun _ =>
      numbers_pure ()
  | toggleWeapon => exact numbers_selectNextWeapon id

private theorem numbers_runInstance {i : ProgramInstance α} (h : i.Made) :
    (runInstance i).Numbers := by
  intro s
  rw [ends_runInstance]
  have hran : s.Numbering (i.run s).stateAfter :=
    h.runWith_keeps (P := fun s' => s.Numbering s')
      (fun s' id action hs' => hs'.trans (numbers_act id action s').of_both) (.refl s)
  exact ⟨hran.next_le, hran.ids⟩

private theorem numbers_runProgram (id : EntityId)
    (hmade : ∀ worm, s.world.worm? id = some worm → worm.Made) :
    (runProgram id).Ends s (fun _ s' => s.Numbering s') fun _ s' => s.Numbering s' := by
  rw [ends_runProgram]
  refine ⟨fun worm hworm => ⟨fun _ => .refl s, fun i hi => ?_⟩, fun _ => .refl s⟩
  have hi : i.Made := ((hmade worm hworm).program hi).1
  have hran := ends_runInstance.mp (numbers_runInstance hi (s.withProgram id none))
  have hgiven := fun program =>
    ((Numbering.withProgram s id none).trans hran).trans (.withProgram _ id program)
  exact ⟨fun _ _ => hgiven _, fun _ _ => hgiven _⟩

private theorem numbers_runCurrentProgram
    (hmade : ∀ id worm, s.world.worm? id = some worm → worm.Made) :
    (runCurrentProgram (α := α)).Ends s (fun _ s' => s.Numbering s')
      fun _ s' => s.Numbering s' := by
  simp only [runCurrentProgram, ends_bind, ends_world]
  split
  · exact numbers_runProgram _ (hmade _)
  · exact .refl s

/-! ### Random placement -/

omit [Scalar α] in
private theorem numbers_draw : (draw (α := α)).Numbers :=
  fun s => .of_subset (s := s) (fun _ hid => hid) (Nat.le_refl _)

private theorem numbers_spotAfter (radius step : α) (attempts : Nat) :
    (spotAfter radius step attempts).Numbers := by
  induction attempts with
  | zero => exact numbers_pure _
  | succ attempts ih =>
    refine numbers_world.bind fun w => numbers_draw.bind fun _ => numbers_draw.bind fun _ =>
      (numbers_lift _).bind fun spot => ?_
    cases spot with
    | some spot => exact numbers_pure _
    | none => exact ih

private theorem numbers_findSpot (radius : α) : (findSpot radius).Numbers := by
  refine numbers_world.bind fun w => (numbers_spotAfter _ _ _).bind fun spot => ?_
  cases spot with
  | some spot => exact numbers_pure _
  | none => exact numbers_throw _

private theorem numbers_addNewWorm (program : Option (ProgramInstance α)) :
    (addNewWorm program).Numbers := by
  refine numbers_world.bind fun w => (numbers_lift _).bind fun _ =>
    (numbers_findSpot _).bind fun spot => numbers_draw.bind fun x s => ?_
  simp only [ends_bind, ends_mint]
  refine ⟨fun worm hworm => ?_, fun _ _ => .refl s⟩
  obtain ⟨-, -, -, rfl⟩ := Worm.make_eq_ok_iff.mp hworm
  have hadd : ∀ worm : Worm α, worm.id = ⟨s.ids.next⟩ →
      (addWorm worm).Ends { s with ids := ⟨s.ids.next + 1⟩ } (fun _ s' => s.Numbering s')
        fun _ s' => s.Numbering s' := by
    intro worm hid
    refine (numbers_addWorm ?_).mono (fun _ _ => (Numbering.mint s).trans)
      fun _ _ => (Numbering.mint s).trans
    rw [hid]
    exact Nat.lt_succ_self _
  cases program with
  | none => exact hadd _ rfl
  | some i => exact hadd _ rfl

private theorem numbers_addNewFood : (addNewFood (α := α)).Numbers := by
  refine numbers_world.bind fun w => (numbers_lift _).bind fun _ =>
    (numbers_findSpot _).bind fun spot s => ?_
  simp only [ends_bind, ends_mint]
  refine ⟨fun food hfood => ?_, fun _ _ => .refl s⟩
  refine (numbers_addFood ?_).mono (fun _ _ => (Numbering.mint s).trans)
    fun _ _ => (Numbering.mint s).trans
  obtain ⟨body, hbody, ⟨⟩⟩ := bind_eq_ok_iff.mp hfood
  obtain ⟨-, -, -, rfl⟩ := Body.make_eq_ok_iff.mp hbody
  exact Nat.lt_succ_self _

/-! ### Turns -/

private theorem numbers_start : (start (α := α)).Numbers := by
  intro s
  refine ends_start.mpr ⟨fun _ => ⟨fun _ => ?_, fun _ => ?_⟩, fun _ => .refl s, fun _ _ => .refl s⟩
  · exact .of_subset (fun _ hid => hid) (Nat.le_refl _)
  · exact ⟨fun _ => .withTurn s 0 1, fun _ => .refl s⟩

private theorem numbers_startNextTurn : (startNextTurn (α := α)).Numbers := by
  intro s
  refine ends_startNextTurn.mpr ⟨fun turn _ => ⟨fun _ => ?_, fun _ => ?_⟩, fun _ => .refl s⟩
  · exact .of_subset (fun _ hid => hid) (Nat.le_refl _)
  · exact ⟨fun _ => .withTurn s _ _, fun _ => .refl s⟩

end Command

/-! ### Games -/

section Games

variable [Scalar α]

open Command Simulation

/-- **Every operation keeps to the numbers that were handed out**, done or refused. -/
theorem Operation.numbering {s : Simulation α} {op : Operation α} (hs : s.world.Sound)
    (hop : op.Admissible s.ids) : s.Numbering (op.command.carryOut s).2 := by
  have hignore : ∀ {β : Type} {c : Command α β},
      c.Ends s (fun _ s' => s.Numbering s') (fun _ s' => s.Numbering s') →
        (do let _ ← c : Command α Unit).Ends s (fun _ s' => s.Numbering s')
          fun _ s' => s.Numbering s' :=
    fun h => ends_bind.mpr (h.mono (fun _ _ hdone => ends_pure.mpr hdone) fun _ _ h => h)
  have hmade : ∀ id worm, s.world.worm? id = some worm → worm.Made :=
    fun id worm hworm => hs.made worm (World.mem_of_worm? hworm)
  refine Ends.of_both (P := fun s' => s.Numbering s') ?_
  cases op with
  | addWorm worm => exact hignore (numbers_addWorm hop.2)
  | addNewWorm program => exact hignore (numbers_addNewWorm program s)
  | addFood food => exact hignore (numbers_addFood hop)
  | addNewFood => exact hignore (numbers_addNewFood s)
  | setProjectile projectile => exact hignore (numbers_setProjectile hop)
  | addTeam team => exact numbers_addTeam team s
  | joinTeam id team => exact numbers_joinTeam id team s
  | removeWorm id => exact hignore (numbers_removeWorm id s)
  | removeFood id => exact hignore (numbers_removeFood id s)
  | removeProjectile => exact hignore (numbers_removeProjectile s)
  | turn id angle => exact numbers_turn id angle s
  | selectNextWeapon id => exact numbers_selectNextWeapon id s
  | move id => exact numbers_move id s
  | fall id => exact numbers_fall id s
  | eat id => exact hignore (numbers_eat id s)
  | jump id => exact numbers_jump id s
  | jumpWith id timeStep => exact numbers_jumpWith id timeStep s
  | fire id yieldPercent => exact hignore (numbers_fire id yieldPercent s)
  | fireAndResolve id yieldPercent timeStep =>
    exact hignore (numbers_fireAndResolve id yieldPercent timeStep s)
  | resolve timeStep => exact hignore (numbers_resolve timeStep s)
  | act id action => exact numbers_act id action s
  | runProgram id => exact hignore (numbers_runProgram id (hmade id))
  | runCurrentProgram => exact hignore (numbers_runCurrentProgram hmade)
  | runInstance i => exact hignore (numbers_runInstance hop s)
  | start => exact numbers_start s
  | startNextTurn => exact numbers_startNextTurn s
  | terminate => exact hignore (numbers_terminate s)

/-- **In every reachable simulation, what is listed has been numbered before.** -/
theorem Simulation.Reachable.numbered {s : Simulation α} (h : s.Reachable) : s.Numbered := by
  induction h with
  | onGrid ids h =>
    obtain ⟨-, rfl⟩ := World.onGrid_eq_ok_iff.mp h
    exact fun id hid => nomatch hid
  | step hs hstep ih =>
    cases hstep with
    | elsewhere told hnext => exact ih.numbering (.of_subset (fun _ hid => hid) hnext)
    | operate op hop => exact ih.numbering (Operation.numbering hs.sound hop)

end Games

end WormBattle
