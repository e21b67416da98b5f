import WormBattle.Proofs.World.Deeds

/-!
# Commands are sequences of changes

Whatever a command does to a world between two turns, also before it is refused, is a sequence of
elementary changes (`Command.Alters`). What a worm does for itself consists of deeds, which are
changes; for all other commands there is a lemma each, from the small ones to the run of a program.
-/

namespace WormBattle

variable {α β γ : Type} [Scalar α]

namespace Command

/-- What a command does, also before it is refused, is a sequence of changes. -/
def Alters (traffic : World.Traffic) (c : Command α β) : Prop :=
  ∀ s, c.Ends s (fun _ s' => s.world.Changes traffic s'.world)
    fun _ s' => s.world.Changes traffic s'.world

variable {traffic : World.Traffic}

/-- The world after the command comes from the world before it by changes. -/
theorem Alters.changes {c : Command α β} (h : c.Alters traffic) (s : Simulation α) :
    s.world.Changes traffic (c.carryOut s).2.world :=
  (h s).of_both

/-- Commands in a row alter the world by changes if each of them does. -/
theorem Alters.bind {c : Command α β} {f : β → Command α γ} (hc : c.Alters traffic)
    (hf : ∀ b, (f b).Alters traffic) : (c >>= f).Alters traffic := by
  intro s
  rw [ends_bind]
  exact (hc s).mono
    (fun b s' h => (hf b s').mono (fun _ _ => h.trans) fun _ _ => h.trans) fun _ _ h => h

/-- A command that comes after some changes. -/
theorem Alters.after {c : Command α β} (h : c.Alters traffic) {w : World α} {s : Simulation α}
    (hw : w.Changes traffic s.world) :
    c.Ends s (fun _ s' => w.Changes traffic s'.world) fun _ s' => w.Changes traffic s'.world :=
  (h s).mono (fun _ _ => hw.trans) fun _ _ => hw.trans

/-- Giving back a result changes nothing. -/
theorem alters_pure (b : β) : (pure b : Command α β).Alters traffic :=
  fun _ => ends_pure.mpr (World.Changes.refl _)

private theorem alters_throw (e : Error α) : (throw e : Command α β).Alters traffic :=
  fun _ => ends_throw.mpr (World.Changes.refl _)

private theorem alters_lift (value : Except (Error α) β) :
    (liftM value : Command α β).Alters traffic :=
  fun _ => ends_lift.mpr ⟨fun _ _ => World.Changes.refl _, fun _ _ => World.Changes.refl _⟩

private theorem alters_world : (world : Command α (World α)).Alters traffic :=
  fun _ => ends_world.mpr (World.Changes.refl _)

private theorem alters_mint (make : EntityId → Except (Error α) β) : (mint make).Alters traffic :=
  fun _ => ends_mint.mpr ⟨fun _ _ => World.Changes.refl _, fun _ _ => World.Changes.refl _⟩

/-! ### Teams -/

/-- Joining a team is a change of the worm. -/
theorem alters_joinTeam (id : EntityId) (team : String) :
    (joinTeam (α := α) id team).Alters traffic := by
  intro s
  simp only [joinTeam, ends_bind, ends_world, ends_ite, ends_throw, ends_requireWorm, ends_setWorm]
  refine ⟨fun _ => .refl _, fun hknown => ⟨fun worm hworm => ?_, fun _ => .refl _⟩⟩
  exact (World.Change.join (World.worm?_self hworm)
    (by simpa [Option.isSome_iff_ne_none] using hknown)).changes

/-! ### Entering and leaving -/

/-- Adding a worm lets one enter. -/
theorem alters_addWorm {worm : Worm α} (hmade : worm.Made) : (addWorm worm).Alters .entering := by
  intro s
  have henter : (∀ team, worm.team = some team → (s.world.team? team).isSome) →
      ∀ body, s.world.checkRegistrable worm.body = .ok () → worm.body.attach s.world.id = .ok body →
      s.world.Changes .entering { s.world with worms := s.world.worms ++ [{ worm with body }] } :=
    fun hteam body hopen hbody => (World.Change.addWorm rfl hmade hopen hteam hbody).changes
  simp only [addWorm, ends_bind, ends_world, ends_lift]
  refine ⟨fun _ hopen => ?_, fun _ _ => .refl _⟩
  split
  · rename_i team hteam
    simp only [ends_bind, ends_lift, ends_modifyWorld, ends_pure, ends_ite, ends_throw]
    refine ⟨fun _ => .refl _, fun hknown => ⟨fun body => henter ?_ body hopen, fun _ _ => .refl _⟩⟩
    intro name hname
    rw [hteam] at hname
    cases hname
    simpa [Option.isSome_iff_ne_none] using hknown
  · rename_i hteam
    simp only [ends_bind, ends_lift, ends_modifyWorld, ends_pure]
    refine ⟨fun body => henter (fun team hname => ?_) body hopen, fun _ _ => .refl _⟩
    exact absurd hname (hteam team)

/-- Adding a ration neither adds nor removes a worm. -/
theorem alters_addFood (food : Food α) : (addFood food).Alters traffic := by
  intro s
  simp only [addFood, ends_bind, ends_world, ends_lift, ends_modifyWorld, ends_pure]
  refine ⟨fun _ hopen => ⟨fun body hbody => ?_, fun _ _ => .refl _⟩, fun _ _ => .refl _⟩
  exact (World.Change.addFood hopen hbody).changes

/-- Taking out the projectile neither adds nor removes a worm. -/
theorem alters_removeProjectile : (removeProjectile (α := α)).Alters traffic := by
  intro s
  rw [ends_removeProjectile]
  exact ⟨fun _ _ => ⟨fun _ _ => World.Change.land.changes, fun _ _ => World.Change.land.changes⟩,
    fun _ => .refl _⟩

/-- Putting in a projectile neither adds nor removes a worm. -/
theorem alters_setProjectile (projectile : Projectile α) :
    (setProjectile projectile).Alters traffic := by
  intro s
  simp only [setProjectile, ends_bind, ends_world, ends_lift]
  refine ⟨fun _ hopen => ⟨fun body hbody => ?_, fun _ _ => .refl _⟩, fun _ _ => .refl _⟩
  -- A projectile that is in flight leaves first, so the new one enters an empty sky in any case.
  have hfly : ∀ w : World α, s.world.Changes traffic { w with projectile := none } →
      w.checkRegistrable projectile.body = .ok () → projectile.body.attach w.id = .ok body →
      s.world.Changes traffic { w with projectile := some { projectile with body } } := by
    intro w hw hopen hbody
    refine hw.tail (World.Change.launch (w := { w with projectile := none }) rfl ?_ hbody)
    rw [World.checkRegistrable_eq_ok_iff, World.contains_eq_false_iff] at hopen ⊢
    exact ⟨hopen.1, hopen.2.1, hopen.2.2.1, hopen.2.2.2.1, by simp⟩
  have hland : s.world.Changes traffic { s.world with projectile := none } :=
    World.Change.land.changes
  split
  · simp only [ends_bind, ends_removeProjectile, ends_modifyWorld, ends_pure]
    exact ⟨fun old _ => ⟨fun _ _ => hfly s.world hland hopen hbody, fun _ _ => hland⟩,
      fun _ => .refl _⟩
  · simp only [ends_bind, ends_modifyWorld, ends_pure]
    exact hfly s.world hland hopen hbody

/-- Making a team neither adds nor removes a worm. -/
theorem alters_addTeam (team : Team) : (addTeam (α := α) team).Alters traffic := by
  intro s
  simp only [addTeam, ends_bind, ends_world, ends_lift, ends_ite, ends_throw, ends_modifyWorld]
  refine ⟨fun _ hopen => ⟨fun _ => .refl _, fun hnew => ⟨fun _ => .refl _, fun hroom => ?_⟩⟩,
    fun _ _ => .refl _⟩
  have hopen := World.checkOpen_eq_ok_iff.mp hopen
  exact (World.Change.addTeam hopen (by simpa using hnew) (by simpa using hroom)).changes

/-- Taking out a worm lets one leave. -/
theorem alters_removeWorm (id : EntityId) : (removeWorm (α := α) id).Alters .leaving := by
  intro s
  rw [ends_removeWorm]
  refine ⟨fun worm index hworm hindex => ?_, fun _ => .refl _⟩
  have hgone := (World.Change.removeWorm rfl hindex).changes
  exact ⟨fun _ _ => hgone, fun _ _ => hgone⟩

private theorem alters_killWorm (id : EntityId) : (killWorm (α := α) id).Alters .leaving :=
  (alters_removeWorm id).bind fun _ => alters_pure ()

/-- Taking out a ration neither adds nor removes a worm. -/
theorem alters_removeFood (id : EntityId) : (removeFood (α := α) id).Alters traffic := by
  intro s
  rw [ends_removeFood]
  refine ⟨fun food hfood => ?_, fun _ => .refl _⟩
  have hgone : s.world.Changes traffic { s.world with food := s.world.food.eraseP _ } :=
    (World.Change.removeFood hfood).changes
  exact ⟨fun _ _ => hgone, fun _ _ => hgone⟩

/-! ### Deeds -/

/-- What a worm does for itself is a sequence of changes. -/
theorem Does.alters {c : Command α β} {id : EntityId} (h : c.Does id) : c.Alters .leaving :=
  fun s => (h s).mono (fun _ _ => World.Deeds.changes) fun _ _ => World.Deeds.changes

/-! ### Firing -/

private theorem alters_aim (id : EntityId) (yieldPercent : Nat) :
    (aim (α := α) id yieldPercent).Alters traffic := by
  intro s
  simp only [aim, ends_bind, ends_world, ends_lift, ends_requireWorm, ends_ite, ends_throw,
    ends_mint, ends_pure, World.Changes.refl, implies_true, and_self]

/-- Putting in the projectile of a shot and paying for it neither adds nor removes a worm. -/
theorem alters_launch (id : EntityId) (projectile : Projectile α) (cost : Nat) :
    (launch id projectile cost).Alters traffic := by
  refine (alters_setProjectile projectile).bind fun _ s => ?_
  simp only [ends_bind, ends_requireWorm, ends_lift, ends_setWorm, ends_pure]
  refine ⟨fun worm hworm => ⟨fun worm' hspent => ?_, fun _ _ => .refl _⟩, fun _ => .refl _⟩
  exact .of_worm (World.worm?_self hworm) (.spend hspent) (Worm.team_of_spend hspent)

/-- A shot neither adds nor removes a worm. -/
theorem alters_fire (id : EntityId) (yieldPercent : Nat) :
    (fire (α := α) id yieldPercent).Alters traffic :=
  (alters_aim id yieldPercent).bind fun _ => alters_launch id _ _

private theorem alters_land (impact : Impact α) (weapon : WeaponKind) :
    (land impact weapon).Alters .leaving := by
  intro s
  have hclear : ∀ impact : Impact α, (do
      let _ ← removeProjectile
      pure impact : Command α (Impact α)).Alters .leaving :=
    fun impact => alters_removeProjectile.bind fun _ => alters_pure impact
  simp only [land, ends_bind, ends_world]
  cases impact with
  | terrain _ | outOfWorld _ => exact ((alters_pure _).bind hclear) s
  | worm target position _ =>
    simp only [ends_bind, ends_requireWorm, ends_setWorm]
    refine ⟨fun worm hworm => ?_, fun _ => .refl _⟩
    have hstruck : s.world.Changes .leaving (s.world.setWorm
        (worm.damage (weapon.spec s.world.config.weapons).damage)) :=
      .of_worm (World.worm?_self hworm) (.damage _) rfl
    rw [ends_ite]
    refine ⟨fun _ => ?_, fun _ => ((alters_pure _).bind hclear).after hstruck⟩
    exact ((alters_killWorm target).bind fun _ => (alters_pure _).bind hclear).after hstruck

/-- A flight may strike a worm down, so that it leaves. -/
theorem alters_resolve (timeStep : α) : (resolve timeStep).Alters .leaving :=
  alters_world.bind fun _ => (alters_lift _).bind fun _ => (alters_lift _).bind fun _ =>
    alters_land _ _

/-- A shot and its flight may strike a worm down. -/
theorem alters_fireAndResolve (id : EntityId) (yieldPercent : Nat) (timeStep : α) :
    (fireAndResolve id yieldPercent timeStep).Alters .leaving :=
  (alters_aim id yieldPercent).bind fun _ => alters_world.bind fun _ =>
    (alters_lift _).bind fun _ => (alters_launch id _ _).bind fun _ => alters_land _ _

/-! ### Programs -/

/-- An action of a program may let worms leave, and never lets one enter. -/
theorem alters_act (id : EntityId) (action : Action α) : (act id action).Alters .leaving := by
  cases action with
  | turn angle => exact (does_turn id angle).alters
  | move => exact (does_move id).alters
  | jump => exact (does_jump id).alters
  | fire yieldPercent =>
    exact alters_world.bind fun _ => (alters_fireAndResolve id yieldPercent _).bind fun _ =>
      alters_pure ()
  | toggleWeapon => exact (does_selectNextWeapon id).alters

/-- A run of a program acts on the world by actions only. -/
theorem alters_runInstance {i : ProgramInstance α} (h : i.Made) :
    (runInstance i).Alters .leaving := by
  intro s
  rw [ends_runInstance]
  exact h.runWith_keeps (P := fun s' => s.world.Changes .leaving s'.world)
    (fun s' id action hs' => hs'.trans ((alters_act id action).changes s')) (.refl _)

/-- Taking a program away from a worm, or giving it one of its own. -/
theorem changes_withProgram (s : Simulation α) {id : EntityId}
    {program : Option (ProgramInstance α)}
    (h : ∀ i, program = some i → i.Made ∧ i.worm = some id) :
    s.world.Changes traffic (s.withProgram id program).world := by
  unfold Simulation.withProgram
  split
  · rename_i worm hworm
    refine .of_worm (World.worm?_self hworm) (.setProgram ?_) rfl
    rw [World.id_of_worm? hworm]
    exact h
  · exact .refl _

/-- A run of a worm's program changes the world by actions, and the worm by its program. -/
theorem alters_runProgram {s : Simulation α} (id : EntityId)
    (hmade : ∀ worm, s.world.worm? id = some worm → worm.Made) :
    (runProgram id).Ends s (fun _ s' => s.world.Changes .leaving s'.world)
      fun _ s' => s.world.Changes .leaving s'.world := by
  rw [ends_runProgram]
  refine ⟨fun worm hworm => ⟨fun _ => .refl _, fun i hi => ?_⟩, fun _ => .refl _⟩
  obtain ⟨hi, hbound⟩ := (hmade worm hworm).program hi
  have htaken : s.world.Changes .leaving (s.withProgram id none).world :=
    changes_withProgram s (by simp)
  have hran := htaken.trans ((alters_runInstance hi).changes (s.withProgram id none))
  -- What is given back has been run, and it is still bound to the worm.
  have hown : ∀ j, some ((s.withProgram id none).runInstance i).2.1 = some j →
      j.Made ∧ j.worm = some id := by
    rintro j ⟨⟩
    refine ⟨.run i.budget (s.withProgram id none) hi, ?_⟩
    rw [World.id_of_worm? hworm] at hbound
    exact (i.runWith_worm i.budget (s.withProgram id none)).trans hbound
  have hgiven := hran.trans (changes_withProgram _ hown)
  exact ⟨fun _ _ => hgiven, fun _ _ => hgiven⟩

/-- A run of the current worm's program changes the world by actions, and the worm by its program.
-/
theorem alters_runCurrentProgram {s : Simulation α}
    (hmade : ∀ id worm, s.world.worm? id = some worm → worm.Made) :
    (runCurrentProgram (α := α)).Ends s (fun _ s' => s.world.Changes .leaving s'.world)
      fun _ s' => s.world.Changes .leaving s'.world := by
  simp only [runCurrentProgram, ends_bind, ends_world]
  split
  · exact alters_runProgram _ (hmade _)
  · exact .refl _

/-! ### Random placement -/

private theorem alters_draw : (draw (α := α)).Alters traffic :=
  fun _ => World.Change.draw.changes

private theorem alters_spotAfter (radius step : α) (attempts : Nat) :
    (spotAfter radius step attempts).Alters traffic := by
  induction attempts with
  | zero => exact alters_pure _
  | succ attempts ih =>
    refine alters_world.bind fun w => alters_draw.bind fun _ => alters_draw.bind fun _ =>
      (alters_lift _).bind fun spot => ?_
    cases spot with
    | some spot => exact alters_pure _
    | none => exact ih

private theorem alters_findSpot (radius : α) : (findSpot radius).Alters traffic := by
  refine alters_world.bind fun w => (alters_spotAfter _ _ _).bind fun spot => ?_
  cases spot with
  | some spot => exact alters_pure _
  | none => exact alters_throw _

/-- A worm at a random place enters. -/
theorem alters_addNewWorm {program : Option (ProgramInstance α)}
    (hmade : ∀ i, program = some i → i.Made) : (addNewWorm program).Alters .entering := by
  refine alters_world.bind fun w => (alters_lift _).bind fun _ =>
    (alters_findSpot _).bind fun spot => alters_draw.bind fun x s => ?_
  simp only [ends_bind, ends_mint]
  refine ⟨fun worm hworm => ?_, fun _ _ => .refl _⟩
  have hnew : worm.Made := .make hworm
  cases program with
  | none => exact alters_addWorm hnew _
  | some i =>
    refine alters_addWorm (hnew.change (.setProgram fun j hj => ?_)) _
    cases hj
    exact ⟨(hmade i rfl).bind worm.id, rfl⟩

/-- A ration at a random place neither adds nor removes a worm. -/
theorem alters_addNewFood : (addNewFood (α := α)).Alters traffic :=
  alters_world.bind fun _ => (alters_lift _).bind fun _ => (alters_findSpot _).bind fun _ =>
    (alters_mint _).bind fun food => alters_addFood food

end Command

end WormBattle
