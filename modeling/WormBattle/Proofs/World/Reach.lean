import WormBattle.Proofs.Execution.Replay
import WormBattle.Proofs.Typing.Worms
import WormBattle.Proofs.World.CurrentWorm

/-!
# The reach of a program

What the program of a worm can change, whatever it does: the worm itself, rations, which it can
only take out, and other worms, which can only lose hit points and leave when they have none left
(`World.Reach`). Everything else stays, so in particular nothing enters, and the worms that stay
keep their order.

The reach of each action is known (`Command.reach_act`): a shot reaches other worms, everything
else consists of deeds of the worm. A run does what its actions do one after the other, and so its
reach is known (`Simulation.reach_afterActions`).
-/

namespace WormBattle

variable {α : Type}

/-- The stage of a world's life with the number of the turn, whoever has it. -/
def WorldState.stage : WorldState → WorldState
  | .inProgress turn => .inProgress { turn with index := 0, currentRemoved := false }
  | state => state

namespace World

/-- What a worm has reached of a world: how the world may differ from an earlier one after the worm
has acted. Some of the other worms may have been slain. -/
structure Reach (id : EntityId) (slain : EntityId → Prop) (w w' : World α) : Prop where
  id_eq : w'.id = w.id
  grid_eq : w'.grid = w.grid
  config_eq : w'.config = w.config
  teams_eq : w'.teams = w.teams
  random_eq : w'.random = w.random
  stage_eq : w'.state.stage = w.state.stage
  food : w'.food.Sublist w.food
  order : w'.order.Sublist w.order
  own : ∀ worm' ∈ w'.worms, worm'.id = id →
    ∃ worm ∈ w.worms, worm.id = id ∧ worm'.hitPoints ≤ worm.hitPoints
  others : ∀ worm' ∈ w'.worms, worm'.id ≠ id →
    ∃ worm ∈ w.worms, ∃ amount, worm' = worm.damage amount
  listed : ∀ other ∈ w.order, other ≠ id → other ∈ w'.order ∨ slain other

variable {w w' w'' : World α} {worm worm' : Worm α} {id other : EntityId}
  {slain slain' : EntityId → Prop}

private theorem Reach.refl (id : EntityId) (slain : EntityId → Prop) (w : World α) :
    Reach id slain w w where
  id_eq := rfl
  grid_eq := rfl
  config_eq := rfl
  teams_eq := rfl
  random_eq := rfl
  stage_eq := rfl
  food := .refl _
  order := .refl _
  own := fun worm hworm hid => ⟨worm, hworm, hid, Nat.le_refl _⟩
  others := fun worm hworm _ => ⟨worm, hworm, 0, rfl⟩
  listed := fun _ hother _ => .inl hother

/-- The reach of one change after another. -/
theorem Reach.trans (h : Reach id slain w w') (h' : Reach id slain w' w'') :
    Reach id slain w w'' where
  id_eq := h'.id_eq.trans h.id_eq
  grid_eq := h'.grid_eq.trans h.grid_eq
  config_eq := h'.config_eq.trans h.config_eq
  teams_eq := h'.teams_eq.trans h.teams_eq
  random_eq := h'.random_eq.trans h.random_eq
  stage_eq := h'.stage_eq.trans h.stage_eq
  food := h'.food.trans h.food
  order := h'.order.trans h.order
  own := by
    intro worm'' hworm'' hid
    obtain ⟨worm', hworm', hid', hle'⟩ := h'.own worm'' hworm'' hid
    obtain ⟨worm, hworm, hid, hle⟩ := h.own worm' hworm' hid'
    exact ⟨worm, hworm, hid, Nat.le_trans hle' hle⟩
  others := by
    intro worm'' hworm'' hid
    obtain ⟨worm', hworm', amount', rfl⟩ := h'.others worm'' hworm'' hid
    obtain ⟨worm, hworm, amount, rfl⟩ := h.others worm' hworm' hid
    refine ⟨worm, hworm, amount + amount', ?_⟩
    simp only [Worm.damage, Nat.sub_sub]
  listed := fun other hother hid =>
    (h.listed other hother hid).elim (fun hother' => h'.listed other hother' hid) .inr

private theorem Reach.mono (h : Reach id slain w w')
    (hslain : ∀ other, other ≠ id → slain other → slain' other) : Reach id slain' w w' :=
  { h with
    listed := fun other hother hid => (h.listed other hother hid).imp_right (hslain other hid) }

/-! ### What an action does at a time -/

private theorem order_setWorm (w : World α) (worm : Worm α) : (w.setWorm worm).order = w.order :=
  map_id_replaceWorm w.worms worm

/-- A listed worm is replaced, and it is the worm itself or has only been damaged. -/
theorem Reach.setWorm (h : w.worm? worm.id = some worm)
    (hown : worm.id = id → worm'.hitPoints ≤ worm.hitPoints)
    (hothers : worm.id ≠ id → ∃ amount, worm' = worm.damage amount) (hid : worm'.id = worm.id) :
    Reach id slain w (w.setWorm worm') := by
  have hmem := mem_of_worm? h
  have horder : (w.setWorm worm').order = w.order := order_setWorm w worm'
  refine { Reach.refl id slain w with order := ?_, own := ?_, others := ?_, listed := ?_ }
  · rw [horder]
  · intro x hx hxid
    rcases eq_or_mem_of_mem_replaceWorm hx with rfl | hx
    · exact ⟨worm, hmem, hid.symm.trans hxid, hown (hid.symm.trans hxid)⟩
    · exact ⟨x, hx, hxid, Nat.le_refl _⟩
  · intro x hx hxid
    rcases eq_or_mem_of_mem_replaceWorm hx with rfl | hx
    · exact ⟨worm, hmem, hothers fun h => hxid (hid.trans h)⟩
    · exact ⟨x, hx, 0, rfl⟩
  · intro other hother _
    exact .inl (horder ▸ hother)

/-- The worm itself is replaced. -/
theorem Reach.of_own (h : w.worm? id = some worm) (hid : worm'.id = worm.id)
    (hle : worm'.hitPoints ≤ worm.hitPoints) : Reach id slain w (w.setWorm worm') :=
  .setWorm (worm?_self h) (fun _ => hle) (fun hne => absurd (id_of_worm? h) hne) hid

/-- A worm is damaged. -/
theorem Reach.damage (h : w.worm? other = some worm) (amount : Nat) :
    Reach id slain w (w.setWorm (worm.damage amount)) :=
  .setWorm (worm?_self h) (fun _ => Nat.sub_le _ _) (fun _ => ⟨amount, rfl⟩) rfl

private theorem stage_stateWithout (w : World α) (index : Nat) :
    (w.stateWithout index).stage = w.state.stage := by
  rw [stateWithout]
  cases w.state with
  | inProgress turn => simp only [WorldState.stage, Turn.number_removed]
  | _ => rfl

/-- A worm leaves. -/
theorem Reach.leave {index : Nat} (h : w.worms.findIdx? (fun worm => worm.id = other) = some index)
    (hslain : other ≠ id → slain other) :
    Reach id slain w
      { w with worms := w.worms.eraseIdx index, state := w.stateWithout index } := by
  refine { Reach.refl id slain w with
    stage_eq := stage_stateWithout w index, order := ?_, own := ?_, others := ?_, listed := ?_ }
  · exact (List.eraseIdx_sublist w.worms index).map Worm.id
  · exact fun x hx hxid => ⟨x, List.mem_of_mem_eraseIdx hx, hxid, Nat.le_refl _⟩
  · exact fun x hx _ => ⟨x, List.mem_of_mem_eraseIdx hx, 0, rfl⟩
  · intro x hx hxid
    obtain ⟨hlt, hother, -⟩ := List.findIdx?_eq_some_iff_getElem.mp h
    have hother : w.worms[index].id = other := by simpa using hother
    by_cases heq : x = other
    · exact .inr (heq ▸ hslain (heq ▸ hxid))
    · left
      obtain ⟨worm, hworm, rfl⟩ := List.mem_map.mp hx
      refine List.mem_map_of_mem (List.mem_eraseIdx_iff_getElem.mpr ?_)
      obtain ⟨i, hi, rfl⟩ := List.mem_iff_getElem.mp hworm
      exact ⟨i, hi, fun h => heq (by rw [← hother]; simp only [h]), rfl⟩

/-- The projectile comes or goes. -/
theorem Reach.projectile (projectile : Option (Projectile α)) :
    Reach id slain w { w with projectile } :=
  { Reach.refl id slain w with }

/-! ### Deeds -/

variable [Scalar α]

/-- No change gives a worm hit points. -/
theorem hitPoints_le_of_change (h : worm.Change worm') : worm'.hitPoints ≤ worm.hitPoints := by
  cases h with
  | turn h =>
    obtain ⟨cost, -, -, rfl⟩ := Worm.turn_eq_ok_iff.mp h
    exact Nat.le_refl _
  | setPosition h =>
    obtain ⟨-, rfl⟩ := Worm.setPosition_eq_ok_iff.mp h
    exact Nat.le_refl _
  | grow h =>
    obtain ⟨-, rfl⟩ := Worm.grow_eq_ok_iff.mp h
    exact Nat.min_le_left _ _
  | spend h =>
    obtain ⟨-, rfl⟩ := Worm.spend_eq_ok_iff.mp h
    exact Nat.le_refl _
  | damage amount => exact Nat.sub_le _ _
  | selectNextWeapon | drain | join | setProgram => exact Nat.le_refl _

private theorem Deed.reach (h : Deed id w w') : Reach id slain w w' := by
  cases h with
  | own hworm hchange _ => exact .of_own hworm hchange.id_eq (hitPoints_le_of_change hchange)
  | eat _ => exact { Reach.refl id slain w with food := List.eraseP_sublist }
  | leave hindex => exact .leave hindex fun hne => absurd rfl hne

/-- What a worm does for itself reaches no other worm. -/
theorem Deeds.reach (h : Deeds id w w') : Reach id slain w w' := by
  induction h with
  | refl => exact .refl id slain w
  | tail _ hdeed ih => exact ih.trans hdeed.reach

private theorem Deeds.projectile_eq (h : Deeds id w w') : w'.projectile = w.projectile := by
  induction h with
  | refl => rfl
  | tail _ hdeed ih => cases hdeed <;> exact ih

/-! ### Shots -/

/-- A flight ends on a worm that loses its last hit points by it. -/
def Fells (w : World α) (impact : Impact α) (weapon : WeaponKind) (other : EntityId) : Prop :=
  ∃ position killed victim, impact = .worm other position killed ∧ w.worm? other = some victim ∧
    (victim.damage (weapon.spec w.config.weapons).damage).hitPoints = 0

/-- A shot that a worm can fire with its weapon slays another worm. -/
def Slays (w : World α) (id other : EntityId) : Prop :=
  ∃ shooter projectile impact time, w.worm? id = some shooter ∧ projectile.owner = some id ∧
    projectile.weapon = shooter.weapon ∧
    w.flight projectile w.config.timeStep = .ok (impact, time) ∧ w.Fells impact shooter.weapon other

end World

namespace Command

variable [Scalar α] {s : Simulation α} {id : EntityId}

open World (Reach)

omit [Scalar α] in
/-- The end of a flight reaches the worm that was struck. -/
theorem reach_land (id : EntityId) (impact : Impact α) (weapon : WeaponKind) (s : Simulation α) :
    (land impact weapon).Ends s
      (fun _ s' => Reach id (s.world.Fells impact weapon) s.world s'.world ∧
        s'.world.projectile = none)
      fun _ s' => Reach id (s.world.Fells impact weapon) s.world s'.world := by
  have hclear : ∀ s' : Simulation α, Reach id (s.world.Fells impact weapon) s.world s'.world →
      removeProjectile.Ends s'
        (fun _ s'' => Reach id (s.world.Fells impact weapon) s.world s''.world ∧
          s''.world.projectile = none)
        fun _ s'' => Reach id (s.world.Fells impact weapon) s.world s''.world := by
    intro s' hreach
    have hgone := hreach.trans (.projectile none)
    exact ends_removeProjectile.mpr ⟨fun _ _ => ⟨fun _ _ => ⟨hgone, rfl⟩, fun _ _ => hgone⟩,
      fun _ => hreach⟩
  simp only [land, ends_bind, ends_world]
  cases impact with
  | terrain _ | outOfWorld _ =>
    simp only [ends_bind, ends_pure]
    exact hclear s (.refl _ _ _)
  | worm target position killed =>
    simp only [ends_bind, ends_requireWorm, ends_setWorm, ends_ite, ends_pure]
    refine ⟨fun worm hworm => ?_, fun _ => .refl _ _ _⟩
    let struck := worm.damage (weapon.spec s.world.config.weapons).damage
    let s₁ : Simulation α := { s with world := s.world.setWorm struck }
    have hstruck :
        Reach id (s.world.Fells (.worm target position killed) weapon) s.world s₁.world :=
      .damage hworm _
    refine ⟨fun hdead => ?_, fun _ => hclear s₁ hstruck⟩
    have hfells : s.world.Fells (.worm target position killed) weapon target :=
      ⟨position, killed, worm, rfl, hworm, by simpa [Worm.isAlive] using hdead⟩
    simp only [killWorm, ends_bind, ends_removeWorm, ends_pure]
    refine ⟨fun _ index _ hindex => ?_, fun _ => hstruck⟩
    have hgone := hstruck.trans (.leave hindex fun _ => hfells)
    exact ⟨fun _ _ => hclear { s₁ with world := _ } hgone, fun _ _ => hgone⟩

/-- A shot reaches the worm that it strikes, and leaves nothing in flight. -/
theorem reach_fireAndResolve (hs : s.world.Sound) (id : EntityId) (yieldPercent : Nat) :
    (fireAndResolve id yieldPercent s.world.config.timeStep).Ends s
      (fun _ s' => Reach id (s.world.Slays id) s.world s'.world ∧ s'.world.projectile = none)
      fun _ s' => s'.world = s.world := by
  have hrefused : (fireAndResolve id yieldPercent s.world.config.timeStep).Ends s
      (fun _ _ => True) fun _ s' => s'.world = s.world :=
    (torn_fireAndResolve hs id yieldPercent _).mono (fun _ _ _ => trivial)
      fun _ _ h => by simpa using h.2
  have hdone : (fireAndResolve id yieldPercent s.world.config.timeStep).Ends s
      (fun _ s' => Reach id (s.world.Slays id) s.world s'.world ∧ s'.world.projectile = none)
      fun _ _ => True := by
    rw [fireAndResolve, ends_bind]
    refine (ends_aim s id yieldPercent).mono ?_ fun _ _ _ => trivial
    rintro ⟨projectile, cost⟩ _ ⟨rfl, worm, hworm, hpay, howner, hweapon, -⟩
    let s₁ : Simulation α := { s with ids := ⟨s.ids.next + 1⟩ }
    simp only [ends_bind, ends_world, ends_lift]
    refine ⟨?_, fun _ _ => trivial⟩
    rintro ⟨impact, time⟩ hflight
    refine (launched_or_same (s := s₁) hs hworm projectile hpay).mono ?_ fun _ _ _ => trivial
    rintro _ s₂ ⟨p, hlaunched⟩
    refine (reach_land id impact projectile.weapon s₂).mono ?_ fun _ _ _ => trivial
    rintro _ s₃ ⟨hlanded, hempty⟩
    have hpaid : Reach id (s₁.world.Slays id) s₁.world s₂.world := by
      have hspent : Reach id (s₁.world.Slays id) s₁.world (s₁.world.setWorm (worm.paid cost)) :=
        .of_own hworm rfl (Nat.le_refl _)
      rw [hlaunched]
      exact hspent.trans (.projectile (some p))
    refine ⟨hpaid.trans (hlanded.mono fun other hother hfells => ?_), hempty⟩
    -- The launch has changed neither the worm that was struck nor the weapons.
    obtain ⟨position, killed, victim, rfl, hvictim, hdead⟩ := hfells
    rw [hlaunched] at hvictim hdead
    have hvictim : (s₁.world.setWorm (worm.paid cost)).worm? other = some victim := hvictim
    have hne : (worm.paid cost).id ≠ other := fun h => hother ((World.id_of_worm? hworm) ▸ h.symm)
    rw [World.worm?_setWorm, if_neg hne] at hvictim
    rw [hweapon] at hdead
    exact ⟨worm, projectile, _, time, hworm, howner, hweapon, hflight, position, killed, victim,
      rfl, hvictim, hdead⟩
  exact (hdone.and hrefused).mono (fun _ _ h => h.1) fun _ _ h => h.2

/-- **The reach of an action.** -/
theorem reach_act (hs : s.world.Sound) (id : EntityId) (action : Action α) :
    let w' := ((act id action).carryOut s).2.world
    Reach id (fun other => ∃ yieldPercent, action = .fire yieldPercent ∧ s.world.Slays id other)
        s.world w' ∧
      (w'.projectile = s.world.projectile ∨ w'.projectile = none) := by
  have hdoes : ∀ {slain : EntityId → Prop} {c : Command α Unit}, c.Does id →
      Reach id slain s.world (c.carryOut s).2.world ∧
        ((c.carryOut s).2.world.projectile = s.world.projectile ∨
          (c.carryOut s).2.world.projectile = none) := by
    intro slain c hc
    have hdeeds : World.Deeds id s.world (c.carryOut s).2.world := (hc s).of_both
    exact ⟨hdeeds.reach, .inl hdeeds.projectile_eq⟩
  cases action with
  | turn angle => exact hdoes (does_turn id angle)
  | move => exact hdoes (does_move id)
  | jump => exact hdoes (does_jump id)
  | toggleWeapon => exact hdoes (does_selectNextWeapon id)
  | fire yieldPercent =>
    refine Ends.of_both (P := fun s' => Reach id _ s.world s'.world ∧
      (s'.world.projectile = s.world.projectile ∨ s'.world.projectile = none)) ?_
    simp only [act, ends_bind, ends_world, ends_pure]
    refine (reach_fireAndResolve hs id yieldPercent).mono (fun _ s' h => ?_) fun _ s' hsame => ?_
    · exact ⟨h.1.mono fun other _ hslays => ⟨yieldPercent, rfl, hslays⟩, .inr h.2⟩
    · rw [hsame]
      exact ⟨.refl _ _ _, .inl rfl⟩

end Command

namespace Simulation

variable [Scalar α] {s : Simulation α} {id : EntityId}

open World (Reach)

/-! ### Runs -/

/-- The simulation after a worm has been let do some actions. -/
def afterActions (s : Simulation α) (id : EntityId) (actions : List (Action α)) : Simulation α :=
  s.after (actions.map (.act id))

private theorem afterActions_cons (s : Simulation α) (id : EntityId) (action : Action α)
    (actions : List (Action α)) : s.afterActions id (action :: actions) =
      Simulation.afterActions ((Command.act id action).carryOut s).2 id actions :=
  rfl

/-- One of the actions of a worm is a shot that slays another worm. -/
def Slain (s : Simulation α) (id : EntityId) (actions : List (Action α)) (other : EntityId) :
    Prop :=
  ∃ before yieldPercent rest, actions = before ++ .fire yieldPercent :: rest ∧
    (s.afterActions id before).world.Slays id other

/-- **The reach of some actions.** -/
theorem reach_afterActions (hs : s.world.Sound) (id : EntityId) (actions : List (Action α)) :
    let w' := (s.afterActions id actions).world
    Reach id (s.Slain id actions) s.world w' ∧
      (w'.projectile = s.world.projectile ∨ w'.projectile = none) := by
  induction actions generalizing s with
  | nil => exact ⟨.refl _ _ _, .inl rfl⟩
  | cons action actions ih =>
    obtain ⟨hfirst, hslot⟩ := Command.reach_act hs id action
    obtain ⟨hrest, hslot'⟩ := ih (hs.changes ((Command.alters_act id action).changes s))
    rw [afterActions_cons]
    refine ⟨(hfirst.mono fun other _ => ?_).trans (hrest.mono fun other _ => ?_), ?_⟩
    · rintro ⟨yieldPercent, rfl, hslays⟩
      exact ⟨[], yieldPercent, actions, rfl, hslays⟩
    · rintro ⟨before, yieldPercent, rest, rfl, hslays⟩
      exact ⟨action :: before, yieldPercent, rest, rfl, hslays⟩
    · rcases hslot' with hsame | hempty
      · exact hslot.imp hsame.trans hsame.trans
      · exact .inr hempty

/-- A run does what its actions do. -/
theorem world_run_eq {i : ProgramInstance α} (hi : i.Made) (hbound : i.worm = some id)
    (s : Simulation α) :
    (s.runInstance i).2.2.world = (s.afterActions id (i.run s).asked).world := by
  have hafter : (i.run s).stateAfter = s.afterActions id (i.run s).asked := by
    rw [afterActions, after, List.foldl_map]
    exact hi.stateAfter_eq hbound i.budget s
  rw [← hafter]
  rfl

omit [Scalar α] in
/-- Taking the program of a worm, or giving it one, concerns that worm alone. -/
theorem reach_withProgram (s : Simulation α) (id : EntityId) (slain : EntityId → Prop)
    (program : Option (ProgramInstance α)) :
    Reach id slain s.world (s.withProgram id program).world ∧
      (s.withProgram id program).world.projectile = s.world.projectile := by
  unfold withProgram
  split
  · rename_i worm hworm
    exact ⟨.of_own hworm rfl (Nat.le_refl _), rfl⟩
  · exact ⟨.refl _ _ _, rfl⟩

/-- **The reach of a program.** Whatever the program of a worm does and however its run ends, the
run reaches no further than the worm itself, rations, and worms that its shots strike. They leave
only if a shot takes their last hit points, and nothing is left in flight that was not before. -/
theorem Reachable.reach_of_program (hs : s.Reachable) {worm : Worm α} {i : ProgramInstance α}
    (hworm : s.world.worm? id = some worm) (hi : worm.program = some i) :
    let begun := s.withProgram id none
    let w' := ((Command.runProgram id).carryOut s).2.world
    Reach id (begun.Slain id (i.run begun).asked) s.world w' ∧
      (w'.projectile = s.world.projectile ∨ w'.projectile = none) := by
  have hsound := hs.sound
  obtain ⟨hmade, hbound⟩ := (hsound.made worm (World.mem_of_worm? hworm)).program hi
  rw [World.id_of_worm? hworm] at hbound
  let begun := s.withProgram id none
  have hbegun : begun.world.Sound := sound_withProgram hsound (by simp)
  obtain ⟨hran, hslot⟩ := reach_afterActions hbegun id (i.run begun).asked
  rw [← world_run_eq hmade hbound begun] at hran hslot
  obtain ⟨htaken, htaken'⟩ := reach_withProgram s id (begun.Slain id (i.run begun).asked) none
  obtain ⟨hgiven, hgiven'⟩ := reach_withProgram (begun.runInstance i).2.2 id
    (begun.Slain id (i.run begun).asked) (some (begun.runInstance i).2.1)
  rw [Command.carryOut_runProgram hworm hi]
  refine ⟨htaken.trans (hran.trans hgiven), ?_⟩
  rw [hgiven', ← htaken']
  exact hslot

/-- Two worms face to face, and the program of one of them is to fire. -/
def duel : Simulation Rat :=
  let rifle : WeaponSpec Rat :=
    { projectileMass := 0.01, minForce := 200000, maxForce := 200000, cost := 10, damage := 1000 }
  let config : GameConfig Rat :=
    { (default : GameConfig Rat) with
      weapons := { (default : WeaponConfig Rat) with rifle }
      timeStep := 0.05 }
  let program : Program Rat := { root := .fire (.literal (.double 100)), globals := .ofList [] }
  let start : Simulation Rat := { world := .fresh ⟨1⟩ (.empty 100 100) config, ids := ⟨3⟩ }
  start.after
    [.addWorm ((Worm.fresh "Ann" ⟨5, 5⟩ 0 0.5 config.worm ⟨1⟩).attachProgram (.of program 10)),
      .addWorm (.fresh "Ann" ⟨7, 5⟩ 0 0.5 config.worm ⟨2⟩)]

/-- The duel comes up in a game. -/
theorem reachable_duel : duel.Reachable := by
  refine (Reachable.onGrid ⟨3⟩ (World.onGrid_eq_ok_iff.mpr ⟨?_, rfl⟩)).after
    ⟨⟨.change (.make (Worm.make_eq_ok_iff.mpr ⟨?_, ?_, ?_, rfl⟩)) (.setProgram ?_), ?_⟩,
      ⟨.make (Worm.make_eq_ok_iff.mpr ⟨?_, ?_, ?_, rfl⟩), ?_⟩, trivial⟩
  case refine_5 =>
    rintro _ ⟨⟩
    exact ⟨.bind _ (.of _ 10 true), rfl⟩
  all_goals decide +kernel

/-- The first worm of the duel has a program. -/
theorem armed_duel : ∃ worm i, duel.world.worm? ⟨1⟩ = some worm ∧ worm.program = some i := by
  obtain ⟨worm, hworm, hi⟩ : ∃ worm, duel.world.worm? ⟨1⟩ = some worm ∧ worm.program.isSome :=
    (Option.any_eq_true _ _).mp (by decide +kernel)
  obtain ⟨i, hi⟩ := Option.isSome_iff_exists.mp hi
  exact ⟨worm, i, hworm, hi⟩

/-- The second worm is gone after the run, so it has been slain by a shot. -/
theorem reach_of_program_duel : ∃ worm i,
    duel.world.worm? ⟨1⟩ = some worm ∧ worm.program = some i ∧
      ((Command.runProgram ⟨1⟩).carryOut duel).2.world.order = [⟨1⟩] ∧
      (duel.withProgram ⟨1⟩ none).Slain ⟨1⟩ (i.run (duel.withProgram ⟨1⟩ none)).asked ⟨2⟩ := by
  obtain ⟨worm, i, hworm, hi⟩ := armed_duel
  have hgone : ((Command.runProgram ⟨1⟩).carryOut duel).2.world.order = [⟨1⟩] := by
    decide +kernel
  have hreach := (reachable_duel.reach_of_program hworm hi).1
  refine ⟨worm, i, hworm, hi, hgone, ?_⟩
  refine (hreach.listed ⟨2⟩ (by decide +kernel) (by decide)).resolve_left ?_
  rw [hgone]
  decide

end Simulation

end WormBattle
