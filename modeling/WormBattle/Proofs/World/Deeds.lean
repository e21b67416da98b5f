import WormBattle.Proofs.World.Carrying
import WormBattle.Proofs.World.Change

/-!
# What worms do for themselves

Turning, selecting a weapon, moving, falling, eating and jumping concern the worm itself and what it
eats. Whatever such a command does, also before it is refused, is a sequence of **deeds** of its
worm (`World.Deed`, `Command.Does`): it changes, it takes out a ration, or it leaves.
-/

namespace WormBattle

variable {α β γ : Type} [Scalar α]

namespace World

/-- What a worm can do to its world, other than by firing. -/
inductive Deed (id : EntityId) (w : World α) : World α → Prop where
  /-- It changes, and stays in its team. -/
  | own {worm worm' : Worm α} : w.worm? id = some worm → worm.Change worm' →
      worm'.team = worm.team → Deed id w (w.setWorm worm')
  /-- It takes out a ration. -/
  | eat {ration : EntityId} {food : Food α} : w.food? ration = some food →
      Deed id w { w with food := w.food.eraseP fun f => f.id = ration }
  /-- It leaves. -/
  | leave {index : Nat} : w.worms.findIdx? (fun worm => worm.id = id) = some index →
      Deed id w { w with worms := w.worms.eraseIdx index, state := w.stateWithout index }

/-- A sequence of deeds of a worm. -/
def Deeds (id : EntityId) : World α → World α → Prop :=
  Relation.ReflTransGen (Deed id)

variable {w w' w'' : World α} {worm worm' : Worm α} {id : EntityId}

/-- Doing nothing. -/
@[refl] theorem Deeds.refl (id : EntityId) (w : World α) : Deeds id w w :=
  Relation.ReflTransGen.refl

private theorem Deeds.trans (h : Deeds id w w') (h' : Deeds id w' w'') : Deeds id w w'' :=
  Relation.ReflTransGen.trans h h'

private theorem Deed.deeds (h : Deed id w w') : Deeds id w w' :=
  Relation.ReflTransGen.single h

private theorem Deeds.of_worm (h : w.worm? id = some worm) (h' : worm.Change worm')
    (hteam : worm'.team = worm.team) : Deeds id w (w.setWorm worm') :=
  (Deed.own h h' hteam).deeds

/-- A worm that changes twice. -/
theorem Deeds.of_worm_twice {worm'' : Worm α} (h : w.worm? id = some worm)
    (h' : worm.Change worm') (hteam : worm'.team = worm.team) (h'' : worm'.Change worm'')
    (hteam' : worm''.team = worm'.team) : Deeds id w (w.setWorm worm'') := by
  obtain rfl := id_of_worm? h
  have hchanged := worm?_setWorm_change h h'
  rw [h'.id_eq] at hchanged
  rw [← setWorm_setWorm w h''.id_eq]
  exact (Deeds.of_worm h h' hteam).trans (.of_worm hchanged h'' hteam')

/-- A deed is a change of the world. -/
theorem Deed.change (h : Deed id w w') : w.Change .leaving w' := by
  cases h with
  | own hworm hchange hteam => exact .worm (worm?_self hworm) hchange hteam
  | eat hfood => exact .removeFood hfood
  | leave hindex => exact .removeWorm rfl hindex

/-- Deeds are changes of the world, in which worms may leave. -/
theorem Deeds.changes (h : Deeds id w w') : w.Changes .leaving w' :=
  Relation.ReflTransGen.mono (fun _ _ => Deed.change) _ _ h

end World

namespace Command

/-- What a command does, also before it is refused, is a sequence of deeds of a worm. -/
def Does (id : EntityId) (c : Command α β) : Prop :=
  ∀ s, c.Ends s (fun _ s' => World.Deeds id s.world s'.world)
    fun _ s' => World.Deeds id s.world s'.world

variable {id : EntityId}

private theorem Does.bind {c : Command α β} {f : β → Command α γ} (hc : c.Does id)
    (hf : ∀ b, (f b).Does id) : (c >>= f).Does id := by
  intro s
  rw [ends_bind]
  exact (hc s).mono (fun b s' h => (hf b s').mono (fun _ _ => h.trans) fun _ _ => h.trans)
    fun _ _ h => h

/-- A command that comes after some deeds. -/
theorem Does.after {c : Command α β} (h : c.Does id) {w : World α} {s : Simulation α}
    (hw : World.Deeds id w s.world) :
    c.Ends s (fun _ s' => World.Deeds id w s'.world) fun _ s' => World.Deeds id w s'.world :=
  (h s).mono (fun _ _ => hw.trans) fun _ _ => hw.trans

private theorem does_pure (b : β) : (pure b : Command α β).Does id :=
  fun _ => ends_pure.mpr (.refl _ _)

private theorem does_world : (world : Command α (World α)).Does id :=
  fun _ => ends_world.mpr (.refl _ _)

/-- A worm that turns changes itself. -/
theorem does_turn (id : EntityId) (angle : α) : (turn id angle).Does id := by
  intro s
  simp only [turn, ends_bind, ends_requireWorm, ends_lift, ends_setWorm]
  refine ⟨fun worm hworm => ⟨fun worm' hturn => ?_, fun _ _ => .refl _ _⟩, fun _ => .refl _ _⟩
  exact .of_worm hworm (.turn hturn) (Worm.team_of_turn hturn)

/-- A worm that takes the next weapon changes itself. -/
theorem does_selectNextWeapon (id : EntityId) : (selectNextWeapon (α := α) id).Does id := by
  intro s
  simp only [selectNextWeapon, ends_bind, ends_requireWorm, ends_setWorm]
  exact ⟨fun worm hworm => .of_worm hworm .selectNextWeapon rfl, fun _ => .refl _ _⟩

private theorem does_killWorm (id : EntityId) : (killWorm (α := α) id).Does id := by
  intro s
  simp only [killWorm, ends_bind, ends_removeWorm, ends_pure]
  refine ⟨fun worm index _ hindex => ?_, fun _ => .refl _ _⟩
  have hgone := (World.Deed.leave hindex).deeds
  exact ⟨fun _ _ => hgone, fun _ _ => hgone⟩

private theorem does_eatEach (id : EntityId) (food : List EntityId) :
    (eatEach (α := α) id food).Does id := by
  induction food with
  | nil => exact does_pure ()
  | cons ration rest ih =>
    intro s
    simp only [eatEach, ends_bind, ends_removeFood, ends_requireWorm, ends_lift, ends_setWorm]
    refine ⟨fun food hfood => ?_, fun _ => .refl _ _⟩
    have heaten : World.Deeds id s.world { s.world with food := s.world.food.eraseP _ } :=
      (World.Deed.eat hfood).deeds
    refine ⟨fun _ _ => ⟨fun worm hworm => ⟨fun worm' hgrow => ?_, fun _ _ => heaten⟩,
      fun _ => heaten⟩, fun _ _ => heaten⟩
    exact ih.after (heaten.trans (.of_worm hworm (.grow hgrow) (Worm.team_of_grow hgrow)))

/-- A worm that eats takes out rations and changes itself. -/
theorem does_eat (id : EntityId) : (eat (α := α) id).Does id := by
  intro s
  simp only [eat, ends_bind, ends_requireWorm, ends_world, ends_pure]
  exact ⟨fun _ _ => does_eatEach id _ s, fun _ => .refl _ _⟩

/-- A worm that falls changes itself and eats, or leaves. -/
theorem does_fall (id : EntityId) : (fall (α := α) id).Does id := by
  intro s
  simp only [fall, ends_bind, ends_world, ends_ite, ends_throw, ends_requireWorm, ends_lift]
  refine ⟨fun _ => .refl _ _, fun _ => ⟨fun worm hworm => ⟨fun landing _ => ?_,
    fun _ _ => .refl _ _⟩, fun _ => .refl _ _⟩⟩
  cases landing with
  | none => exact does_killWorm id s
  | some landed =>
    simp only [ends_bind, ends_lift, ends_setWorm, ends_ite, ends_pure]
    refine ⟨fun worm' hplaced => ?_, fun _ _ => .refl _ _⟩
    have hlanded : World.Deeds id s.world (s.world.setWorm
        (worm'.damage (worm.fallDamage (worm.position.y - landed.y)))) :=
      .of_worm_twice hworm (.setPosition hplaced) (Worm.team_of_setPosition hplaced) (.damage _) rfl
    exact ⟨fun _ => (does_eat id).after hlanded, fun _ => (does_killWorm id).after hlanded⟩

/-- A worm that moves changes itself, eats, and falls. -/
theorem does_move (id : EntityId) : (move (α := α) id).Does id := by
  intro s
  simp only [move, ends_bind, ends_world, ends_lift, ends_requireWorm, ends_setWorm]
  refine ⟨?_, fun _ _ => .refl _ _⟩
  rintro ⟨target, cost⟩ -
  refine ⟨fun worm hworm => ⟨fun _ _ => ⟨fun paid hpaid => ?_, fun _ _ => .refl _ _⟩,
    fun _ _ => .refl _ _⟩, fun _ => .refl _ _⟩
  have hteam := Worm.team_of_spend hpaid
  refine ⟨fun placed hplaced => ?_, fun _ _ => .of_worm hworm (.spend hpaid) hteam⟩
  have hmoved : World.Deeds id s.world (s.world.setWorm placed) :=
    .of_worm_twice hworm (.spend hpaid) hteam (.setPosition hplaced)
      (Worm.team_of_setPosition hplaced)
  rw [← World.setWorm_setWorm _ (Worm.Change.setPosition hplaced).id_eq] at hmoved
  simp only [ends_ite, ends_bind, ends_world]
  refine ⟨fun _ => ?_, fun _ => (does_killWorm id).after hmoved⟩
  refine ((does_eat id).after hmoved).mono (fun _ s' heaten => ?_) fun _ _ h => h
  exact ⟨fun _ => (does_fall id).after heaten, fun _ => heaten⟩

/-- A worm that jumps changes itself and eats, or leaves. -/
theorem does_jumpWith (id : EntityId) (timeStep : α) : (jumpWith id timeStep).Does id := by
  intro s
  simp only [jumpWith, ends_bind, ends_world, ends_lift]
  refine ⟨fun _ _ => ?_, fun _ _ => .refl _ _⟩
  split
  · rename_i landing _
    simp only [ends_bind, ends_requireWorm, ends_setWorm, ends_lift]
    refine ⟨fun worm hworm => ?_, fun _ => .refl _ _⟩
    refine ⟨fun placed hplaced => ?_, fun _ _ => .of_worm hworm .drain rfl⟩
    have hjumped : World.Deeds id s.world (s.world.setWorm placed) :=
      .of_worm_twice hworm .drain rfl (.setPosition hplaced) (Worm.team_of_setPosition hplaced)
    rw [← World.setWorm_setWorm _ (Worm.Change.setPosition hplaced).id_eq] at hjumped
    cases landing with
    | exit _ _ => exact (does_killWorm id).after hjumped
    | ground _ _ => exact ((does_eat id).bind fun _ => does_pure ()).after hjumped
  · exact .refl _ _

/-- A worm that jumps changes itself and eats, or leaves. -/
theorem does_jump (id : EntityId) : (jump (α := α) id).Does id :=
  does_world.bind fun _ => does_jumpWith id _

end Command

end WormBattle
