import WormBattle.Proofs.Renumbering.Runs

/-!
# Worlds under other numbers

What is looked up, computed and shown in a shifted world is what is looked up, computed and shown in
the world, shifted: its entities, their properties and places, and the factions, of which one may
have won (`World.view_shift`, `World.winner?_shift`).
-/

namespace WormBattle

variable {α : Type} {d : Nat}

/-! ### Bodies -/

namespace Body

variable (b : Body α)

/-- A shifted body joins a world as the body does. -/
theorem attach_shift (world : WorldId) :
    (b.shift d).attach world = shiftResult d (shift d) (b.attach world) := by
  obtain ⟨id, position, radius, minRadius, membership⟩ := b
  cases membership with
  | detached | terminated => rfl
  | member other => exact ite_shift (p := other = world) Iff.rfl rfl rfl

/-- A shifted body leaves its world as the body does. -/
theorem detach_shift : (b.shift d).detach = b.detach.shift d := by
  obtain ⟨id, position, radius, minRadius, membership⟩ := b
  cases membership <;> rfl

/-- A shifted body ends as the body does. -/
theorem terminate_shift : (b.shift d).terminate = shiftResult d (shift d) b.terminate := by
  obtain ⟨id, position, radius, minRadius, membership⟩ := b
  cases membership <;> rfl

/-- Letting an entity go for good. -/
theorem terminate_detach_shift :
    (b.shift d).detach.terminate = shiftResult d (shift d) b.detach.terminate := by
  rw [b.detach_shift, terminate_shift]

variable [Scalar α]

private theorem anonymous_checkPosition (position : Position α) :
    Anonymous (checkPosition position) :=
  anonymous_ite (anonymous_ok ()) fun _ => rfl

private theorem anonymous_checkRadius (radius minimum : α) :
    Anonymous (checkRadius radius minimum) :=
  anonymous_ite (fun _ => rfl) (anonymous_ok ())

/-- A body with a shifted number is made as the body is. -/
theorem make_shift (position : Position α) (radius minRadius : α) (id : EntityId) :
    make position radius minRadius (id.shift d) =
      shiftResult d (shift d) (make position radius minRadius id) :=
  bind_shift (anonymous_checkPosition position d) fun _ =>
    bind_shift (anonymous_checkRadius radius minRadius d) fun _ => rfl

/-- A shifted body is moved as the body is. -/
theorem setPosition_shift (position : Position α) :
    (b.shift d).setPosition position = shiftResult d (shift d) (b.setPosition position) :=
  bind_shift (anonymous_checkPosition position d) fun _ => rfl

private theorem setRadius_shift (radius : α) :
    (b.shift d).setRadius radius = shiftResult d (shift d) (b.setRadius radius) :=
  bind_shift (anonymous_checkRadius radius b.minRadius d) fun _ => rfl

end Body

/-! ### Entities -/

/-- A bad yield is refused without naming an entity. -/
theorem anonymous_checkYield (yieldPercent : Nat) :
    Anonymous (checkYield yieldPercent : Except (Error α) Unit) :=
  anonymous_ite (fun _ => rfl) (anonymous_ok ())

section Making

variable [Scalar α]

/-- A ration with a shifted number is made as the ration is. -/
theorem Food.make_shift (position : Position α) (config : FoodConfig α) (id : EntityId) :
    make position config (id.shift d) = shiftResult d (shift d) (make position config id) :=
  bind_shift (Body.make_shift position config.radius leastRadius id) fun _ => rfl

/-- A projectile with a shifted number and owner is made as the projectile is. -/
theorem Projectile.make_shift (position : Position α) (direction : α) (weapon : WeaponKind)
    (yieldPercent : Nat) (config : WeaponConfig α) (owner : Option EntityId) (id : EntityId) :
    make position direction weapon yieldPercent config (owner.map (EntityId.shift d))
      (id.shift d) =
      shiftResult d (shift d) (make position direction weapon yieldPercent config owner id) := by
  refine bind_shift (anonymous_checkYield yieldPercent d) fun _ => ?_
  exact ite_shift Iff.rfl rfl (bind_shift (Body.make_shift ..) fun _ => rfl)

namespace Worm

variable (w : Worm α)

omit [Scalar α] in
private theorem anonymous_checkName (name : String) :
    Anonymous (checkName name : Except (Error α) Unit) :=
  anonymous_ite (anonymous_ok ()) fun _ => rfl

private theorem anonymous_checkDirection (direction : α) : Anonymous (checkDirection direction) :=
  anonymous_ite (anonymous_ok ()) fun _ => rfl

/-- A worm with a shifted number is made as the worm is. -/
theorem make_shift (name : String) (position : Position α) (direction radius : α)
    (config : WormConfig α) (id : EntityId) :
    make name position direction radius config (id.shift d) =
      shiftResult d (shift d) (make name position direction radius config id) :=
  bind_shift (anonymous_checkName name d) fun _ =>
    bind_shift (anonymous_checkDirection direction d) fun _ =>
      bind_shift (Body.make_shift position radius config.minRadius id) fun _ => rfl

/-- A shifted worm is moved as the worm is. -/
theorem setPosition_shift (position : Position α) :
    (w.shift d).setPosition position = shiftResult d (shift d) (w.setPosition position) :=
  bind_shift (w.body.setPosition_shift position) fun _ => rfl

/-- A bad angle is refused without naming an entity. -/
theorem anonymous_turnCost (angle : α) : Anonymous (w.turnCost angle) :=
  anonymous_ite (fun _ => rfl) (anonymous_ok _)

omit [Scalar α] in
/-- A shifted worm pays as the worm does. -/
theorem spend_shift (cost : Nat) :
    (w.shift d).spend cost = shiftResult d (shift d) (w.spend cost) :=
  ite_shift (p := w.actionPoints < cost) Iff.rfl rfl rfl

/-- A shifted worm turns as the worm does. -/
theorem turn_shift (angle : α) :
    (w.shift d).turn angle = shiftResult d (shift d) (w.turn angle) :=
  bind_shift (w.anonymous_turnCost angle d) fun cost =>
    bind_shift (w.spend_shift cost) fun _ => rfl

/-- A shifted worm grows as the worm does. -/
theorem grow_shift : (w.shift d).grow = shiftResult d (shift d) w.grow :=
  bind_shift (w.body.setRadius_shift _) fun _ => rfl

end Worm

end Making

/-! ### Looking things up -/

namespace World

variable (w : World α)

/-- The worm of a shifted number is the shifted worm. -/
@[simp] theorem worm?_shift (id : EntityId) :
    (w.shift d).worm? (id.shift d) = (w.worm? id).map (Worm.shift d) := by
  show (w.worms.map (Worm.shift d)).find? _ = (w.worms.find? _).map _
  rw [List.find?_map]
  refine congrArg (Option.map _) (congrArg (List.find? · w.worms) (funext fun worm => ?_))
  exact decide_eq_decide.mpr EntityId.shift_inj

/-- The ration of a shifted number is the shifted ration. -/
@[simp] theorem food?_shift (id : EntityId) :
    (w.shift d).food? (id.shift d) = (w.food? id).map (Food.shift d) := by
  show (w.food.map (Food.shift d)).find? _ = (w.food.find? _).map _
  rw [List.find?_map]
  refine congrArg (Option.map _) (congrArg (List.find? · w.food) (funext fun food => ?_))
  exact decide_eq_decide.mpr EntityId.shift_inj

/-- A worm is missed alike, and the refusal names the shifted number. -/
theorem requireWorm_shift (id : EntityId) :
    (w.shift d).requireWorm (id.shift d) = shiftResult d (Worm.shift d) (w.requireWorm id) := by
  rw [requireWorm, requireWorm, worm?_shift]
  cases w.worm? id <;> rfl

/-- An entity is listed in the shifted world under its shifted number. -/
theorem contains_shift (id : EntityId) : (w.shift d).contains (id.shift d) = w.contains id := by
  have hprojectile : (w.projectile.map (Projectile.shift d)).any (fun p => p.id = id.shift d) =
      w.projectile.any fun p => p.id = id := by
    cases w.projectile with
    | none => rfl
    | some p => exact decide_eq_decide.mpr EntityId.shift_inj
  rw [contains, contains, worm?_shift, food?_shift, Option.isSome_map, Option.isSome_map]
  exact congrArg (_ || ·) hprojectile

/-- The members of a team, in the same order. -/
theorem teamMembers_shift (name : String) :
    (w.shift d).teamMembers name = (w.teamMembers name).map (EntityId.shift d) := by
  show ((w.worms.map (Worm.shift d)).filter _).map _ = ((w.worms.filter _).map _).map _
  rw [List.filter_map, List.map_map, List.map_map]
  rfl

/-- The current worm of the shifted world is the shifted one. -/
theorem currentWorm?_shift : (w.shift d).currentWorm? = w.currentWorm?.map (Worm.shift d) := by
  have hstate : (w.shift d).state = w.state := rfl
  rw [currentWorm?, currentWorm?, hstate]
  cases w.state with
  | inProgress turn =>
    by_cases hremoved : turn.currentRemoved = true
    · simp only [if_pos hremoved, Option.map_none]
    · simp only [if_neg hremoved]
      exact List.getElem?_map
  | notStarted | finished | terminated => rfl

/-! ### Changing what a world holds -/

/-- A worm is written back to the shifted world at the same place. -/
theorem setWorm_shift (worm : Worm α) :
    (w.shift d).setWorm (worm.shift d) = (w.setWorm worm).shift d := by
  have hreplace : ∀ worms : List (Worm α),
      replaceWorm (worm.shift d) (worms.map (Worm.shift d)) =
        (replaceWorm worm worms).map (Worm.shift d) := by
    intro worms
    induction worms with
    | nil => rfl
    | cons other rest ih =>
      have hid : (other.shift d).id = (worm.shift d).id ↔ other.id = worm.id := EntityId.shift_inj
      rw [List.map_cons, replaceWorm, replaceWorm, ih]
      by_cases hother : other.id = worm.id
      · rw [if_pos hother, if_pos (hid.mpr hother)]
        rfl
      · rw [if_neg hother, if_neg fun h => hother (hid.mp h)]
        rfl
  exact congrArg (fun worms => { w.shift d with worms }) (hreplace w.worms)

/-- A ration is put at the same place among the shifted rations, as the order of numbers is kept.
-/
theorem insertFood_shift (food : Food α) (rations : List (Food α)) :
    insertFood (food.shift d) (rations.map (Food.shift d)) =
      (insertFood food rations).map (Food.shift d) := by
  induction rations with
  | nil => rfl
  | cons other rest ih =>
    have hlt : (food.shift d).id.value < (other.shift d).id.value ↔
        food.id.value < other.id.value := EntityId.shift_lt_shift
    rw [List.map_cons, insertFood, insertFood, ih]
    by_cases hbefore : food.id.value < other.id.value
    · rw [if_pos hbefore, if_pos (hlt.mpr hbefore)]
      rfl
    · rw [if_neg hbefore, if_neg fun h => hbefore (hlt.mp h)]
      rfl

/-! ### What there is -/

private theorem kindOf_shift (id : EntityId) : (w.shift d).kindOf (id.shift d) = w.kindOf id := by
  rw [kindOf, kindOf, worm?_shift, food?_shift, Option.isSome_map, Option.isSome_map]

private theorem bodyOf_shift (id : EntityId) :
    (w.shift d).bodyOf (id.shift d) = (w.bodyOf id).map (Body.shift d) := by
  rw [bodyOf, bodyOf, worm?_shift, food?_shift]
  cases w.worm? id with
  | some worm => rfl
  | none => cases w.food? id <;> rfl

private theorem entities_shift (filter : EntityFilter) :
    (w.shift d).entities filter = (w.entities filter).map (EntityId.shift d) := by
  have hworms : (w.worms.map (Worm.shift d)).map Worm.id =
      (w.worms.map Worm.id).map (EntityId.shift d) := by
    rw [List.map_map, List.map_map]
    rfl
  have hfood : (w.food.map (Food.shift d)).map Food.id =
      (w.food.map Food.id).map (EntityId.shift d) := by
    rw [List.map_map, List.map_map]
    rfl
  cases filter with
  | worm => exact hworms
  | food => exact hfood
  | any =>
    show (w.worms.map (Worm.shift d)).map Worm.id ++ (w.food.map (Food.shift d)).map Food.id =
      (w.worms.map Worm.id ++ w.food.map Food.id).map (EntityId.shift d)
    rw [hworms, hfood, List.map_append]

end World

/-! ### Factions -/

/-- A faction with its worm shifted. -/
def Faction.shift (d : Nat) : Faction → Faction
  | team name => team name
  | solo id => solo (id.shift d)

private theorem Faction.shift_injective (d : Nat) : Function.Injective (shift d) := by
  intro faction faction' h
  cases faction <;> cases faction' <;> simp_all [shift]

/-- Of each of some things one is kept, whatever they are called. -/
theorem eraseDups_map_of_injective {β γ : Type} [BEq β] [LawfulBEq β] [BEq γ] [LawfulBEq γ]
    {f : β → γ} (hf : Function.Injective f) (l : List β) :
    (l.map f).eraseDups = l.eraseDups.map f := by
  -- On the length, since after the first element all of its repetitions go at once.
  induction hn : l.length using Nat.strongRecOn generalizing l with
  | ind n ih =>
    cases l with
    | nil => rfl
    | cons b rest =>
      have hothers : (rest.map f).filter (fun c => !c == f b) =
          (rest.filter fun c => !c == b).map f := by
        rw [List.filter_map]
        refine congrArg (List.map f) (List.filter_congr fun c _ => ?_)
        exact congrArg not (Bool.eq_iff_iff.mpr (by simp [hf.eq_iff]))
      have hlt : (rest.filter fun c => !c == b).length < n := by
        have hle := List.length_filter_le (fun c => !c == b) rest
        rw [List.length_cons] at hn
        omega
      rw [List.map_cons, List.eraseDups_cons, List.eraseDups_cons, hothers, ih _ hlt _ rfl,
        List.map_cons]

namespace World

variable (w : World α)

private theorem factions_shift : (w.shift d).factions = w.factions.map (Faction.shift d) := by
  have hfaction : ∀ worm : Worm α, (worm.shift d).faction = worm.faction.shift d := by
    intro worm
    have hteam : (worm.shift d).team = worm.team := rfl
    rw [Worm.faction, Worm.faction, hteam]
    cases worm.team <;> rfl
  rw [factions, factions, ← eraseDups_map_of_injective (Faction.shift_injective d)]
  refine congrArg List.eraseDups ?_
  show ((w.worms.map (Worm.shift d)).filter _).map _ = _
  rw [List.filter_map, List.map_map, List.map_map]
  exact List.map_congr_left fun worm _ => hfaction worm

/-- Whether a game is over does not depend on the numbers. -/
theorem isGameOver_shift : (w.shift d).isGameOver = w.isGameOver := by
  rw [isGameOver, isGameOver, factions_shift, List.length_map]

/-- **Who has won does not depend on the numbers.** -/
theorem winner?_shift : (w.shift d).winner? = w.winner? := by
  rw [winner?, winner?, factions_shift]
  -- Nobody has won unless one faction is left, and then it is a team or a worm of its own.
  rcases w.factions with - | ⟨⟨name⟩ | ⟨id⟩, - | ⟨other, rest⟩⟩
  · rfl
  · rfl
  · rfl
  · show ((w.shift d).worm? (id.shift d)).map _ = (w.worm? id).map _
    rw [worm?_shift, Option.map_map]
    rfl
  · rfl

private theorem livingFrom_shift (steps index : Nat) :
    (w.shift d).livingFrom steps index = w.livingFrom steps index := by
  induction steps generalizing index with
  | zero => rfl
  | succ steps ih =>
    have hworm : (w.shift d).worms[index]? = w.worms[index]?.map (Worm.shift d) :=
      List.getElem?_map
    have hlength : (w.shift d).worms.length = w.worms.length := List.length_map _
    rw [livingFrom, livingFrom, hworm]
    cases w.worms[index]? with
    | none => rfl
    | some worm =>
      simp only [Option.map_some, hlength, ih]
      rfl

/-- Whose turn is next does not depend on the numbers. -/
theorem nextIndex_shift (turn : Turn) : (w.shift d).nextIndex turn = w.nextIndex turn := by
  have hlength : (w.shift d).worms.length = w.worms.length := List.length_map _
  simp only [nextIndex, hlength, livingFrom_shift]

variable [Scalar α]

private theorem replenishAt_shift (index : Nat) (worms : List (Worm α)) :
    replenishAt index (worms.map (Worm.shift d)) =
      shiftResult d (List.map (Worm.shift d)) (replenishAt index worms) := by
  rw [replenishAt, replenishAt, List.getElem?_map]
  cases worms[index]? with
  | none => rfl
  | some worm =>
    have hrests : (worm.shift d).replenish = shiftResult d (Worm.shift d) worm.replenish :=
      ite_shift Iff.rfl rfl rfl
    refine bind_shift hrests fun rested => ?_
    rw [← List.map_set]
    rfl

/-- The turn is handed to the same place in the shifted world. -/
theorem handTurn_shift (index number : Nat) :
    (w.shift d).handTurn index number = shiftResult d (shift d) (w.handTurn index number) :=
  bind_shift (replenishAt_shift index w.worms) fun _ => rfl

/-! ### What programs see -/

private theorem inspect_shift (entity : EntityId) (property : Property) :
    (w.shift d).inspect (entity.shift d) property =
      shiftRefusal d (w.inspect entity property) := by
  rw [inspect, inspect, worm?_shift, food?_shift]
  cases w.worm? entity with
  | some worm => cases property <;> rfl
  | none =>
    cases w.food? entity with
    | none => rfl
    | some food => cases property <;> rfl

/-- **Programs see the same of a shifted world**, up to the numbers. -/
theorem view_shift : w.view.Shifts d (w.shift d).view where
  kindOf := w.kindOf_shift
  positionOf entity := by
    show ((w.shift d).bodyOf _).map _ = (w.bodyOf entity).map _
    rw [bodyOf_shift, Option.map_map]
    rfl
  radiusOf entity := by
    show ((w.shift d).bodyOf _).map _ = (w.bodyOf entity).map _
    rw [bodyOf_shift, Option.map_map]
    rfl
  inspect := w.inspect_shift
  teamOf entity := by
    show ((w.shift d).worm? _).bind _ = (w.worm? entity).bind _
    rw [worm?_shift]
    cases w.worm? entity <;> rfl
  entities := w.entities_shift

end World

end WormBattle
