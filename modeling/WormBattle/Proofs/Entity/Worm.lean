import WormBattle.Entity.Worm

/-!
# What the operations of worms give

The operations of a worm that may be refused, each with the condition under which it is done and the
worm that it then gives. A ration of food is the last word on growing: `Worm.CanGrow` is what the
radius has to satisfy, and `Worm.grown` the worm afterwards.
-/

namespace WormBattle

/-! ### Refusals -/

section Refusals

variable {ε β γ : Type} {x : Except ε β} {f : β → Except ε γ}

/-- Two computations in a row have a result if both of them do. -/
theorem bind_eq_ok_iff {c : γ} : (x >>= f) = .ok c ↔ ∃ b, x = .ok b ∧ f b = .ok c := by
  cases x with
  | ok b => simp [bind, Except.bind]
  | error e => simp [bind, Except.bind]

/-- After a result the second computation goes on with it. -/
@[simp] theorem ok_bind (b : β) (f : β → Except ε γ) : (Except.ok b >>= f) = f b := rfl

/-- After a refusal nothing is computed. -/
@[simp] theorem error_bind (e : ε) (f : β → Except ε γ) :
    (Except.error e >>= f) = .error e := rfl

/-- Giving back a result, in the form in which cases are split. -/
@[simp] theorem pure_eq_ok (b : β) : (pure b : Except ε β) = .ok b := rfl

/-- Refusing, in the form in which cases are split. -/
@[simp] theorem throw_eq_error (e : ε) : (throw e : Except ε β) = .error e := rfl

end Refusals

open Scalar

variable {α : Type} [Scalar α]

/-! ### Bodies -/

namespace Body

variable {b b' : Body α} {position : Position α}

/-- A body is made at a finite position with a finite radius that is not too small. -/
theorem make_eq_ok_iff {radius minRadius : α} {id : EntityId} :
    make position radius minRadius id = .ok b ↔
      position.isFinite = true ∧ isFinite radius = true ∧ ¬radius < minRadius ∧
        b = { id, position, radius, minRadius, membership := .detached } := by
  rw [make, checkPosition, checkRadius]
  by_cases hposition : position.isFinite = true <;> by_cases hfinite : isFinite radius = true <;>
    by_cases hless : radius < minRadius <;>
    simp [hposition, hfinite, hless, eq_comm]

/-- A body can be moved to every finite position, and only the position changes. -/
theorem setPosition_eq_ok_iff : b.setPosition position = .ok b' ↔
    position.isFinite = true ∧ b' = { b with position } := by
  rw [setPosition, checkPosition]
  by_cases h : position.isFinite = true <;> simp [h, eq_comm]

private theorem setRadius_eq_ok_iff {radius : α} : b.setRadius radius = .ok b' ↔
    isFinite radius = true ∧ ¬radius < b.minRadius ∧ b' = { b with radius } := by
  rw [setRadius, checkRadius]
  by_cases hfinite : isFinite radius = true <;> by_cases hless : radius < b.minRadius <;>
    simp [hfinite, hless, eq_comm]

omit [Scalar α] in
/-- Only a detached body can join a world. -/
theorem attach_eq_ok_iff {world : WorldId} : b.attach world = .ok b' ↔
    b.membership = .detached ∧ b' = { b with membership := .member world } := by
  rw [attach]
  cases b.membership with
  | detached => simp [eq_comm]
  | member other => by_cases h : other = world <;> simp [h]
  | terminated => simp

end Body

/-! ### Worms -/

namespace Worm

variable {worm worm' : Worm α}

/-- A new worm: it has all its points, and neither a team nor a program. -/
def fresh (name : String) (position : Position α) (direction radius : α) (config : WormConfig α)
    (id : EntityId) : Worm α :=
  let worm : Worm α :=
    { body := { id, position, radius, minRadius := config.minRadius, membership := .detached }
      name
      direction
      actionPoints := 0
      hitPoints := 0
      team := none
      weapon := .rifle
      program := none
      config }
  { worm with actionPoints := worm.maxActionPoints, hitPoints := worm.maxHitPoints }

/-- A worm is made with a proper name, a direction within the circle and a body that can be made.
-/
theorem make_eq_ok_iff {name : String} {position : Position α} {direction radius : α}
    {config : WormConfig α} {id : EntityId} :
    make name position direction radius config id = .ok worm ↔
      Text.isWormName name = true ∧ Angle.isDirection direction = true ∧
        (position.isFinite = true ∧ isFinite radius = true ∧ ¬radius < config.minRadius) ∧
        worm = fresh name position direction radius config id := by
  rw [make, checkName, checkDirection]
  by_cases hname : Text.isWormName name = true
  · by_cases hdirection : Angle.isDirection direction = true
    · rw [if_pos hname, if_pos hdirection, ok_bind, ok_bind, bind_eq_ok_iff]
      simp only [hname, hdirection, true_and, Body.make_eq_ok_iff, pure_eq_ok, Except.ok.injEq]
      constructor
      · rintro ⟨-, ⟨hposition, hfinite, hmin, rfl⟩, rfl⟩
        exact ⟨⟨hposition, hfinite, hmin⟩, rfl⟩
      · rintro ⟨⟨hposition, hfinite, hmin⟩, rfl⟩
        exact ⟨_, ⟨hposition, hfinite, hmin, rfl⟩, rfl⟩
    · simp [hname, hdirection]
  · simp [hname]

omit [Scalar α] in
/-- A worm takes every proper name. -/
theorem rename_eq_ok_iff {name : String} : worm.rename name = .ok worm' ↔
    Text.isWormName name = true ∧ worm' = { worm with name } := by
  rw [rename, checkName]
  by_cases h : Text.isWormName name = true <;> simp [h, eq_comm]

/-- A worm takes every direction within the circle. -/
theorem setDirection_eq_ok_iff {direction : α} : worm.setDirection direction = .ok worm' ↔
    Angle.isDirection direction = true ∧ worm' = { worm with direction } := by
  rw [setDirection, checkDirection]
  by_cases h : Angle.isDirection direction = true <;> simp [h, eq_comm]

/-- A worm can be moved to every finite position, and only the position changes. -/
theorem setPosition_eq_ok_iff {position : Position α} : worm.setPosition position = .ok worm' ↔
    position.isFinite = true ∧ worm' = { worm with body := { worm.body with position } } := by
  simp only [setPosition, bind_eq_ok_iff, Body.setPosition_eq_ok_iff, pure_eq_ok, Except.ok.injEq]
  constructor
  · rintro ⟨-, ⟨hfinite, rfl⟩, rfl⟩
    exact ⟨hfinite, rfl⟩
  · rintro ⟨hfinite, rfl⟩
    exact ⟨_, ⟨hfinite, rfl⟩, rfl⟩

omit [Scalar α] in
/-- A worm pays what it can afford. -/
theorem spend_eq_ok_iff {cost : Nat} : worm.spend cost = .ok worm' ↔
    cost ≤ worm.actionPoints ∧ worm' = { worm with actionPoints := worm.actionPoints - cost } := by
  rw [spend]
  by_cases h : worm.actionPoints < cost
  · simp [h, Nat.not_le.mpr h]
  · simp [h, Nat.not_lt.mp h, eq_comm]

/-- A worm turns if the angle has a price that it can afford. -/
theorem turn_eq_ok_iff {angle : α} : worm.turn angle = .ok worm' ↔
    ∃ cost, worm.turnCost angle = .ok cost ∧ cost ≤ worm.actionPoints ∧
      worm' = { worm with
        actionPoints := worm.actionPoints - cost
        direction := Angle.toDirection (worm.direction + angle) } := by
  simp only [turn, bind_eq_ok_iff, spend_eq_ok_iff, pure_eq_ok, Except.ok.injEq]
  constructor
  · rintro ⟨cost, hcost, -, ⟨hle, rfl⟩, rfl⟩
    exact ⟨cost, hcost, hle, rfl⟩
  · rintro ⟨cost, hcost, hle, rfl⟩
    exact ⟨cost, hcost, _, ⟨hle, rfl⟩, rfl⟩

/-- A worm rests at the start of its turn, unless the sum of its hit points overflows. -/
theorem replenish_eq_ok_iff : worm.replenish = .ok worm' ↔
    worm.regained ≤ maxPoints ∧ worm' = worm.rested := by
  rw [replenish]
  by_cases h : maxPoints < worm.regained
  · simp [h, Nat.not_le.mpr h]
  · simp [h, Nat.not_lt.mp h, eq_comm]

/-- The worm may have the radius that it would have after eating. -/
def CanGrow (worm : Worm α) : Prop :=
  isFinite (worm.radius * worm.config.growthFactor) = true ∧
    ¬worm.radius * worm.config.growthFactor < worm.body.minRadius

instance (worm : Worm α) : Decidable worm.CanGrow :=
  inferInstanceAs (Decidable (_ ∧ _))

/-- The worm after eating. -/
def grown (worm : Worm α) : Worm α :=
  let larger :=
    { worm with body := { worm.body with radius := worm.radius * worm.config.growthFactor } }
  { larger with
    actionPoints := min worm.actionPoints larger.maxActionPoints
    hitPoints := min worm.hitPoints larger.maxHitPoints }

/-- A worm grows if its body may have the larger radius. -/
theorem grow_eq_ok_iff : worm.grow = .ok worm' ↔ worm.CanGrow ∧ worm' = worm.grown := by
  simp only [grow, bind_eq_ok_iff, Body.setRadius_eq_ok_iff, pure_eq_ok, Except.ok.injEq]
  constructor
  · rintro ⟨-, ⟨hfinite, hmin, rfl⟩, rfl⟩
    exact ⟨⟨hfinite, hmin⟩, rfl⟩
  · rintro ⟨⟨hfinite, hmin⟩, rfl⟩
    exact ⟨_, ⟨hfinite, hmin, rfl⟩, rfl⟩

/-! ### Teams -/

/-- Turning does not change the team. -/
theorem team_of_turn {angle : α} (h : worm.turn angle = .ok worm') : worm'.team = worm.team := by
  obtain ⟨cost, -, -, rfl⟩ := turn_eq_ok_iff.mp h
  rfl

/-- Being moved does not change the team. -/
theorem team_of_setPosition {position : Position α} (h : worm.setPosition position = .ok worm') :
    worm'.team = worm.team := by
  obtain ⟨-, rfl⟩ := setPosition_eq_ok_iff.mp h
  rfl

omit [Scalar α] in
/-- Paying does not change the team. -/
theorem team_of_spend {cost : Nat} (h : worm.spend cost = .ok worm') : worm'.team = worm.team := by
  obtain ⟨-, rfl⟩ := spend_eq_ok_iff.mp h
  rfl

/-- Growing does not change the team. -/
theorem team_of_grow (h : worm.grow = .ok worm') : worm'.team = worm.team := by
  obtain ⟨-, rfl⟩ := grow_eq_ok_iff.mp h
  rfl

end Worm

end WormBattle
