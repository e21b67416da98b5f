import WormBattle.World.Program

/-!
# Shifting the numbers of entities

Where the numbers of entities begin is an accident of the process in which a game is played. To
compare a game with the same game under other numbers, everything that holds numbers of entities can
be **shifted**: every number in it grows by the same amount, and nothing else changes. Numbers also
stand in the values of programs, in the lists of entities that suspended loops go through, and in
refusals.

Shifting keeps the numbers apart and in their order (`EntityId.shift_inj`,
`EntityId.shift_lt_shift`), and this is all that a game makes of numbers.
-/

namespace WormBattle

variable {α β γ : Type}

/-! ### Numbers -/

/-- A number that is greater by `d`. -/
def EntityId.shift (d : Nat) (id : EntityId) : EntityId :=
  ⟨id.value + d⟩

namespace EntityId

variable {d : Nat} {id id' : EntityId}

/-- Shifted numbers are equal only if the numbers are. -/
@[simp] theorem shift_inj : id.shift d = id'.shift d ↔ id = id' := by
  cases id
  cases id'
  simp [shift]

/-- Shifting keeps numbers apart. -/
theorem shift_injective (d : Nat) : Function.Injective (shift d) :=
  fun _ _ => shift_inj.mp

/-- Shifting keeps numbers in their order. -/
theorem shift_lt_shift : (id.shift d).value < (id'.shift d).value ↔ id.value < id'.value := by
  simp [shift]

end EntityId

/-- The numbers that are free when everything is shifted. -/
def IdSupply.shift (d : Nat) (supply : IdSupply) : IdSupply :=
  ⟨supply.next + d⟩

/-! ### Programs -/

/-- A value with its reference shifted. -/
def Value.shift (d : Nat) : Value α → Value α
  | .double x => .double x
  | .bool b => .bool b
  | .entity id => .entity (id.map (EntityId.shift d))

/-- A table of variables with its values shifted. -/
def Globals.shift (d : Nat) (globals : Globals α) : Globals α where
  entries := globals.entries.map fun e => (e.1, e.2.shift d)
  nodup := by
    rw [List.map_map]
    exact globals.nodup

/-- An expression with its fixed values shifted. -/
def Expression.shift (d : Nat) : Expression α → Expression α
  | literal value => literal (value.shift d)
  | selfRef => selfRef
  | global name => global name
  | unary op operand => unary op (operand.shift d)
  | binary op lhs rhs => binary op (lhs.shift d) (rhs.shift d)
  | inspect property target => inspect property (target.shift d)
  | sameTeam target => sameTeam (target.shift d)
  | isWorm target => isWorm (target.shift d)
  | isFood target => isFood (target.shift d)
  | search angle => search (angle.shift d)

namespace Statement

mutual

/-- A statement with the fixed values in it shifted. -/
def shift (d : Nat) : Statement α → Statement α
  | turn angle => turn (angle.shift d)
  | move => move
  | jump => jump
  | toggleWeapon => toggleWeapon
  | fire yieldPercent => fire (yieldPercent.shift d)
  | skip => skip
  | assign name value => assign name (value.shift d)
  | print value => print (value.shift d)
  | ifElse condition then_ otherwise =>
    ifElse (condition.shift d) (then_.shift d) (otherwise.shift d)
  | whileLoop condition body => whileLoop (condition.shift d) (body.shift d)
  | forEach filter name body => forEach filter name (body.shift d)
  | sequence statements => sequence (shiftAll d statements)

/-- Some statements with the fixed values in them shifted. -/
def shiftAll (d : Nat) : List (Statement α) → List (Statement α)
  | [] => []
  | s :: rest => s.shift d :: shiftAll d rest

end

end Statement

/-- A program with its fixed and initial values shifted. -/
def Program.shift (d : Nat) (program : Program α) : Program α where
  root := program.root.shift d
  globals := program.globals.shift d

/-- A frame with the entities that are left to its loop shifted. -/
def Frame.shift (d : Nat) : Frame → Frame
  | sequence index => sequence index
  | ifElse thenBranch => ifElse thenBranch
  | whileLoop inBody => whileLoop inBody
  | forEach items inBody => forEach (items.map (EntityId.shift d)) inBody

/-- A program in use with all that it holds shifted. -/
def ProgramInstance.shift (d : Nat) (i : ProgramInstance α) : ProgramInstance α :=
  { i with
    program := i.program.shift d
    globals := i.globals.shift d
    worm := i.worm.map (EntityId.shift d)
    cursor := i.cursor.map (Frame.shift d) }

/-- An effect with the worm and the values in it shifted. -/
def Effect.shift (d : Nat) : Effect α → Effect α
  | assigned name value => assigned name (value.shift d)
  | printed value => printed (value.shift d)
  | asked worm action => asked (worm.shift d) action
  | done worm action => done (worm.shift d) action

/-! ### Entities -/

/-- A body with its number shifted. -/
def Body.shift (d : Nat) (b : Body α) : Body α :=
  { b with id := b.id.shift d }

/-- A ration with its number shifted. -/
def Food.shift (d : Nat) (f : Food α) : Food α :=
  { f with body := f.body.shift d }

/-- A projectile with its number and that of the worm that fired it shifted. -/
def Projectile.shift (d : Nat) (p : Projectile α) : Projectile α :=
  { p with body := p.body.shift d, owner := p.owner.map (EntityId.shift d) }

/-- A worm with its number and its program shifted. -/
def Worm.shift (d : Nat) (w : Worm α) : Worm α :=
  { w with body := w.body.shift d, program := w.program.map (ProgramInstance.shift d) }

/-- An entity with all that it holds shifted. -/
def Entity.shift (d : Nat) : Entity α → Entity α
  | worm w => worm (w.shift d)
  | food f => food (f.shift d)
  | projectile p => projectile (p.shift d)

/-- An impact with the struck worm shifted. -/
def Impact.shift (d : Nat) : Impact α → Impact α
  | worm target position killed => worm (target.shift d) position killed
  | terrain position => terrain position
  | outOfWorld position => outOfWorld position

/-! ### Worlds -/

/-- A world with all its entities shifted. -/
def World.shift (d : Nat) (w : World α) : World α :=
  { w with
    worms := w.worms.map (Worm.shift d)
    food := w.food.map (Food.shift d)
    projectile := w.projectile.map (Projectile.shift d) }

namespace World

variable (w : World α) (d : Nat)

/-- The worms of the shifted world, in the same turn order. -/
theorem worms_shift : (w.shift d).worms = w.worms.map (Worm.shift d) := rfl

/-- The rations of the shifted world, in the same order. -/
theorem food_shift : (w.shift d).food = w.food.map (Food.shift d) := rfl

/-- The projectile of the shifted world. -/
theorem projectile_shift :
    (w.shift d).projectile = w.projectile.map (Projectile.shift d) := rfl

end World

/-- A simulation with its world, its free numbers and what was told shifted. -/
def Simulation.shift (d : Nat) (s : Simulation α) : Simulation α where
  world := s.world.shift d
  ids := s.ids.shift d
  told := s.told.map (Effect.shift d)

/-! ### Refusals -/

namespace Error

/-- A refusal with the entity that it names shifted. -/
def shift (d : Nat) : Error α → Error α
  | notInThisWorld id => notInThisWorld (id.shift d)
  | notPlaced id => notPlaced (id.shift d)
  | notAWorm id => notAWorm (id.shift d)
  | notFood id => notFood (id.shift d)
  | alreadyHere id => alreadyHere (id.shift d)
  | inAnotherWorld id => inAnotherWorld (id.shift d)
  | entityTerminated id => entityTerminated (id.shift d)
  | stillListed id => stillListed (id.shift d)
  | alreadyTerminated id => alreadyTerminated (id.shift d)
  | nowhereToMove id => nowhereToMove (id.shift d)
  | cannotFall id => cannotFall (id.shift d)
  | neverLanded id => neverLanded (id.shift d)
  | cannotJump id => cannotJump (id.shift d)
  | firesInsideTerrain id => firesInsideTerrain (id.shift d)
  | other => other

/-- A shifted refusal is of the same kind. -/
theorem kind_shift (d : Nat) (e : Error α) : (e.shift d).kind = e.kind := by
  cases e <;> rfl

end Error

/-- A result with what it holds shifted by `f`, or the refusal shifted. -/
def shiftResult (d : Nat) (f : β → γ) : Except (Error α) β → Except (Error α) γ
  | .ok b => .ok (f b)
  | .error e => .error (e.shift d)

/-- A result as it is, or the refusal shifted. -/
abbrev shiftRefusal (d : Nat) : Except (Error α) β → Except (Error α) β :=
  shiftResult d id

section Results

variable {δ ε : Type} {d : Nat} {f : β → γ} {g : δ → ε}

/-- The same choice is made between two computations. -/
theorem ite_shift {p p' : Prop} [Decidable p] [Decidable p'] {x y : Except (Error α) β}
    {x' y' : Except (Error α) γ} (hp : p' ↔ p) (hx : x' = shiftResult d f x)
    (hy : y' = shiftResult d f y) :
    (if p' then x' else y') = shiftResult d f (if p then x else y) := by
  subst hx hy
  by_cases h : p
  · rw [if_pos h, if_pos (hp.mpr h)]
  · rw [if_neg h, if_neg fun h' => h (hp.mp h')]

/-- Of two computations in a row, the second goes on with what the first one came to. -/
theorem bind_shift {x : Except (Error α) δ} {x' : Except (Error α) ε} {k : δ → Except (Error α) β}
    {k' : ε → Except (Error α) γ} (hx : x' = shiftResult d g x)
    (hk : ∀ c, k' (g c) = shiftResult d f (k c)) :
    x' >>= k' = shiftResult d f (x >>= k) := by
  subst hx
  cases x with
  | ok c => exact hk c
  | error e => rfl

/-- A computation whose refusals do not name entities. -/
def Anonymous (x : Except (Error α) β) : Prop :=
  ∀ d, x = shiftRefusal d x

/-- Two computations in a row name no entity if neither of them does. -/
theorem Anonymous.bind {x : Except (Error α) δ} {k : δ → Except (Error α) β} (hx : Anonymous x)
    (hk : ∀ c, Anonymous (k c)) : Anonymous (x >>= k) :=
  fun d => bind_shift (hx d) fun c => hk c d

/-- A result names no entity in a refusal. -/
theorem anonymous_ok (b : β) : Anonymous (.ok b : Except (Error α) β) :=
  fun _ => rfl

/-- A choice between two computations names no entity if neither of them does. -/
theorem anonymous_ite {p : Prop} [Decidable p] {x y : Except (Error α) β} (hx : Anonymous x)
    (hy : Anonymous y) : Anonymous (if p then x else y) := by
  split
  · exact hx
  · exact hy

end Results

end WormBattle
