import WormBattle.Proofs.Renumbering.Shift

/-!
# Programs under other numbers

A view **shifts** to another one that shows the same entities under shifted numbers (`View.Shifts`).
What a shifted expression has for value there is the shifted value, and it fails there for the
shifted reason (`Expression.eval_shift`). Whether a program is well-formed has nothing to do with
numbers (`Program.isWellFormed_shift`).
-/

namespace WormBattle

variable {α : Type} {d : Nat}

/-! ### Variables -/

/-- A shifted value has the same type. -/
@[simp] theorem Value.type_shift (v : Value α) : (v.shift d).type = v.type := by
  cases v <;> rfl

namespace Globals

variable (globals : Globals α) (name : String)

/-- The shifted table has the shifted value of a variable. -/
@[simp] theorem get?_shift :
    (globals.shift d).get? name = (globals.get? name).map (Value.shift d) := by
  obtain ⟨entries, hnodup⟩ := globals
  show lookup name (entries.map _) = (lookup name entries).map _
  clear hnodup
  induction entries with
  | nil => rfl
  | cons e rest ih =>
    simp only [List.map_cons, lookup, ih]
    split <;> rfl

/-- The shifted table has the same variables with the same types. -/
@[simp] theorem type?_shift : (globals.shift d).type? name = globals.type? name := by
  rw [type?, get?_shift, Option.map_map]
  exact congrArg (Option.map · _) (funext Value.type_shift)

/-- A shifted value is set in the shifted table. -/
theorem insert_shift (value : Value α) :
    (globals.shift d).insert name (value.shift d) = (globals.insert name value).shift d := by
  have hput : ∀ entries : List (String × Value α),
      put name (value.shift d) (entries.map fun e => (e.1, e.2.shift d)) =
        (put name value entries).map fun e => (e.1, e.2.shift d) := by
    intro entries
    induction entries with
    | nil => rfl
    | cons e rest ih =>
      simp only [List.map_cons, put, ih]
      split <;> rfl
  exact mk.injEq .. |>.mpr (hput globals.entries)

end Globals

/-! ### Well-formedness -/

/-- An expression has the same type over the shifted table. -/
@[simp] theorem Expression.typeOf_shift (globals : Globals α) (e : Expression α) :
    (e.shift d).typeOf (globals.shift d) = e.typeOf globals := by
  induction e with
  | literal value => exact congrArg Except.ok value.type_shift
  | selfRef => rfl
  | global name => simp only [shift, typeOf, Globals.type?_shift]
  | unary op operand ih => simp only [shift, typeOf, ih]
  | binary op lhs rhs ihl ihr => simp only [shift, typeOf, ihl, ihr]
  | inspect _ target ih | sameTeam target ih | isWorm target ih | isFood target ih =>
    simp only [shift, typeOf, ih]
  | search angle ih => simp only [shift, typeOf, ih]

/-- An expression is refused for the same defect over the shifted table. -/
@[simp] theorem Expression.check_shift (globals : Globals α) (role : Role) (expected : ValueType)
    (e : Expression α) : (e.shift d).check (globals.shift d) role expected =
      e.check globals role expected := by
  rw [check, typeOf_shift, check]

namespace Statement

mutual

/-- Shifting a statement leaves its actions where they are. -/
@[simp] theorem containsAction_shift (s : Statement α) :
    (s.shift d).containsAction = s.containsAction :=
  match s with
  | turn _ | move | jump | toggleWeapon | fire _ | skip | assign _ _ | print _ => rfl
  | ifElse _ then_ otherwise => by
    rw [shift, containsAction, containsAction_shift then_, containsAction_shift otherwise,
      containsAction]
  | whileLoop _ body | forEach _ _ body => by
    rw [shift, containsAction, containsAction_shift body, containsAction]
  | sequence statements => by
    rw [shift, containsAction, anyContainsAction_shiftAll statements, containsAction]

private theorem anyContainsAction_shiftAll (statements : List (Statement α)) :
    anyContainsAction (shiftAll d statements) = anyContainsAction statements :=
  match statements with
  | [] => rfl
  | s :: rest => by
    rw [shiftAll, anyContainsAction, containsAction_shift s, anyContainsAction_shiftAll rest,
      anyContainsAction]

end

mutual

private theorem check_shift (globals : Globals α) (s : Statement α) :
    (s.shift d).check (globals.shift d) = s.check globals :=
  match s with
  | move | jump | toggleWeapon | skip => rfl
  | turn angle => angle.check_shift globals _ _
  | fire yieldPercent => yieldPercent.check_shift globals _ _
  | assign name value => by simp only [shift, check, Globals.type?_shift, Expression.check_shift]
  | print value => by simp only [shift, check, Expression.typeOf_shift]
  | ifElse condition then_ otherwise => by
    simp only [shift, check, Expression.check_shift, check_shift globals then_,
      check_shift globals otherwise]
  | whileLoop condition body => by
    simp only [shift, check, Expression.check_shift, check_shift globals body]
  | forEach _ name body => by
    simp only [shift, check, Globals.type?_shift, containsAction_shift, check_shift globals body]
  | sequence statements => by rw [shift, check, checkAll_shiftAll globals statements, check]

private theorem checkAll_shiftAll (globals : Globals α) (statements : List (Statement α)) :
    checkAll (globals.shift d) (shiftAll d statements) = checkAll globals statements :=
  match statements with
  | [] => rfl
  | s :: rest => by
    rw [shiftAll, checkAll, check_shift globals s, checkAll_shiftAll globals rest, checkAll]

end

end Statement

/-- **Whether a program is well-formed does not depend on the numbers in it.** -/
theorem Program.isWellFormed_shift (program : Program α) :
    (program.shift d).isWellFormed = program.isWellFormed := by
  have hcheck : (program.shift d).check = program.check :=
    Statement.check_shift program.globals program.root
  rw [isWellFormed, hcheck, isWellFormed]

/-- An instance of a shifted program. -/
theorem ProgramInstance.of_shift (program : Program α) (budget : Nat) (observed : Bool) :
    ProgramInstance.of (program.shift d) budget observed =
      (ProgramInstance.of program budget observed).shift d := by
  simp only [of, shift, program.isWellFormed_shift]
  rfl

/-! ### Values -/

namespace Value

/-- A shifted value reads as the same double. -/
theorem toDouble_shift (v : Value α) : (v.shift d).toDouble = shiftRefusal d v.toDouble := by
  cases v <;> rfl

/-- A shifted value reads as the same truth value. -/
theorem toBool_shift (v : Value α) : (v.shift d).toBool = shiftRefusal d v.toBool := by
  cases v <;> rfl

private theorem toEntity_shift (v : Value α) :
    (v.shift d).toEntity = shiftResult d (Option.map (EntityId.shift d)) v.toEntity := by
  cases v <;> rfl

variable [Scalar α]

/-- Shifted values are the same to a program exactly when the values are. -/
theorem same_shift (v v' : Value α) : (v.shift d).same (v'.shift d) = v.same v' := by
  cases v with
  | double x => cases v' <;> rfl
  | bool b => cases v' <;> rfl
  | entity i =>
    cases v' with
    | entity j =>
      have hiff : i.map (EntityId.shift d) = j.map (EntityId.shift d) ↔ i = j :=
        (Option.map_injective (EntityId.shift_injective d)).eq_iff
      exact Bool.eq_iff_iff.mpr (by simpa [shift, same] using hiff)
    | _ => rfl

end Value

variable [Scalar α]

private theorem UnaryOp.apply_shift (op : UnaryOp) (v : Value α) :
    op.apply (v.shift d) = shiftResult d (Value.shift d) (op.apply v) := by
  cases op with
  | not => exact bind_shift v.toBool_shift fun _ => rfl
  | negate | sqrt | sin | cos => exact bind_shift v.toDouble_shift fun _ => rfl

private theorem BinaryOp.apply_shift (op : BinaryOp) (left : Value α)
    (right : Except (Error α) (Value α)) :
    op.apply (left.shift d) (shiftResult d (Value.shift d) right) =
      shiftResult d (Value.shift d) (op.apply left right) := by
  have hbool : (do return .bool (← (← shiftResult d (Value.shift d) right).toBool)) =
      shiftResult d (Value.shift d) (do return (.bool (← (← right).toBool) : Value α)) :=
    bind_shift rfl fun v => bind_shift v.toBool_shift fun _ => rfl
  cases op with
  | and | or =>
    -- The right side counts only if the left one has not decided.
    refine bind_shift left.toBool_shift fun b => ?_
    cases b <;> first | rfl | exact hbool
  | eq | ne =>
    refine bind_shift rfl fun v => ?_
    rw [Value.type_shift, Value.type_shift, Value.same_shift]
    exact ite_shift Iff.rfl rfl rfl
  | add | sub | mul | div | lt | le | gt | ge =>
    exact bind_shift left.toDouble_shift fun x => bind_shift rfl fun v =>
      bind_shift v.toDouble_shift fun y => rfl

/-! ### Views -/

/-- A view shows under shifted numbers what another one shows. -/
structure View.Shifts (d : Nat) (view view' : View α) : Prop where
  kindOf : ∀ entity, view'.kindOf (entity.shift d) = view.kindOf entity
  positionOf : ∀ entity, view'.positionOf (entity.shift d) = view.positionOf entity
  radiusOf : ∀ entity, view'.radiusOf (entity.shift d) = view.radiusOf entity
  inspect : ∀ entity property,
    view'.inspect (entity.shift d) property = shiftRefusal d (view.inspect entity property)
  teamOf : ∀ entity, view'.teamOf (entity.shift d) = view.teamOf entity
  entities : ∀ filter, view'.entities filter = (view.entities filter).map (EntityId.shift d)

namespace View.Shifts

variable {view view' : View α}

/-- Which of two entities is nearer does not depend on their numbers. -/
theorem nearer (h : view.Shifts d view') (origin : Position α) (angle : α)
    (best : Option (α × EntityId)) (entity : EntityId) :
    view'.nearer origin angle (best.map (Prod.map id (EntityId.shift d))) (entity.shift d) =
      (view.nearer origin angle best entity).map (Prod.map id (EntityId.shift d)) := by
  rw [View.nearer, View.nearer, h.positionOf, h.radiusOf]
  cases view.positionOf entity with
  | none => rfl
  | some centre =>
    cases view.radiusOf entity with
    | none => rfl
    | some radius =>
      cases hhit : Ray.hit? origin angle centre radius with
      | none => simp only [hhit]
      | some distance =>
        cases best with
        | none => simp only [hhit, Option.map_none, Option.map_some, Prod.map, id]
        | some best =>
          simp only [hhit, Option.map_some, Prod.map, id]
          split <;> rfl

private theorem nearest (h : view.Shifts d view') (origin : Position α) (angle : α)
    (entities : List EntityId) (best : Option (α × EntityId)) :
    (entities.map (EntityId.shift d)).foldl (view'.nearer origin angle)
        (best.map (Prod.map id (EntityId.shift d))) =
      (entities.foldl (view.nearer origin angle) best).map (Prod.map id (EntityId.shift d)) := by
  induction entities generalizing best with
  | nil => rfl
  | cons entity rest ih => rw [List.map_cons, List.foldl_cons, h.nearer, ih, List.foldl_cons]

private theorem search (h : view.Shifts d view') (me : EntityId) (offset : α) :
    view'.search (me.shift d) offset =
      shiftResult d (Option.map (EntityId.shift d)) (view.search me offset) := by
  have hothers : (view'.entities .any).filter (· ≠ me.shift d) =
      ((view.entities .any).filter (· ≠ me)).map (EntityId.shift d) := by
    rw [h.entities, List.filter_map]
    refine congrArg (List.map _) (List.filter_congr fun entity _ => ?_)
    simp
  rw [View.search, View.search, h.positionOf]
  -- Of entities that are equally near the first one counts, and shifting keeps their order.
  cases view.positionOf me with
  | none => rfl
  | some origin =>
    refine bind_shift (h.inspect me .direction) fun direction => congrArg Except.ok ?_
    rw [hothers]
    have hnearest := h.nearest origin (direction + offset)
      ((view.entities .any).filter (· ≠ me)) none
    refine (congrArg (Option.map Prod.snd) hnearest).trans ?_
    rw [Option.map_map, Option.map_map]
    rfl

end View.Shifts

/-- What an expression sees under shifted numbers. -/
structure Scope.Shifts (d : Nat) (scope scope' : Scope α) : Prop where
  globals : scope'.globals = scope.globals.shift d
  worm : scope'.worm = scope.worm.map (EntityId.shift d)
  view : Option.Rel (View.Shifts d) scope.view scope'.view

namespace Scope.Shifts

variable {scope scope' : Scope α}

omit [Scalar α] in
private theorem requireWorm (h : scope.Shifts d scope') :
    scope'.requireWorm = shiftResult d (EntityId.shift d) scope.requireWorm := by
  rw [Scope.requireWorm, Scope.requireWorm, h.worm]
  cases scope.worm <;> rfl

omit [Scalar α] in
/-- Something is asked of the view, which has to be there. -/
theorem bind_requireView {β γ : Type} (h : scope.Shifts d scope') {f : β → γ}
    {k : View α → Except (Error α) β} {k' : View α → Except (Error α) γ}
    (hk : ∀ view view', view.Shifts d view' → k' view' = shiftResult d f (k view)) :
    scope'.requireView >>= k' = shiftResult d f (scope.requireView >>= k) := by
  have hview := h.view
  rw [Scope.requireView, Scope.requireView]
  generalize scope.view = view, scope'.view = view' at hview
  cases hview with
  | none => rfl
  | some hview => exact hk _ _ hview

omit [Scalar α] in
private theorem isKind (h : scope.Shifts d scope') (kind : EntityKind) (entity : Option EntityId) :
    scope'.isKind kind (entity.map (EntityId.shift d)) =
      shiftRefusal d (scope.isKind kind entity) := by
  cases entity with
  | none => rfl
  | some entity =>
    refine h.bind_requireView fun view view' hview => ?_
    rw [hview.kindOf]
    rfl

omit [Scalar α] in
private theorem isTeammate (h : scope.Shifts d scope') (entity : Option EntityId) :
    scope'.isTeammate (entity.map (EntityId.shift d)) =
      shiftRefusal d (scope.isTeammate entity) := by
  cases entity with
  | none => rfl
  | some entity =>
    refine h.bind_requireView fun view view' hview => bind_shift h.requireWorm fun me => ?_
    rw [hview.teamOf, hview.teamOf]
    rfl

end Scope.Shifts

/-- **An expression means the same under other numbers.** -/
theorem Expression.eval_shift {scope scope' : Scope α} (h : scope.Shifts d scope')
    (e : Expression α) :
    (e.shift d).eval scope' = shiftResult d (Value.shift d) (e.eval scope) := by
  induction e with
  | literal value => rfl
  | selfRef => exact bind_shift h.requireWorm fun _ => rfl
  | global name =>
    simp only [shift, eval, h.globals, Globals.get?_shift]
    cases scope.globals.get? name <;> rfl
  | unary op operand ih => exact bind_shift ih fun v => op.apply_shift v
  | binary op lhs rhs ihl ihr =>
    refine bind_shift ihl fun v => ?_
    rw [ihr]
    exact op.apply_shift v _
  | inspect property target ih =>
    refine bind_shift ih fun v => bind_shift v.toEntity_shift fun entity => ?_
    cases entity with
    | none => rfl
    | some entity =>
      exact h.bind_requireView fun view view' hview =>
        bind_shift (hview.inspect entity property) fun _ => rfl
  | sameTeam target ih =>
    exact bind_shift ih fun v => bind_shift v.toEntity_shift fun entity =>
      bind_shift (h.isTeammate entity) fun _ => rfl
  | isWorm target ih =>
    exact bind_shift ih fun v => bind_shift v.toEntity_shift fun entity =>
      bind_shift (h.isKind .worm entity) fun _ => rfl
  | isFood target ih =>
    exact bind_shift ih fun v => bind_shift v.toEntity_shift fun entity =>
      bind_shift (h.isKind .food entity) fun _ => rfl
  | search angle ih =>
    exact bind_shift ih fun v => bind_shift v.toDouble_shift fun offset =>
      h.bind_requireView fun view view' hview => bind_shift h.requireWorm fun me =>
        bind_shift (hview.search me offset) fun _ => rfl

end WormBattle
