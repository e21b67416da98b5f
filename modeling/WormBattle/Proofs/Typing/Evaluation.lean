import WormBattle.Proofs.Entity.Worm
import WormBattle.Program.Eval
import WormBattle.Program.Typing

/-!
# Evaluation keeps its types

An expression that has a kind is evaluated to a value of that kind, or it fails for a reason that
lies in the world and not in the program (`Scope.Failure`): `Expression.eval_yields`. The table of
variables may hold any values, as long as each is of the declared kind (`Globals.signature`).
-/

namespace WormBattle

variable {α β γ : Type}

/-! ### Tables of variables -/

namespace Globals

/-- The names of the variables with the kinds of their values. -/
def signature (globals : Globals α) : List (String × ValueType) :=
  globals.entries.map fun e => (e.1, e.2.type)

private theorem type?_eq_find? (globals : Globals α) (name : String) :
    globals.type? name = (globals.signature.find? fun e => e.1 = name).map Prod.snd := by
  rw [type?, get?, signature]
  induction globals.entries with
  | nil => rfl
  | cons e rest ih =>
    obtain ⟨n, v⟩ := e
    by_cases h : n = name
    · simp [lookup, h]
    · simpa [lookup, h] using ih

/-- Tables of one signature declare the same kinds. -/
theorem type?_congr {globals globals' : Globals α} (h : globals.signature = globals'.signature)
    (name : String) : globals.type? name = globals'.type? name := by
  rw [type?_eq_find?, type?_eq_find?, h]

private theorem map_put {name : String} {value : Value α} {entries : List (String × Value α)}
    (h : (lookup name entries).map Value.type = some value.type) :
    (put name value entries).map (fun e => (e.1, e.2.type)) =
      entries.map fun e => (e.1, e.2.type) := by
  induction entries with
  | nil => cases h
  | cons e rest ih =>
    obtain ⟨n, v⟩ := e
    by_cases hn : n = name
    · simp only [lookup, hn, if_true, Option.map_some, Option.some.injEq] at h
      simp [put, hn, h]
    · simp only [lookup, hn, if_false] at h
      simp [put, hn, ih h]

/-- A variable that gets a value of its kind keeps the signature. -/
theorem signature_insert {globals : Globals α} {name : String} {value : Value α}
    (h : globals.type? name = some value.type) :
    (globals.insert name value).signature = globals.signature :=
  map_put h

end Globals

/-! ### Failures that lie in the world -/

/-- The reasons for which an expression that has a kind may fail. -/
inductive Scope.Failure (scope : Scope α) : Error α → Prop where
  /-- A property of the null reference is read. -/
  | inspectNull : Failure scope .inspectNull
  /-- The world does not tell a property. -/
  | inspect {view : View α} {id : EntityId} {property : Property} {e : Error α} :
      scope.view = some view → view.inspect id property = .error e → Failure scope e
  /-- The searching worm is nowhere. -/
  | notPlaced {view : View α} {me : EntityId} : scope.view = some view → scope.worm = some me →
      view.positionOf me = none → Failure scope (.notPlaced me)
  /-- There is no world. -/
  | needsWorld : scope.view = none → Failure scope .needsWorld
  /-- There is no worm. -/
  | unbound : scope.worm = none → Failure scope .unbound

/-- A value of which something holds, or a failure that lies in the world. -/
def Scope.Yields (scope : Scope α) (P : β → Prop) : Except (Error α) β → Prop
  | .ok v => P v
  | .error e => scope.Failure e

namespace Scope

variable {scope : Scope α} {P : β → Prop} {Q : γ → Prop}

/-- Two computations in a row yield what the second one yields from what the first one yields. -/
theorem Yields.bind {x : Except (Error α) β} {f : β → Except (Error α) γ} (hx : scope.Yields P x)
    (hf : ∀ v, P v → scope.Yields Q (f v)) : scope.Yields Q (x >>= f) := by
  cases x with
  | ok v => exact hf v hx
  | error e => exact hx

private theorem yields_requireView :
    scope.Yields (fun view => scope.view = some view) scope.requireView := by
  rw [requireView]
  cases h : scope.view with
  | some view => rfl
  | none => exact .needsWorld h

private theorem yields_requireWorm :
    scope.Yields (fun me => scope.worm = some me) scope.requireWorm := by
  rw [requireWorm]
  cases h : scope.worm with
  | some me => rfl
  | none => exact .unbound h

/-- A value of the type of doubles reads as a double. -/
theorem yields_toDouble {v : Value α} (h : v.type = .double) :
    scope.Yields (fun _ => True) v.toDouble := by
  cases v <;> cases h
  exact trivial

/-- A value of the type of truth values reads as a truth value. -/
theorem yields_toBool {v : Value α} (h : v.type = .bool) :
    scope.Yields (fun _ => True) v.toBool := by
  cases v <;> cases h
  exact trivial

private theorem yields_toEntity {v : Value α} (h : v.type = .entity) :
    scope.Yields (fun _ => True) v.toEntity := by
  cases v <;> cases h
  exact trivial

private theorem yields_inspect {view : View α} (hview : scope.view = some view) (id : EntityId)
    (property : Property) : scope.Yields (fun _ => True) (view.inspect id property) := by
  cases hinspect : view.inspect id property with
  | ok x => exact trivial
  | error e => exact .inspect hview hinspect

private theorem yields_isKind (kind : EntityKind) (id : Option EntityId) :
    scope.Yields (fun _ => True) (scope.isKind kind id) := by
  cases id with
  | none => exact trivial
  | some id => exact yields_requireView.bind fun _ _ => trivial

private theorem yields_isTeammate (id : Option EntityId) :
    scope.Yields (fun _ => True) (scope.isTeammate id) := by
  cases id with
  | none => exact trivial
  | some id => exact yields_requireView.bind fun _ _ => yields_requireWorm.bind fun _ _ => trivial

end Scope

/-! ### Operators -/

variable {scope : Scope α}

variable [Scalar α]

private theorem UnaryOp.apply_yields (op : UnaryOp) {v : Value α} (h : v.type = op.type) :
    scope.Yields (fun result => result.type = op.type) (op.apply v) := by
  cases op with
  | not => exact (Scope.yields_toBool h).bind fun _ _ => rfl
  | negate | sqrt | sin | cos => exact (Scope.yields_toDouble h).bind fun _ _ => rfl

private theorem BinaryOp.apply_yields (op : BinaryOp) {left : Value α}
    {right : Except (Error α) (Value α)}
    {type : ValueType} (htype : type = op.operandType type) (hleft : left.type = type)
    (hright : scope.Yields (fun v => v.type = type) right) :
    scope.Yields (fun result => result.type = op.resultType) (op.apply left right) := by
  cases op with
  | add | sub | mul | div | lt | le | gt | ge =>
    refine (Scope.yields_toDouble (hleft.trans htype)).bind fun x _ => ?_
    refine hright.bind fun v hv => (Scope.yields_toDouble (hv.trans htype)).bind fun y _ => ?_
    exact rfl
  | eq | ne =>
    refine hright.bind fun v hv => ?_
    rw [if_pos (hleft.trans hv.symm)]
    exact rfl
  | and | or =>
    refine (Scope.yields_toBool (hleft.trans htype)).bind fun b _ => ?_
    have hother : scope.Yields (fun result : Value α => result.type = .bool)
        (do return Value.bool (← (← right).toBool)) :=
      hright.bind fun v hv => (Scope.yields_toBool (hv.trans htype)).bind fun _ _ => rfl
    cases b with
    | true => first | exact hother | exact rfl
    | false => first | exact hother | exact rfl

private theorem View.search_yields {view : View α} {me : EntityId} (hview : scope.view = some view)
    (hworm : scope.worm = some me) (offset : α) :
    scope.Yields (fun _ => True) (view.search me offset) := by
  rw [View.search]
  cases hposition : view.positionOf me with
  | none => exact .notPlaced hview hworm hposition
  | some origin => exact (Scope.yields_inspect hview me .direction).bind fun _ _ => trivial

/-! ### Expressions -/

namespace Expression

variable {declared : Globals α} {e : Expression α} {type : ValueType}

/-- A type passes its check only if it is the expected one. -/
theorem checkType_eq_ok_iff {role : Role} {expected found : ValueType} :
    checkType role expected found = .ok () ↔ found = expected := by
  rw [checkType]
  by_cases h : found = expected <;> simp [h]

/-- **Evaluation keeps its types.** An expression of some kind is evaluated to a value of that kind,
unless it fails for a reason that lies in the world. -/
theorem eval_yields (hscope : scope.globals.signature = declared.signature)
    (h : e.typeOf declared = .ok type) : scope.Yields (fun v => v.type = type) (e.eval scope) := by
  induction e generalizing type with
  | literal value =>
    cases h
    exact rfl
  | selfRef =>
    cases h
    exact Scope.yields_requireWorm.bind fun _ _ => rfl
  | global name =>
    rw [typeOf] at h
    rw [eval]
    have htype : scope.globals.type? name = declared.type? name := Globals.type?_congr hscope name
    cases hget : scope.globals.get? name with
    | some value =>
      rw [← htype, Globals.type?, hget] at h
      cases h
      exact rfl
    | none =>
      rw [← htype, Globals.type?, hget] at h
      cases h
  | unary op operand ih =>
    obtain ⟨found, hfound, h⟩ := bind_eq_ok_iff.mp h
    obtain ⟨⟨⟩, hcheck, h⟩ := bind_eq_ok_iff.mp h
    cases h
    refine (ih hfound).bind fun v hv => op.apply_yields ?_
    rw [hv, checkType_eq_ok_iff.mp hcheck]
  | binary op lhs rhs ihl ihr =>
    obtain ⟨left, hleft, h⟩ := bind_eq_ok_iff.mp h
    obtain ⟨right, hright, h⟩ := bind_eq_ok_iff.mp h
    dsimp only at h
    split at h
    · rename_i hoperands
      cases h
      refine (ihl hleft).bind fun v hv => op.apply_yields hoperands.1 hv ?_
      rw [hoperands.1, ← hoperands.2]
      exact ihr hright
    · cases h
  | inspect property target ih =>
    obtain ⟨found, hfound, h⟩ := bind_eq_ok_iff.mp h
    obtain ⟨⟨⟩, hcheck, h⟩ := bind_eq_ok_iff.mp h
    cases h
    refine (ih hfound).bind fun v hv => ?_
    refine (Scope.yields_toEntity (hv.trans (checkType_eq_ok_iff.mp hcheck))).bind fun id _ => ?_
    cases id with
    | none => exact .inspectNull
    | some id =>
      refine Scope.yields_requireView.bind fun view hview => ?_
      exact (Scope.yields_inspect hview id property).bind fun _ _ => rfl
  | sameTeam target ih | isWorm target ih | isFood target ih =>
    obtain ⟨found, hfound, h⟩ := bind_eq_ok_iff.mp h
    obtain ⟨⟨⟩, hcheck, h⟩ := bind_eq_ok_iff.mp h
    cases h
    refine (ih hfound).bind fun v hv => ?_
    refine (Scope.yields_toEntity (hv.trans (checkType_eq_ok_iff.mp hcheck))).bind fun id _ => ?_
    first
      | exact (Scope.yields_isTeammate id).bind fun _ _ => rfl
      | exact (Scope.yields_isKind _ id).bind fun _ _ => rfl
  | search angle ih =>
    obtain ⟨found, hfound, h⟩ := bind_eq_ok_iff.mp h
    obtain ⟨⟨⟩, hcheck, h⟩ := bind_eq_ok_iff.mp h
    cases h
    refine (ih hfound).bind fun v hv => ?_
    refine (Scope.yields_toDouble (hv.trans (checkType_eq_ok_iff.mp hcheck))).bind fun x _ => ?_
    refine Scope.yields_requireView.bind fun view hview => ?_
    refine Scope.yields_requireWorm.bind fun me hme => ?_
    exact (View.search_yields hview hme x).bind fun _ _ => rfl

end Expression

end WormBattle
