import WormBattle.Program.Exec
import WormBattle.Proofs.Entity.Worm
import WormBattle.Proofs.World.Registered

/-!
# Evaluation without a world

An expression can be evaluated **detached**, with no worm and no world in its scope. What it comes
to then is its result in every scope with the same variables, unless it fails because just the worm
or the world is missing (`Scope.Lacks`). So a result that is settled without a world is no
observation of one (`Expression.eval_detached`).

The reason is that a scope is only asked for what it has. In a larger scope (`Scope.Extends`) every
step of the evaluation has the same result as before, or the same as before was a failure for want
of something (`Scope.Conserves`), and this goes on from the operands to the operator, in the order
in which they are evaluated.
-/

namespace WormBattle

variable {α β γ : Type}

namespace Scope

/-- A scope with nothing but variables. -/
def detached (globals : Globals α) : Scope α :=
  { globals }

/-- A scope has all that another one has. -/
structure Extends (scope scope' : Scope α) : Prop where
  /-- The variables are the same. -/
  globals : scope'.globals = scope.globals
  /-- A worm that is there stays. -/
  worm : ∀ worm, scope.worm = some worm → scope'.worm = some worm
  /-- A world that is there stays. -/
  view : ∀ view, scope.view = some view → scope'.view = some view

/-- The failures for want of a worm or of a world. -/
inductive Lacks (scope : Scope α) : Error α → Prop where
  /-- There is no world. -/
  | world : scope.view = none → Lacks scope .needsWorld
  /-- There is no worm. -/
  | worm : scope.worm = none → Lacks scope .unbound

/-- A result is kept in another scope, unless it is a failure for want of something. -/
def Conserves (scope : Scope α) (result result' : Except (Error α) β) : Prop :=
  result' = result ∨ ∃ e, result = .error e ∧ scope.Lacks e

variable {scope scope' : Scope α} {e : Error α}

private theorem Lacks.kind_eq (h : scope.Lacks e) : e.kind = .invalidState := by
  cases h <;> rfl

private theorem extends_detached {globals : Globals α} (h : scope.globals = globals) :
    (detached globals).Extends scope :=
  ⟨h, nofun, nofun⟩

private theorem Conserves.refl (result : Except (Error α) β) : scope.Conserves result result :=
  .inl rfl

/-- What is conserved step by step is conserved. -/
theorem Conserves.bind {x x' : Except (Error α) β} {f f' : β → Except (Error α) γ}
    (hx : scope.Conserves x x') (hf : ∀ b, scope.Conserves (f b) (f' b)) :
    scope.Conserves (x >>= f) (x' >>= f') := by
  rcases hx with rfl | ⟨e, rfl, hlacks⟩
  · cases x' with
    | ok b => exact hf b
    | error e => exact .refl _
  · exact .inr ⟨e, rfl, hlacks⟩

private theorem Extends.requireView (h : scope.Extends scope') :
    scope.Conserves scope.requireView scope'.requireView := by
  rw [Scope.requireView, Scope.requireView]
  cases hview : scope.view with
  | none => exact .inr ⟨_, rfl, .world hview⟩
  | some view =>
    rw [h.view view hview]
    exact .refl _

private theorem Extends.requireWorm (h : scope.Extends scope') :
    scope.Conserves scope.requireWorm scope'.requireWorm := by
  rw [Scope.requireWorm, Scope.requireWorm]
  cases hworm : scope.worm with
  | none => exact .inr ⟨_, rfl, .worm hworm⟩
  | some worm =>
    rw [h.worm worm hworm]
    exact .refl _

/-- The null reference is of no kind in any scope. -/
theorem Extends.isKind (h : scope.Extends scope') (kind : EntityKind) (id : Option EntityId) :
    scope.Conserves (scope.isKind kind id) (scope'.isKind kind id) := by
  cases id with
  | none => exact .refl _
  | some id => exact h.requireView.bind fun view => .refl _

private theorem Extends.isTeammate (h : scope.Extends scope') (id : Option EntityId) :
    scope.Conserves (scope.isTeammate id) (scope'.isTeammate id) := by
  cases id with
  | none => exact .refl _
  | some id => exact h.requireView.bind fun view => h.requireWorm.bind fun me => .refl _

end Scope

variable [Scalar α] {scope scope' : Scope α}

/-- What an operator makes of its operands is conserved, and so is whether it asks for the right
one. -/
theorem BinaryOp.apply_conserves (op : BinaryOp) (left : Value α)
    {right right' : Except (Error α) (Value α)} (h : scope.Conserves right right') :
    scope.Conserves (op.apply left right) (op.apply left right') := by
  cases op with
  | and =>
    refine (Scope.Conserves.refl left.toBool).bind fun b => ?_
    cases b with
    | true => exact h.bind fun v => .refl _
    | false => exact .refl _
  | or =>
    refine (Scope.Conserves.refl left.toBool).bind fun b => ?_
    cases b with
    | true => exact .refl _
    | false => exact h.bind fun v => .refl _
  | eq | ne => exact h.bind fun v => .refl _
  | add | sub | mul | div | lt | le | gt | ge =>
    exact (Scope.Conserves.refl left.toDouble).bind fun x => h.bind fun v => .refl _

namespace Expression

/-- **Evaluation is conservative**: a larger scope changes only failures for want of something. -/
theorem eval_conserves (h : scope.Extends scope') (e : Expression α) :
    scope.Conserves (e.eval scope) (e.eval scope') := by
  induction e with
  | literal value => exact .refl _
  | selfRef => exact h.requireWorm.bind fun me => .refl _
  | global name =>
    rw [eval, eval, h.globals]
    exact .refl _
  | unary op operand ih => exact ih.bind fun v => .refl _
  | binary op lhs rhs ihl ihr => exact ihl.bind fun v => op.apply_conserves v ihr
  | inspect property target ih =>
    refine ih.bind fun v => (Scope.Conserves.refl v.toEntity).bind fun id => ?_
    -- Reading off the null reference is refused before the world is asked for.
    cases id with
    | none => exact .refl _
    | some id => exact h.requireView.bind fun view => .refl _
  | sameTeam target ih =>
    exact ih.bind fun v => (Scope.Conserves.refl v.toEntity).bind fun id =>
      (h.isTeammate id).bind fun _ => .refl _
  | isWorm target ih | isFood target ih =>
    exact ih.bind fun v => (Scope.Conserves.refl v.toEntity).bind fun id =>
      (h.isKind _ id).bind fun _ => .refl _
  | search angle ih =>
    exact ih.bind fun v => (Scope.Conserves.refl v.toDouble).bind fun offset =>
      h.requireView.bind fun view => h.requireWorm.bind fun me => .refl _

end Expression

/-! ### Settled results -/

/-- A result that no world is needed for: a value, or a failure that lies with an argument. -/
def Settled : Except (Error α) β → Prop
  | .ok _ => True
  | .error e => e.kind = .invalidArgument

section Settled

omit [Scalar α]

private theorem Settled.bind {x : Except (Error α) β} {f : β → Except (Error α) γ} (hx : Settled x)
    (hf : ∀ b, Settled (f b)) : Settled (x >>= f) := by
  cases x with
  | ok b => exact hf b
  | error e => exact hx

/-- What is settled is not for want of something. -/
theorem Scope.Conserves.eq {result result' : Except (Error α) β}
    (h : scope.Conserves result result') (hsettled : Settled result) : result' = result := by
  rcases h with h | ⟨e, rfl, hlacks⟩
  · exact h
  · have hkind : e.kind = .invalidArgument := hsettled
    cases hkind.symm.trans hlacks.kind_eq

private theorem Value.settled_toDouble (v : Value α) : Settled v.toDouble := by
  cases v with
  | double x => exact trivial
  | bool _ | entity _ => exact rfl

private theorem Value.settled_toBool (v : Value α) : Settled v.toBool := by
  cases v with
  | bool b => exact trivial
  | double _ | entity _ => exact rfl

end Settled

private theorem UnaryOp.settled_apply (op : UnaryOp) (v : Value α) : Settled (op.apply v) := by
  cases op with
  | not => exact v.settled_toBool.bind fun _ => trivial
  | negate | sqrt | sin | cos => exact v.settled_toDouble.bind fun _ => trivial

private theorem BinaryOp.settled_apply (op : BinaryOp) (left : Value α)
    {right : Except (Error α) (Value α)} (h : Settled right) : Settled (op.apply left right) := by
  cases op with
  | and =>
    refine left.settled_toBool.bind fun b => ?_
    cases b with
    | true => exact h.bind fun v => v.settled_toBool.bind fun _ => trivial
    | false => exact trivial
  | or =>
    refine left.settled_toBool.bind fun b => ?_
    cases b with
    | true => exact trivial
    | false => exact h.bind fun v => v.settled_toBool.bind fun _ => trivial
  | eq | ne =>
    refine h.bind fun v => ?_
    by_cases htype : left.type = v.type
    · rw [if_pos htype]
      exact trivial
    · rw [if_neg htype]
      exact rfl
  | add | sub | mul | div | lt | le | gt | ge =>
    exact left.settled_toDouble.bind fun x => h.bind fun v => v.settled_toDouble.bind fun y =>
      trivial

namespace Expression

/-- The expressions of values, variables and operators. -/
def isLocal : Expression α → Bool
  | literal _ | global _ => true
  | unary _ operand => operand.isLocal
  | binary _ lhs rhs => lhs.isLocal && rhs.isLocal
  | _ => false

/-- An expression of values, variables and operators is settled in every scope. -/
theorem settled_of_isLocal {e : Expression α} (h : e.isLocal = true) (scope : Scope α) :
    Settled (e.eval scope) := by
  induction e with
  | literal value => exact trivial
  | global name =>
    rw [eval]
    cases scope.globals.get? name with
    | some value => exact trivial
    | none => exact rfl
  | unary op operand ih => exact (ih h).bind op.settled_apply
  | binary op lhs rhs ihl ihr =>
    obtain ⟨hleft, hright⟩ := Bool.and_eq_true_iff.mp h
    exact (ihl hleft).bind fun v => op.settled_apply v (ihr hright)
  | selfRef | inspect | sameTeam | isWorm | isFood | search => cases h

/-- **What is settled without a world is settled.** An expression that has a value without a worm
and a world, or fails there because of an argument, has the same result in every scope with the same
variables; so two programs with these variables get the same of it, in whatever worlds they run and
for whatever worms. Only a failure that lies with the state can be different elsewhere, and an
expression of values, variables and operators has none. -/
theorem eval_detached (globals : Globals α) (e : Expression α) :
    (∀ result, e.eval (.detached globals) = result → Settled result →
      (∀ scope : Scope α, scope.globals = globals → e.eval scope = result) ∧
      ∀ (σ : Type) [Environment α σ] (m : Machine α σ), m.globals = globals →
        m.eval e = result) ∧
    (∀ scope : Scope α, scope.globals = globals → e.eval scope ≠ e.eval (.detached globals) →
      ∃ err, e.eval (.detached globals) = .error err ∧ err.kind = .invalidState) ∧
    (e.isLocal = true → Settled (e.eval (.detached globals))) := by
  have hconserves : ∀ scope : Scope α, scope.globals = globals →
      (Scope.detached globals).Conserves (e.eval (.detached globals)) (e.eval scope) :=
    fun scope hglobals => e.eval_conserves (Scope.extends_detached hglobals)
  refine ⟨?_, fun scope hglobals hother => ?_, fun hlocal => settled_of_isLocal hlocal _⟩
  · rintro _ rfl hsettled
    refine ⟨fun scope hglobals => (hconserves scope hglobals).eq hsettled,
      fun σ _ m hglobals => (hconserves _ hglobals).eq hsettled⟩
  · rcases hconserves scope hglobals with hsame | ⟨err, herr, hlacks⟩
    · exact absurd hsame hother
    · exact ⟨err, herr, hlacks.kind_eq⟩

/-- A disjunction that is decided by its left side is the same for a worm in a world, where the
worm itself comes to light. -/
theorem eval_detached_crowded :
    let e : Expression Rat := .binary .or (.literal (.bool true)) (.isWorm .selfRef)
    let placed : Scope Rat := ⟨.empty, some ⟨1⟩, some Simulation.crowded.world.view⟩
    Settled (e.eval (.detached .empty)) ∧ e.eval placed = .ok (.bool true) ∧
      selfRef.eval placed ≠ selfRef.eval (.detached .empty) ∧
      ∃ err, (selfRef : Expression Rat).eval (.detached .empty) = .error err ∧
        err.kind = .invalidState := by
  intro e placed
  obtain ⟨hsettled, -⟩ := eval_detached .empty e
  obtain ⟨-, hother, -⟩ := eval_detached .empty (selfRef : Expression Rat)
  have hdiffers : selfRef.eval placed ≠ selfRef.eval (.detached .empty) := nofun
  exact ⟨trivial, (hsettled _ rfl trivial).1 placed rfl, hdiffers, hother placed rfl hdiffers⟩

end Expression

end WormBattle
