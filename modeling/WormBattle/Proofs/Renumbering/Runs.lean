import WormBattle.Proofs.Execution.Parts
import WormBattle.Proofs.Renumbering.Programs

/-!
# Runs under other numbers

If a map of states shifts what programs see of a state and what their actions do to it
(`Environment.Shifts`), a shifted program runs in the states that the map gives as the program runs
in the states themselves: it ends in the same way, has the same effects and leaves the same cursor,
up to the numbers (`Statement.exec_shift`, `ProgramInstance.run_shift`).
-/

namespace WormBattle

variable {α σ : Type} {d : Nat} {g : σ → σ}

/-! ### Machines -/

/-- How execution ends, with the cursor and the refusal shifted. -/
def Flow.shift (d : Nat) : Flow α → Flow α
  | done => done
  | suspended reason cursor => suspended reason (cursor.map (Frame.shift d))
  | wormDied => wormDied
  | failed e => failed (e.shift d)

/-- A machine with all that it holds shifted, where `g` shifts its world. -/
def Machine.shift (d : Nat) (g : σ → σ) (m : Machine α σ) : Machine α σ where
  worm := m.worm.shift d
  state := g m.state
  globals := m.globals.shift d
  budget := m.budget
  trace := m.trace.map (Effect.shift d)

/-- The end of execution with all that it holds shifted. -/
def Machine.shiftEnd (d : Nat) (g : σ → σ) (ended : Flow α × Machine α σ) : Flow α × Machine α σ :=
  (ended.1.shift d, ended.2.shift d g)

variable [Environment α σ]

/-- A map of states that shifts what programs see and do. -/
structure Environment.Shifts (d : Nat) (g : σ → σ) : Prop where
  view : ∀ s : σ, (Environment.view s).Shifts d (Environment.view (g s))
  actionPoints : ∀ (s : σ) worm, Environment.actionPoints (g s) (worm.shift d) =
    shiftRefusal d (Environment.actionPoints s worm)
  actionCost : ∀ (s : σ) worm action, Environment.actionCost (g s) (worm.shift d) action =
    shiftRefusal d (Environment.actionCost s worm action)
  perform : ∀ (s : σ) worm action, Environment.perform (g s) (worm.shift d) action =
    (shiftRefusal d (Environment.perform s worm action).1,
      g (Environment.perform s worm action).2)

namespace Machine

variable (m : Machine α σ)

omit [Environment α σ] in
private theorem spend?_shift : (m.shift d g).spend? = m.spend?.map (shift d g) := by
  obtain ⟨worm, state, globals, budget, trace⟩ := m
  cases budget <;> rfl

omit [Environment α σ] in
private theorem charge_shift {go go' : Machine α σ → Flow α × Machine α σ}
    (hgo : ∀ m, go' (m.shift d g) = shiftEnd d g (go m)) :
    (m.shift d g).charge go' = shiftEnd d g (m.charge go) := by
  obtain ⟨worm, state, globals, budget, trace⟩ := m
  cases budget with
  | zero => rfl
  | succ budget => exact hgo { worm, state, globals, budget, trace }

omit [Environment α σ] in
private theorem withValue_shift {β γ : Type} {f : β → γ} {value : Except (Error α) β}
    {value' : Except (Error α) γ} {go : β → Flow α × Machine α σ} {go' : γ → Flow α × Machine α σ}
    (hvalue : value' = shiftResult d f value)
    (hgo : ∀ v, value = .ok v → go' (f v) = shiftEnd d g (go v)) :
    (m.shift d g).withValue value' go' = shiftEnd d g (m.withValue value go) := by
  subst hvalue
  cases value with
  | ok v => exact hgo v rfl
  | error e => rfl

omit [Environment α σ] in
private theorem setGlobal_shift (name : String) (value : Value α) :
    (m.shift d g).setGlobal name (value.shift d) = (m.setGlobal name value).shift d g := by
  simp only [setGlobal, note, shift, Globals.insert_shift]
  rfl

omit [Environment α σ] in
private theorem checkAssignment_shift (name : String) (value : Value α) :
    (m.shift d g).checkAssignment name (value.shift d) =
      shiftRefusal d (m.checkAssignment name value) := by
  have hold : (m.shift d g).globals.get? name = (m.globals.get? name).map (Value.shift d) :=
    m.globals.get?_shift name
  rw [checkAssignment, checkAssignment, hold]
  cases m.globals.get? name with
  | none => rfl
  | some old =>
    simp only [Option.map_some, Value.type_shift]
    exact ite_shift Iff.rfl rfl rfl

variable (h : Environment.Shifts d g)
include h

/-- A machine whose worm has done something stops if the worm has left. -/
theorem stay_shift :
    ((if (m.shift d g).kindOf (m.shift d g).worm = some .worm then .done else .wormDied,
      m.shift d g) : Flow α × Machine α σ) =
      shiftEnd d g (if m.kindOf m.worm = some .worm then .done else .wormDied, m) := by
  have hkind : (m.shift d g).kindOf (m.shift d g).worm = m.kindOf m.worm :=
    (h.view m.state).kindOf m.worm
  rw [hkind]
  split <;> rfl

variable [Scalar α]

private theorem eval_shift (e : Expression α) :
    (m.shift d g).eval (e.shift d) = shiftResult d (Value.shift d) (m.eval e) :=
  Expression.eval_shift ⟨rfl, rfl, .some (h.view m.state)⟩ e

private theorem evalDouble_shift (e : Expression α) :
    (m.shift d g).evalDouble (e.shift d) = shiftRefusal d (m.evalDouble e) :=
  bind_shift (m.eval_shift h e) Value.toDouble_shift

private theorem evalBool_shift (e : Expression α) :
    (m.shift d g).evalBool (e.shift d) = shiftRefusal d (m.evalBool e) :=
  bind_shift (m.eval_shift h e) Value.toBool_shift

/-! ### Statements without parts -/

private theorem assign_shift (name : String) (e : Expression α) :
    (m.shift d g).assign name (e.shift d) = shiftEnd d g (m.assign name e) :=
  m.charge_shift fun m => m.withValue_shift (m.eval_shift h e) fun value _ =>
    m.withValue_shift (m.checkAssignment_shift name value) fun _ _ =>
      congrArg (Prod.mk _) (m.setGlobal_shift name value)

private theorem print_shift (e : Expression α) :
    (m.shift d g).print (e.shift d) = shiftEnd d g (m.print e) :=
  m.charge_shift fun m => m.withValue_shift (m.eval_shift h e) fun _ _ => rfl

omit [Scalar α] in
private theorem perform_shift (action : Action α) :
    (m.shift d g).perform action = shiftEnd d g (m.perform action) := by
  have hcost : Environment.actionCost (m.shift d g).state (m.shift d g).worm action =
      shiftRefusal d (Environment.actionCost m.state m.worm action) :=
    h.actionCost m.state m.worm action
  rw [perform, perform, hcost]
  -- Price, points, payment and deed, in the order in which each of them may end the action.
  cases Environment.actionCost m.state m.worm action with
  | error e => exact m.charge_shift fun _ => rfl
  | ok cost =>
    refine m.withValue_shift (h.actionPoints m.state m.worm) fun available _ => ?_
    by_cases hpoor : available < cost
    · simp only [id, if_pos hpoor]
      rfl
    · simp only [id, if_neg hpoor]
      refine m.charge_shift fun m => ?_
      have hperform : Environment.perform (m.shift d g).state (m.shift d g).worm action = _ :=
        h.perform m.state m.worm action
      rw [hperform]
      generalize Environment.perform m.state m.worm action = performed
      obtain ⟨result, state⟩ := performed
      cases result with
      | error e => rfl
      | ok _ =>
        let m' : Machine α σ := { m with state }
        exact stay_shift ((m'.note (.asked m.worm action)).note (.done m.worm action)) h

private theorem fire_shift (e : Expression α) :
    (m.shift d g).fire (e.shift d) = shiftEnd d g (m.fire e) := by
  refine m.withValue_shift (m.evalDouble_shift h e) fun x _ => ?_
  simp only [id]
  cases yield? x with
  | none => exact m.charge_shift fun _ => rfl
  | some yieldPercent => exact m.perform_shift h (.fire yieldPercent)

end Machine

open Machine (shiftEnd)

/-! ### Statements with parts -/

omit [Environment α σ] in
private theorem Machine.chargeAt_shift {m : Machine α σ} {cursor cursor' : List Frame}
    {go go' : Machine α σ → Flow α × Machine α σ} (hcursor : cursor' = cursor.map (Frame.shift d))
    (hgo : ∀ m', m.spend? = some m' → go' (m'.shift d g) = shiftEnd d g (go m')) :
    (m.shift d g).chargeAt cursor' go' = shiftEnd d g (m.chargeAt cursor go) := by
  subst hcursor
  rw [chargeAt, chargeAt, spend?_shift]
  cases hm : m.spend? with
  | none => rfl
  | some m' => exact hgo m' hm

omit [Environment α σ] in
private theorem Flow.continued_shift {frame frame' : Frame} {ended ended' : Flow α × Machine α σ}
    {next next' : Machine α σ → Flow α × Machine α σ} (hframe : frame' = frame.shift d)
    (hended : ended' = shiftEnd d g ended)
    (hnext : ∀ m, ended = (.done, m) → next' (m.shift d g) = shiftEnd d g (next m)) :
    Flow.continued frame' ended' next' = shiftEnd d g (Flow.continued frame ended next) := by
  subst hframe hended
  obtain ⟨flow, m⟩ := ended
  cases flow with
  | done => exact hnext m rfl
  | suspended | wormDied | failed => rfl

namespace Statement

private theorem isControlFlow_shift (s : Statement α) :
    (s.shift d).isControlFlow = s.isControlFlow := by
  cases s <;> rfl

private theorem expects_shift (s : Statement α) (frame : Frame) :
    (s.shift d).expects (frame.shift d) = s.expects frame := by
  cases s <;> cases frame <;> rfl

private theorem drop_shiftAll (statements : List (Statement α)) (index : Nat) :
    (shiftAll d statements).drop index = shiftAll d (statements.drop index) := by
  induction statements generalizing index with
  | nil => rw [List.drop_nil, shiftAll, List.drop_nil]
  | cons s rest ih =>
    cases index with
    | zero => rfl
    | succ index => exact ih index

variable [Scalar α] (h : Environment.Shifts d g)
include h

private theorem exec_leaf_shift {s : Statement α} (hleaf : s.isControlFlow = false)
    (cursor : List Frame)
    (m : Machine α σ) : (s.shift d).exec (cursor.map (Frame.shift d)) (m.shift d g) =
      shiftEnd d g (s.exec cursor m) := by
  cases s with
  | skip => exact m.charge_shift fun _ => rfl
  | assign name value => exact m.assign_shift h name value
  | print value => exact m.print_shift h value
  | turn angle =>
    exact m.withValue_shift (m.evalDouble_shift h angle) fun x _ => m.perform_shift h (.turn x)
  | move => exact m.perform_shift h .move
  | jump => exact m.perform_shift h .jump
  | toggleWeapon => exact m.perform_shift h .toggleWeapon
  | fire yieldPercent => exact m.fire_shift h yieldPercent
  | ifElse | whileLoop | forEach | sequence => cases hleaf

/-- **A statement does the same under other numbers.** -/
theorem exec_shift (s : Statement α) (cursor : List Frame) (m : Machine α σ) :
    (s.shift d).exec (cursor.map (Frame.shift d)) (m.shift d g) =
      shiftEnd d g (s.exec cursor m) := by
  have hkind : ∀ (m : Machine α σ) item, (m.shift d g).kindOf (item.shift d) = m.kindOf item :=
    fun m => (h.view m.state).kindOf
  -- Along the recursion of execution: whatever the next machine is, its shifted one is next in the
  -- shifted execution, since both pay, see and decide the same.
  induction s, cursor, m using execInduction with
  | leaf s cursor m hleaf => exact exec_leaf_shift h hleaf cursor m
  | mismatch s cursor m _ hexec hframe =>
    obtain ⟨frame, rest, rfl, hframe⟩ := hframe
    cases hcontrol : s.isControlFlow with
    | false => exact exec_leaf_shift h hcontrol (frame :: rest) m
    | true =>
      rw [hexec, List.map_cons, exec_mismatch ((isControlFlow_shift s).trans hcontrol)
        ((expects_shift s frame).trans hframe)]
      rfl
  | ifElse condition then_ otherwise m ih =>
    rw [shift, List.map_nil, exec_ifElse, exec_ifElse]
    refine Machine.chargeAt_shift rfl fun m' hm => ?_
    exact m'.withValue_shift (m'.evalBool_shift h condition) fun holds hholds =>
      ih m' holds hm hholds
  | branch condition then_ otherwise holds cursor m ih =>
    have hbranch : (if holds then then_.shift d else otherwise.shift d) =
        (if holds then then_ else otherwise).shift d := by
      cases holds <;> rfl
    rw [shift, List.map_cons, Frame.shift, exec_branch, exec_branch, hbranch]
    exact Flow.continued_shift rfl ih fun _ _ => rfl
  | whileLoop condition body m ih =>
    rw [shift, List.map_nil, exec_whileLoop, exec_whileLoop]
    exact ih
  | retest condition body cursor m ih =>
    rw [shift, List.map_cons, Frame.shift, exec_retest, exec_retest]
    refine Machine.chargeAt_shift rfl fun m' hm => ?_
    refine m'.withValue_shift (m'.evalBool_shift h condition) fun holds hholds => ?_
    cases holds with
    | false => rfl
    | true => exact ih m' hm hholds
  | inBody condition body cursor m ihbody ihnext =>
    rw [shift, List.map_cons, Frame.shift, exec_inBody, exec_inBody]
    exact Flow.continued_shift rfl ihbody ihnext
  | forEach filter name body m ih =>
    have hentities : (Environment.view (m.shift d g).state).entities filter =
        ((Environment.view m.state).entities filter).map (EntityId.shift d) :=
      (h.view m.state).entities filter
    rw [shift, List.map_nil, exec_forEach, exec_forEach, hentities]
    exact ih
  | noItems filter name body inBody cursor m =>
    rw [shift, exec_noItems, List.map_cons, Frame.shift, List.map_nil, exec_noItems]
    rfl
  | lostItem filter name body item rest inBody cursor m hgone ih =>
    rw [exec_lostItem rest inBody cursor hgone, shift, List.map_cons, Frame.shift, List.map_cons,
      exec_lostItem _ inBody _ (by rwa [hkind])]
    exact ih
  | nextItem filter name body item rest cursor m hhere ih =>
    rw [exec_nextItem rest cursor hhere, shift, List.map_cons, Frame.shift, List.map_cons,
      exec_nextItem _ _ (by rwa [hkind])]
    refine Machine.chargeAt_shift rfl fun m' hm => ?_
    rw [← ih m' hm, ← Machine.setGlobal_shift]
    rfl
  | item filter name body item rest cursor m hhere ihbody ihnext =>
    rw [exec_item rest cursor hhere, shift, List.map_cons, Frame.shift, List.map_cons,
      exec_item _ _ (by rwa [hkind])]
    exact Flow.continued_shift rfl ihbody ihnext
  | sequence statements m ih =>
    rw [shift, List.map_nil, exec_sequence, exec_sequence]
    exact ih
  | sequenceEnd statements index cursor m hdrop =>
    have hdrop' : (shiftAll d statements).drop index = [] := by
      rw [drop_shiftAll, hdrop, shiftAll]
    rw [shift, List.map_cons, Frame.shift, exec_end hdrop, exec_end hdrop']
    rfl
  | member statements index s rest cursor m hdrop ihs ihnext =>
    have hdrop' : (shiftAll d statements).drop index = s.shift d :: shiftAll d rest := by
      rw [drop_shiftAll, hdrop, shiftAll]
    rw [shift, List.map_cons, Frame.shift, exec_member hdrop, exec_member hdrop']
    exact Flow.continued_shift rfl ihs ihnext

end Statement

/-! ### Instances -/

/-- The end of a run with all that it holds shifted, where `g` shifts the world. -/
def Run.shift (d : Nat) (g : σ → σ) (run : Run α σ) : Run α σ where
  result := shiftRefusal d run.result
  instanceAfter := run.instanceAfter.shift d
  stateAfter := g run.stateAfter
  effects := run.effects.map (Effect.shift d)

namespace ProgramInstance

omit [Environment α σ] in
private theorem settle_shift (i : ProgramInstance α) (flow : Flow α) (m : Machine α σ) :
    (i.shift d).settle (flow.shift d) (m.shift d g) = (i.settle flow m).shift d g := by
  have heffects : (m.trace.map (Effect.shift d)).reverse = m.trace.reverse.map (Effect.shift d) :=
    List.map_reverse.symm
  cases flow <;> simp only [settle, Flow.shift, Machine.shift, heffects] <;> rfl

variable (h : Environment.Shifts d g)
include h

private theorem readyWorm_shift (i : ProgramInstance α) (s : σ) :
    (i.shift d).readyWorm (g s) = shiftResult d (EntityId.shift d) (i.readyWorm s) := by
  have hcheck : ∀ worm : EntityId,
      (if (Environment.view (g s)).kindOf (worm.shift d) = some .worm then .ok (worm.shift d)
        else .error (.notAWorm (worm.shift d)) : Except (Error α) EntityId) =
      shiftResult d (EntityId.shift d)
        (if (Environment.view s).kindOf worm = some .worm then .ok worm
          else .error (.notAWorm worm)) := by
    intro worm
    rw [(h.view s).kindOf]
    exact ite_shift Iff.rfl rfl rfl
  obtain ⟨program, globals, worm, budget, observed, cursor, phase, wellFormed⟩ := i
  cases wellFormed with
  | false => rfl
  | true =>
    cases phase with
    | faulted => rfl
    | ready | suspended =>
      cases worm with
      | none => rfl
      | some worm => exact hcheck worm

variable [Scalar α]

private theorem runWith_shift (i : ProgramInstance α) (budget : Nat) (s : σ) :
    (i.shift d).runWith budget (g s) = (i.runWith budget s).shift d g := by
  rw [runWith, runWith, readyWorm_shift h]
  cases i.readyWorm s with
  | error e => rfl
  | ok worm =>
    have hexec := Statement.exec_shift h i.program.root i.cursor
      { worm, state := s, globals := i.globals, budget }
    refine (congrArg (fun ended => (i.shift d).settle ended.1 ended.2) hexec).trans ?_
    exact i.settle_shift _ _

/-- **A run of a program comes to the same under other numbers.** -/
theorem run_shift (i : ProgramInstance α) (s : σ) :
    (i.shift d).run (g s) = (i.run s).shift d g :=
  i.runWith_shift h i.budget s

end ProgramInstance

end WormBattle
