import WormBattle.Proofs.Execution.Budget
import WormBattle.Proofs.Execution.Replay

/-!
# The units of a run

What the machine pays for its work, told from the work alone (`Reference.units`): a unit for each
statement without parts, for each condition of a branch and each test of a loop, for each entity
that a loop starts on and for each action that is performed, refused or passed over; nothing for
taking a statement apart and nothing for an entity that has left.

`Reference.Consumes` counts the units of a whole run, which ends after finitely many steps. They
never come to more than the budget (`Reference.Consumes.charged`), and neither do the onlookers'
news nor the actions that the world is asked for, since a step that has one of these costs a unit.
-/

namespace WormBattle

variable {α σ : Type}

/-! ### What is counted -/

namespace Machine

/-- How often onlookers were told of something. -/
def told (m : Machine α σ) : Nat :=
  m.trace.countP Effect.isTold

/-- The units by which two machines differ are paid for, and what was told and asked for in between
is at most as much. -/
structure Charged (m : Machine α σ) (units : Nat) (m' : Machine α σ) : Prop where
  budget : m'.budget + units = m.budget
  told : m'.told ≤ m.told + units
  requests : m'.requests.length ≤ m.requests.length + units

private theorem Charged.refl (m : Machine α σ) : m.Charged 0 m :=
  ⟨rfl, Nat.le_refl _, Nat.le_refl _⟩

private theorem Charged.trans {m m' m'' : Machine α σ} {units units' : Nat} (h : m.Charged units m')
    (h' : m'.Charged units' m'') : m.Charged (units + units') m'' := by
  obtain ⟨hbudget, htold, hasked⟩ := h
  obtain ⟨hbudget', htold', hasked'⟩ := h'
  exact ⟨by omega, by omega, by omega⟩

/-- A unit is enough for one piece of news and one action. -/
theorem Charged.noted {m m' : Machine α σ} (effects : List (Effect α))
    (hbudget : m.budget = m'.budget + 1) (htrace : m'.trace = effects ++ m.trace)
    (htold : effects.countP Effect.isTold ≤ 1)
    (hasked : (effects.filterMap Effect.asked?).length ≤ 1) : m.Charged 1 m' := by
  refine ⟨hbudget.symm, ?_, ?_⟩
  · rw [Machine.told, Machine.told, htrace, List.countP_append]
    omega
  · rw [Machine.requests, Machine.requests, htrace, List.filterMap_reverse, List.filterMap_reverse,
      List.filterMap_append, List.length_reverse, List.length_reverse, List.length_append]
    omega

/-- Nothing but a unit is gone. -/
theorem charged_of_paid {m : Machine α σ} {left : Nat} (h : m.budget = left + 1) :
    m.Charged 1 { m with budget := left } :=
  .noted [] h rfl (Nat.zero_le 1) (Nat.zero_le 1)

end Machine

namespace Reference

variable [Scalar α] [Environment α σ]

/-- The units of an action. Putting it off until the worm can pay for it costs nothing. -/
def actionUnits (m : Machine α σ) (action : Action α) : Nat :=
  match Environment.actionCost m.state m.worm action, Environment.actionPoints m.state m.worm with
  | .error _, _ => 1
  | .ok _, .error _ => 0
  | .ok needed, .ok available => if available < needed then 0 else 1

/-- The units of a statement at the front of the work. -/
def statementUnits (m : Machine α σ) : Statement α → Nat
  | .skip | .assign _ _ | .print _ | .ifElse _ _ _ => 1
  | .turn angle =>
    match m.evalDouble angle with
    | .ok x => actionUnits m (.turn x)
    | .error _ => 0
  | .move => actionUnits m .move
  | .jump => actionUnits m .jump
  | .toggleWeapon => actionUnits m .toggleWeapon
  | .fire yieldPercent =>
    match m.evalDouble yieldPercent with
    | .ok x =>
      match Machine.yield? x with
      | some percent => actionUnits m (.fire percent)
      | none => 1
    | .error _ => 0
  | .whileLoop _ _ | .forEach _ _ _ | .sequence _ => 0

/-- The units of the work at the front. -/
def units : List (Work α) → Machine α σ → Nat
  | .statement s :: _, m => statementUnits m s
  | .retest _ _ :: _, _ => 1
  | .items none (id :: _) _ _ :: _, m => if (m.kindOf id).isNone then 0 else 1
  | .items _ _ _ _ :: _, _ | [], _ => 0

/-- A run with the units that it consumes. A step that lacks a unit consumes none. -/
inductive Consumes : List (Work α) × Machine α σ → Nat → Stop α → Machine α σ → Prop where
  /-- The machine lacks a unit. -/
  | spent {work : List (Work α)} {m m' : Machine α σ} :
      step work m = .stop (.suspended .budget) m' → Consumes (work, m) 0 (.suspended .budget) m'
  /-- The machine stops for another reason. -/
  | stop {work : List (Work α)} {stop : Stop α} {m m' : Machine α σ} :
      step work m = .stop stop m' → stop ≠ .suspended .budget →
      Consumes (work, m) (units work m) stop m'
  /-- The machine goes on. -/
  | go {work work' : List (Work α)} {stop : Stop α} {m m' m'' : Machine α σ} {n : Nat} :
      step work m = .go work' m' → Consumes (work', m') n stop m'' →
      Consumes (work, m) (units work m + n) stop m''

variable {work work' rest : List (Work α)} {m m' : Machine α σ} {stop : Stop α} {n : Nat}

/-! ### Steps -/

/-- How the machine stops: as it was for want of a unit, or for another reason with the units of the
step paid for. -/
inductive Settled (m : Machine α σ) (n : Nat) : Stop α → Machine α σ → Prop where
  /-- There is no unit. -/
  | spent : m.budget = 0 → Settled m n (.suspended .budget) m
  /-- The units are paid for. -/
  | paid {stop : Stop α} {m' : Machine α σ} : stop ≠ .suspended .budget → m.Charged n m' →
      Settled m n stop m'

/-- A step that is paid for with some units. -/
def Meters (m : Machine α σ) (n : Nat) (next : Next α σ) : Prop :=
  next.All (fun _ => m.Charged n) (Settled m n)

omit [Scalar α] [Environment α σ] in
/-- A unit is paid before anything is done for it. -/
theorem meters_pay {go : Machine α σ → Next α σ}
    (h : ∀ left, m.budget = left + 1 → Meters m 1 (go { m with budget := left })) :
    Meters m 1 (pay m go) :=
  all_pay .spent h

omit [Scalar α] [Environment α σ] in
private theorem meters_passed : Meters m 1 (pay m (.go rest)) :=
  meters_pay fun _ hleft => Machine.charged_of_paid hleft

omit [Scalar α] in
private theorem meters_ask {action : Action α} {left : Nat} (hleft : m.budget = left + 1) :
    Meters m 1 (ask { m with budget := left } action rest) := by
  have hdone : ∀ state, m.Charged 1 { m with
      budget := left, state, trace := .done m.worm action :: .asked m.worm action :: m.trace } :=
    fun state => .noted [.done m.worm action, .asked m.worm action] hleft rfl (Nat.le_refl 1)
      (Nat.le_refl 1)
  refine all_ask (fun e state _ => ?_) (fun state _ _ => hdone state)
    fun state _ _ => .paid nofun (hdone state)
  exact .noted [.asked m.worm action] hleft rfl (Nat.zero_le 1) (Nat.le_refl 1)

omit [Scalar α] in
/-- An action costs a unit if it is passed over or asked for. -/
theorem meters_act (action : Action α) : Meters m (actionUnits m action) (act m action rest) := by
  rw [act, actionUnits]
  cases Environment.actionCost m.state m.worm action with
  | error e => exact meters_passed
  | ok needed =>
    cases Environment.actionPoints m.state m.worm with
    | error e => exact .paid (by simp) (.refl m)
    | ok available =>
      dsimp only [require]
      split
      · exact .paid (by simp) (.refl m)
      · exact meters_pay fun left hleft => meters_ask hleft

/-- **Every step is metered**: what it does is paid for with the units of its work. -/
theorem meters_step (work : List (Work α)) (m : Machine α σ) :
    Meters m (units work m) (step work m) := by
  have hstay : ∀ work, Meters m 0 (.go work m) := fun _ => .refl m
  have hfailed : ∀ {left : Nat} {e : Error α}, m.budget = left + 1 →
      Settled m 1 (.failed e) { m with budget := left } :=
    fun hleft => .paid nofun (Machine.charged_of_paid hleft)
  rcases work with - | ⟨s | ⟨condition, body⟩ | ⟨current, ids, name, body⟩, rest⟩
  · exact .paid nofun (.refl m)
  · rw [step, units]
    cases s with
    | skip => exact meters_passed
    | assign name value =>
      rw [stepStatement, statementUnits]
      refine meters_pay fun left hleft => all_require (fun _ _ => hfailed hleft) fun v _ => ?_
      refine all_require (fun _ _ => hfailed hleft) fun _ _ => ?_
      exact .noted [.assigned name v] hleft rfl (Nat.zero_le 1) (Nat.zero_le 1)
    | print value =>
      rw [stepStatement, statementUnits]
      refine meters_pay fun left hleft => all_require (fun _ _ => hfailed hleft) fun v _ => ?_
      exact .noted [.printed v] hleft rfl (Nat.le_refl 1) (Nat.zero_le 1)
    | turn angle =>
      rw [stepStatement, statementUnits]
      cases m.evalDouble angle with
      | error e => exact .paid nofun (.refl m)
      | ok x => exact meters_act _
    | move => exact meters_act _
    | jump => exact meters_act _
    | toggleWeapon => exact meters_act _
    | fire yieldPercent =>
      rw [stepStatement, statementUnits]
      cases m.evalDouble yieldPercent with
      | error e => exact .paid nofun (.refl m)
      | ok x =>
        dsimp only [require]
        cases Machine.yield? x with
        | some percent => exact meters_act _
        | none => exact meters_passed
    | ifElse condition then_ otherwise =>
      rw [stepStatement, statementUnits]
      refine meters_pay fun left hleft => all_require (fun _ _ => hfailed hleft) fun holds _ => ?_
      exact Machine.charged_of_paid hleft
    | whileLoop condition body => exact hstay _
    | forEach filter name body => exact hstay _
    | sequence statements => exact hstay _
  · rw [step, units]
    refine meters_pay fun left hleft => all_require (fun _ _ => hfailed hleft) fun holds _ => ?_
    cases holds <;> exact Machine.charged_of_paid hleft
  · rcases current with - | id
    · cases ids with
      | nil => exact hstay _
      | cons id ids =>
        rw [step, units]
        split
        · exact hstay _
        · exact meters_pay fun left hleft =>
            .noted [.assigned name (.entity (some id))] hleft rfl (Nat.zero_le 1) (Nat.zero_le 1)
    · exact hstay _

/-! ### Runs -/

/-- **The units of a run are paid for from its budget**, and they are all of it if the run stops for
want of one. -/
theorem Consumes.charged {c : List (Work α) × Machine α σ} (h : Consumes c n stop m') :
    c.2.Charged n m' ∧ (stop = .suspended .budget → m'.budget = 0) := by
  induction h with
  | @spent work m m' hstep =>
    have hmeters := meters_step work m
    rw [hstep] at hmeters
    cases hmeters with
    | spent hzero => exact ⟨.refl m, fun _ => hzero⟩
    | paid hother _ => exact absurd rfl hother
  | @stop work stop m m' hstep hother =>
    have hmeters := meters_step work m
    rw [hstep] at hmeters
    cases hmeters with
    | spent _ => exact absurd rfl hother
    | paid _ hcharged => exact ⟨hcharged, fun h => absurd h hother⟩
  | @go work work' stop m m' m'' n hstep _ ih =>
    have hcharged := meters_step work m
    rw [hstep] at hcharged
    exact ⟨hcharged.trans ih.1, ih.2⟩

private theorem Consumes.halts {c : List (Work α) × Machine α σ} (h : Consumes c n stop m') :
    ∃ work, Halts c stop work m' := by
  induction h with
  | spent hstep => exact ⟨_, .of_step hstep⟩
  | stop hstep _ => exact ⟨_, .of_step hstep⟩
  | go hstep _ ih =>
    obtain ⟨work, hhalts⟩ := ih
    exact ⟨work, hhalts.of_reaches (Reaches.head hstep (Reaches.refl _))⟩

/-- A run that stops consumes some units. -/
theorem Halts.consumes {c : List (Work α) × Machine α σ} (h : Halts c stop work m') :
    ∃ n, Consumes c n stop m' := by
  obtain ⟨before, hreach, hstop⟩ := h
  induction hreach using Relation.ReflTransGen.head_induction_on with
  | refl =>
    by_cases hspent : stop = .suspended .budget
    · subst hspent
      exact ⟨0, .spent hstop⟩
    · exact ⟨_, .stop hstop hspent⟩
  | head hgo _ ih =>
    obtain ⟨n, hconsumes⟩ := ih
    exact ⟨_, .go hgo hconsumes⟩

/-- The units of a run are determined by where it begins. -/
theorem Consumes.unique {c : List (Work α) × Machine α σ} {n' : Nat} {stop' : Stop α}
    {m'' : Machine α σ} (h : Consumes c n stop m') (h' : Consumes c n' stop' m'') : n = n' := by
  obtain ⟨work, hhalts⟩ := h.halts
  obtain ⟨work', hhalts'⟩ := h'.halts
  obtain ⟨-, -, rfl⟩ := hhalts.unique hhalts'
  have hbudget := h.charged.1.budget
  have hbudget' := h'.charged.1.budget
  omega

/-- What the machine comes to by a step. From where this relation is accessible, the machine does
not go on for ever. -/
def After (c' c : List (Work α) × Machine α σ) : Prop :=
  step c.1 c.2 = .go c'.1 c'.2

private theorem Halts.acc {c : List (Work α) × Machine α σ} (h : Halts c stop work m') :
    Acc After c := by
  obtain ⟨before, hreach, hstop⟩ := h
  induction hreach using Relation.ReflTransGen.head_induction_on with
  | refl =>
    refine .intro _ fun d hd => ?_
    cases hstop.symm.trans hd
  | @head c c' hgo _ ih =>
    refine .intro _ fun d hd => ?_
    obtain ⟨hwork, hm⟩ := Next.go.inj (hgo.symm.trans hd)
    exact (Prod.ext hwork hm : c' = d) ▸ ih

end Reference

/-! ### Program instances -/

namespace ProgramInstance

variable [Scalar α] [Environment α σ] {i : ProgramInstance α}

/-- Where the run of an instance begins. -/
def begins (i : ProgramInstance α) (worm : EntityId) (budget : Nat) (state : σ) :
    List (Work α) × Machine α σ :=
  (Work.resume (Environment.view state) (i.program.root.pending i.cursor),
    { worm, state, globals := i.globals, budget })

/-- The units that a run of an instance consumes, how it ends and what it does. -/
inductive Consumes (i : ProgramInstance α) (budget : Nat) (state : σ) :
    Nat → Except (Error α) Outcome → List (Effect α) → Prop where
  /-- The run is refused. -/
  | refused {e : Error α} : i.readyWorm state = .error e → Consumes i budget state 0 (.error e) []
  /-- The run takes place. -/
  | ran {worm : EntityId} {n : Nat} {stop : Stop α} {m : Machine α σ} :
      i.readyWorm state = .ok worm → Reference.Consumes (i.begins worm budget state) n stop m →
      Consumes i budget state n (Reference.outcome stop) m.trace.reverse

private theorem Consumes.unique {budget n n' : Nat} {state : σ}
    {result result' : Except (Error α) Outcome}
    {effects effects' : List (Effect α)} (h : i.Consumes budget state n result effects)
    (h' : i.Consumes budget state n' result' effects') : n = n' := by
  cases h with
  | refused hready =>
    cases h' with
    | refused _ => rfl
    | ran hready' _ => cases hready.symm.trans hready'
  | ran hready hconsumes =>
    cases h' with
    | refused hready' => cases hready.symm.trans hready'
    | ran hready' hconsumes' =>
      cases hready.symm.trans hready'
      exact hconsumes.unique hconsumes'

/-- What a run does is paid for with the units that it consumes. -/
theorem Consumes.within {budget n : Nat} {state : σ} {result : Except (Error α) Outcome}
    {effects : List (Effect α)} (h : i.Consumes budget state n result effects) :
    n ≤ budget ∧ effects.countP Effect.isTold ≤ n ∧ (effects.filterMap Effect.asked?).length ≤ n ∧
      (result = .ok (.suspended .budget) → n = budget) := by
  cases h with
  | refused _ => exact ⟨Nat.zero_le budget, Nat.le_refl 0, Nat.le_refl 0, nofun⟩
  | @ran worm n stop m _ hconsumes =>
    obtain ⟨⟨hbudget, htold, hasked⟩, hspent⟩ := hconsumes.charged
    -- The machine begins with the whole budget and with nothing noted.
    have hbudget : m.budget + n = budget := hbudget
    have htold : m.trace.countP Effect.isTold ≤ 0 + n := htold
    have hasked : m.requests.length ≤ 0 + n := hasked
    rw [List.countP_reverse, ← Machine.requests]
    refine ⟨by omega, by omega, by omega, fun hend => ?_⟩
    have hstop : stop = .suspended .budget := by
      cases stop <;> cases hend
      rfl
    have hzero := hspent hstop
    omega

/-- Every run consumes some units, with what it comes to. -/
theorem Made.consumes (h : i.Made) (budget : Nat) (state : σ) :
    ∃ n, i.Consumes budget state n (i.runWith budget state).result
      (i.runWith budget state).effects := by
  rcases h.run_cases budget state with
    ⟨e, hready, hrun⟩ | ⟨worm, stop, work, m, hready, hhalts, hresult, -, -, heffects⟩
  · rw [hrun]
    exact ⟨0, .refused hready⟩
  · obtain ⟨n, hconsumes⟩ := hhalts.consumes
    rw [hresult, heffects]
    exact ⟨n, .ran hready hconsumes⟩

/-- **Every run ends within its budget**, in every environment and wherever the instance stands. It
consumes no more units than it has, neither tells onlookers nor asks the world more often than it
consumes units, and stops for want of units only when all of them are consumed. -/
theorem Made.within_budget (h : i.Made) (budget : Nat) (state : σ) :
    let run := i.runWith budget state
    (∀ worm, i.readyWorm state = .ok worm → Acc Reference.After (i.begins worm budget state)) ∧
    ∃ n, i.Consumes budget state n run.result run.effects ∧
      (∀ n' result effects, i.Consumes budget state n' result effects → n' = n) ∧ n ≤ budget ∧
      run.effects.countP Effect.isTold ≤ n ∧ run.asked.length ≤ n ∧
      (run.result = .ok (.suspended .budget) → n = budget) := by
  obtain ⟨n, hconsumes⟩ := h.consumes budget state
  refine ⟨fun worm hworm => ?_, n, hconsumes, fun _ _ _ h' => h'.unique hconsumes,
    hconsumes.within⟩
  have hends := i.program.root.exec_follows i.cursor
    { worm, state, globals := i.globals, budget } h.fits
  obtain ⟨work, hhalts, -⟩ := hends.halts
  exact hhalts.acc

/-- A run that stops after two units, in front of the third. -/
theorem within_budget_lookingAround :
    let run := lookingAround.runWith 2 Simulation.gazing
    run.result = .ok (.suspended .budget) ∧
      ∃ n, lookingAround.Consumes 2 Simulation.gazing n run.result run.effects ∧ n = 2 := by
  have hmade : lookingAround.Made := .bind _ (.of _ 10 true)
  have hspent : (lookingAround.runWith 2 Simulation.gazing).result =
      .ok (.suspended .budget) := by
    decide +kernel
  obtain ⟨-, n, hconsumes, -, -, -, -, hall⟩ := hmade.within_budget 2 Simulation.gazing
  exact ⟨hspent, n, hconsumes, hall hspent⟩

end ProgramInstance

end WormBattle
