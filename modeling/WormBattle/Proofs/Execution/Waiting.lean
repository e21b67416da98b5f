import WormBattle.Proofs.Execution.Budget
import WormBattle.Proofs.Execution.Places

/-!
# Waiting for action points

An action that the worm cannot pay for stops the run before it. A run that goes on from there, in
the same world, walks down its cursor to the same action and looks at the points before anything
else: no frame on the way takes a unit, tests a condition or gives a variable a value. So it stops
at once, where it stopped before, and so does each run after it, whatever the budgets
(`ProgramInstance.Made.waits_for_points`).

The one thing that can end the waiting is the look at the worm before a run begins, as in
`ProgramInstance.Made.runWith_add`. In a game whoever has action points is a worm; elsewhere the
worm may be gone (`ProgramInstance.not_always_waits`).
-/

namespace WormBattle

variable {α σ : Type}

/-! ### Machines of one kind -/

/-- Two machines that are alike but for the units that are left and for what was done. -/
structure Machine.Alike (m m' : Machine α σ) : Prop where
  worm : m'.worm = m.worm
  state : m'.state = m.state
  globals : m'.globals = m.globals

private theorem Machine.Alike.evalDouble [Scalar α] [Environment α σ] {m m' : Machine α σ}
    (h : m.Alike m') (e : Expression α) : m'.evalDouble e = m.evalDouble e := by
  rw [Machine.evalDouble, Machine.evalDouble, Machine.eval, Machine.eval, h.worm, h.state,
    h.globals]

/-! ### Steps that wait -/

/-- The points that a step stops for want of, and those that there are. -/
def Advance.wants? : Advance α σ → Option (Nat × Nat)
  | ended (.suspended (.actionPoints needed available) _) _ => some (needed, available)
  | _ => none

namespace Advance

variable {m : Machine α σ} {a : Advance α σ}

private theorem wants?_charge {cursor : List Frame} {go : Machine α σ → Advance α σ}
    (hgo : ∀ m', (go m').wants? = none) : (charge cursor m go).wants? = none := by
  rw [charge]
  split
  · exact hgo _
  · rfl

private theorem wants?_withValue {β : Type} {value : Except (Error α) β} {go : β → Advance α σ}
    (hgo : ∀ v, (go v).wants? = none) : (withValue m value go).wants? = none := by
  cases value with
  | ok v => exact hgo v
  | error e => rfl

/-- A part that wants points makes the whole want them, if what comes after it does not. -/
theorem wants?_under {frame : Frame} {next : Machine α σ → Advance α σ}
    (hnext : ∀ m, (next m).wants? = none) : (a.under frame next).wants? = a.wants? := by
  rcases a with x | ⟨_ | ⟨_ | _, _⟩ | _ | _, m⟩
  · rfl
  · exact hnext m
  all_goals rfl

end Advance

section Waits

variable [Environment α σ]

/-- At a machine the worm lacks the points for what comes next. Every machine of the same kind stops
there, before anything is done. -/
structure Machine.Waits (m : Machine α σ) (needed available : Nat)
    (step : Machine α σ → Advance α σ) (cursor : List Frame) : Prop where
  points : Environment.actionPoints m.state m.worm = .ok available
  poor : available < needed
  again : ∀ m', m.Alike m' →
    step m' = .ended (.suspended (.actionPoints needed available) cursor) m'

variable {m : Machine α σ} {needed available : Nat}

/-- What waits in a part waits in the whole, if the whole goes on in the part. -/
theorem Machine.Waits.under {step part : Machine α σ → Advance α σ} {cursor : List Frame}
    {frame : Frame} {next : Machine α σ → Advance α σ} (h : m.Waits needed available part cursor)
    (hstep : ∀ m', m.Alike m' → step m' = (part m').under frame next) :
    m.Waits needed available step (frame :: cursor) where
  points := h.points
  poor := h.poor
  again m' hm := by
    rw [hstep m' hm, h.again m' hm]
    rfl

/-- What the world is asked for is done, refused, or the end of the worm. -/
theorem Machine.wants?_ask (m : Machine α σ) (action : Action α) :
    (Advance.ended (m.ask action).1 (m.ask action).2).wants? = none := by
  rw [ask]
  rcases Environment.perform m.state m.worm action with ⟨_ | _, state⟩
  · rfl
  · dsimp only
    split <;> rfl

/-- An action that wants points wants them of every machine of the same kind. -/
theorem Machine.waits_perform {action : Action α}
    (h : (Advance.ended (m.perform action).1 (m.perform action).2).wants? =
      some (needed, available)) :
    m.Waits needed available (fun m => .ended (m.perform action).1 (m.perform action).2) [] := by
  cases hcost : Environment.actionCost m.state m.worm action with
  | error e =>
    have hnone : (Advance.ended (m.charge fun m => (.done, m)).1
        (m.charge fun m => (.done, m)).2).wants? = none := by
      rw [Advance.ended_charge]
      exact Advance.wants?_charge fun _ => rfl
    rw [Machine.perform, hcost] at h
    cases hnone.symm.trans h
  | ok cost =>
    rw [Machine.perform_of_planned hcost, Advance.ended_withValue] at h
    cases hpoints : Environment.actionPoints m.state m.worm with
    | error e =>
      rw [hpoints] at h
      cases h
    | ok points =>
      rw [hpoints, Advance.withValue] at h
      by_cases hpoor : points < cost
      · rw [if_pos hpoor] at h
        cases h
        refine ⟨hpoints, hpoor, fun m' hm => ?_⟩
        rw [← hm.state, ← hm.worm] at hcost hpoints
        rw [Machine.perform_of_planned hcost, hpoints, Machine.withValue, if_pos hpoor]
      · have hnone : (Advance.ended (m.charge (·.ask action)).1
            (m.charge (·.ask action)).2).wants? = none := by
          rw [Advance.ended_charge]
          exact Advance.wants?_charge fun m' => m'.wants?_ask action
        rw [if_neg hpoor] at h
        cases hnone.symm.trans h

variable [Scalar α]

/-- An action whose argument is a number to be found first. -/
theorem Machine.waits_evalDouble {e : Expression α} {go : α → Machine α σ → Flow α × Machine α σ}
    (h : (Advance.ended (m.withValue (m.evalDouble e) fun x => go x m).1
      (m.withValue (m.evalDouble e) fun x => go x m).2).wants? = some (needed, available))
    (hgo : ∀ x, (Advance.ended (go x m).1 (go x m).2).wants? = some (needed, available) →
      m.Waits needed available (fun m => .ended (go x m).1 (go x m).2) []) :
    m.Waits needed available (fun m => .ended (m.withValue (m.evalDouble e) fun x => go x m).1
      (m.withValue (m.evalDouble e) fun x => go x m).2) [] := by
  rw [Advance.ended_withValue] at h
  cases hx : m.evalDouble e with
  | error err =>
    rw [hx] at h
    cases h
  | ok x =>
    rw [hx] at h
    have hwaits := hgo x h
    refine ⟨hwaits.points, hwaits.poor, fun m' hm => ?_⟩
    rw [hm.evalDouble, hx]
    exact hwaits.again m' hm

namespace Statement

variable {s : Statement α} {cursor : List Frame} {declared : Globals α}

private theorem waits_leaf (hleaf : s.isControlFlow = false)
    (h : (s.advance [] m).wants? = some (needed, available)) :
    m.Waits needed available (s.advance []) [] := by
  cases s with
  | skip =>
    rw [advance_leaf hleaf, exec, Advance.ended_charge,
      Advance.wants?_charge fun _ => rfl] at h
    cases h
  | assign name value =>
    rw [advance_leaf hleaf, exec, Machine.assign, Advance.ended_charge,
      Advance.wants?_charge fun m' => ?_] at h
    · cases h
    · rw [Advance.ended_withValue]
      refine Advance.wants?_withValue fun v => ?_
      rw [Advance.ended_withValue]
      exact Advance.wants?_withValue fun _ => rfl
  | print value =>
    rw [advance_leaf hleaf, exec, Machine.print, Advance.ended_charge,
      Advance.wants?_charge fun m' => ?_] at h
    · cases h
    · rw [Advance.ended_withValue]
      exact Advance.wants?_withValue fun v => rfl
  | turn angle => exact Machine.waits_evalDouble h fun x hx => Machine.waits_perform hx
  | move | jump | toggleWeapon => exact Machine.waits_perform h
  | fire yieldPercent =>
    refine Machine.waits_evalDouble h fun x hx => ?_
    cases hyield : Machine.yield? x with
    | some percent =>
      rw [hyield] at hx
      exact Machine.waits_perform hx
    | none =>
      rw [hyield, Advance.ended_charge, Advance.wants?_charge fun _ => rfl] at hx
      cases hx
  | ifElse | whileLoop | forEach | sequence => cases hleaf

/-- **A step that waits for points does nothing, and does it again.** -/
theorem Stands.waits (hstands : s.Stands cursor)
    (h : (s.advance cursor m).wants? = some (needed, available)) :
    m.Waits needed available (s.advance cursor) cursor := by
  induction hstands with
  | begun s =>
    cases hcontrol : s.isControlFlow with
    | false => exact waits_leaf hcontrol h
    | true =>
      cases s with
      | ifElse condition then_ otherwise =>
        have hnone : ((ifElse condition then_ otherwise).advance [] m).wants? = none :=
          Advance.wants?_charge fun m' => Advance.wants?_withValue fun holds => rfl
        cases hnone.symm.trans h
      | whileLoop | forEach | sequence => cases h
      | _ => cases hcontrol
  | branch _ ih =>
    rw [advance_branch, Advance.wants?_under fun _ => rfl] at h
    exact (ih h).under fun m' _ => advance_branch _ _ m'
  | @retest condition body =>
    have hnone : ((whileLoop condition body).advance [.whileLoop false] m).wants? = none := by
      refine Advance.wants?_charge fun m' => Advance.wants?_withValue fun holds => ?_
      cases holds <;> rfl
    cases hnone.symm.trans h
  | @inBody condition body cursor _ ih =>
    rw [Statement.advance, Advance.wants?_under fun _ => rfl] at h
    exact (ih h).under fun m' _ => rfl
  | @nextItem filter name body items =>
    rcases items with - | ⟨item, rest⟩
    · cases h
    · by_cases hgone : (m.kindOf item).isNone = true
      · rw [advance_lostItem rest false [] hgone] at h
        cases h
      · rw [advance_nextItem rest [] hgone, Advance.wants?_charge fun _ => rfl] at h
        cases h
  | @item filter name body item rest cursor _ ih =>
    by_cases hgone : (m.kindOf item).isNone = true
    · rw [advance_lostItem rest true cursor hgone] at h
      cases h
    · rw [advance_item rest cursor hgone, Advance.wants?_under fun _ => rfl] at h
      refine (ih h).under fun m' hm => advance_item rest cursor ?_
      rwa [Machine.kindOf, hm.state]
  | sequenceEnd hdrop =>
    rw [advance_end hdrop] at h
    cases h
  | member hdrop _ ih =>
    rw [advance_member hdrop, Advance.wants?_under fun _ => rfl] at h
    exact (ih h).under fun m' _ => advance_member hdrop _ m'

/-- An execution that comes to its end has a last step. -/
theorem exists_last (h : s.check declared = .ok ()) (hstands : s.Stands cursor)
    {flow : Flow α} {m' : Machine α σ} (hend : s.exec cursor m = (flow, m')) :
    ∃ last before, s.Stands last ∧ s.advance last before = .ended flow m' := by
  have hcomes := s.advance_comes cursor m h
  rw [hend] at hcomes
  clear hend
  generalize hfinal : (flow, m') = final at hcomes
  generalize hstep : s.advance cursor m = a at hcomes
  induction hcomes generalizing cursor m with
  | ended =>
    cases hfinal
    exact ⟨cursor, m, hstands, hstep⟩
  | @onward x final _ ih =>
    exact ih (hstands.advance (congrArg Advance.cursor? hstep)) hfinal rfl

/-- **An execution that waits for points waits at its cursor.** Executing from there stops at once,
for the same reason and at the same cursor, with the machine as it is. -/
theorem waits_exec (h : s.check declared = .ok ()) (hstands : s.Stands cursor) {c : List Frame}
    {m' : Machine α σ}
    (hend : s.exec cursor m = (.suspended (.actionPoints needed available) c, m')) :
    Environment.actionPoints m'.state m'.worm = .ok available ∧ available < needed ∧
      ∀ m'', m'.Alike m'' →
        s.exec c m'' = (.suspended (.actionPoints needed available) c, m'') := by
  obtain ⟨last, before, hlast, hstep⟩ := exists_last h hstands hend
  have hwaits := hlast.waits (congrArg Advance.wants? hstep)
  have hstill := hstep.symm.trans (hwaits.again before ⟨rfl, rfl, rfl⟩)
  cases hstill
  refine ⟨hwaits.points, hwaits.poor, fun m'' hm => ?_⟩
  rw [exec_eq_finish h, hwaits.again m'' hm]
  rfl

end Statement

end Waits

/-! ### Runs that wait -/

/-- Only worms have action points in a game. -/
theorem World.kindOf_of_actionPoints [Scalar α] {w : World α} {id : EntityId} {points : Nat}
    (h : w.actionPoints id = .ok points) : w.kindOf id = some .worm := by
  rw [kindOf_eq_worm_iff]
  cases hworm : w.worm? id with
  | some worm => exact ⟨worm, rfl⟩
  | none =>
    rw [actionPoints, requireWorm, hworm] at h
    cases h

namespace ProgramInstance

variable [Scalar α]

section Runs

variable [Environment α σ] {i : ProgramInstance α} {state : σ} {budget needed available : Nat}

/-- Runs one after the other, each with a budget of its own and in the world that the one before it
left. -/
def consecutive (i : ProgramInstance α) : List Nat → σ → List (Run α σ)
  | [], _ => []
  | budget :: budgets, state =>
    let run := i.runWith budget state
    run :: run.instanceAfter.consecutive budgets run.stateAfter

/-- All further runs, however many and with whatever budgets, stop at once for the same reason. They
leave the instance and the world as they are, and nothing is done. -/
def Waits (i : ProgramInstance α) (reason : SuspendReason) (state : σ) : Prop :=
  ∀ budgets : List Nat, i.consecutive budgets state =
    budgets.map fun _ => ⟨.ok (.suspended reason), i, state, []⟩

/-- Runs wait if each single one does. -/
theorem waits_of_runWith {reason : SuspendReason}
    (h : ∀ budget, i.runWith budget state = ⟨.ok (.suspended reason), i, state, []⟩) :
    i.Waits reason state := by
  intro budgets
  induction budgets with
  | nil => rfl
  | cons budget budgets ih => rw [consecutive, h budget, List.map_cons, ih]

/-- How an instance stands that waits for points. It waits on if it is ready to run at all. -/
theorem Made.waiting_cases (h : i.Made) (hwaiting : (i.runWith budget state).result =
      .ok (.suspended (.actionPoints needed available))) :
    available < needed ∧ ∃ worm, i.worm = some worm ∧
      Environment.actionPoints (i.runWith budget state).stateAfter worm = .ok available ∧
      ((i.runWith budget state).instanceAfter.Waits (.actionPoints needed available)
          (i.runWith budget state).stateAfter ↔
        (Environment.view (i.runWith budget state).stateAfter).kindOf worm = some .worm) := by
  obtain ⟨worm, cursor, m, hready, hend, -, hbound⟩ := h.suspended_worm hwaiting
  obtain ⟨hpoints, hpoor, hagain⟩ := Statement.waits_exec (h.check_of_ready hready)
    (Statement.stands_of_fits h.fits) hend
  have hrun : i.runWith budget state =
      i.settle (.suspended (.actionPoints needed available) cursor) m := by
    rw [runWith_ready hready, hend]
  rw [hrun, settle_stateAfter]
  refine ⟨hpoor, m.worm, hbound, hpoints, ?_⟩
  generalize hwaits : Flow.suspended (.actionPoints needed available) cursor = waits
  have hafter : ∀ worm', (i.settle waits m).instanceAfter.readyWorm m.state = .ok worm' ↔
      i.worm = some worm' ∧ (Environment.view m.state).kindOf worm' = some .worm := by
    intro worm'
    rw [← hwaits]
    exact readyWorm_of_suspended hready
  constructor
  · intro hagain
    have hfirst : (i.settle waits m).instanceAfter.runWith 0 m.state = _ :=
      (List.cons.inj (hagain [0])).1
    cases hready' : (i.settle waits m).instanceAfter.readyWorm m.state with
    | ok worm' =>
      obtain ⟨hbound', hthere⟩ := (hafter worm').mp hready'
      cases hbound.symm.trans hbound'
      exact hthere
    | error e =>
      rw [runWith_refused hready'] at hfirst
      cases hfirst
  · intro hthere
    refine waits_of_runWith fun budget' => ?_
    rw [runWith_ready ((hafter m.worm).mpr ⟨hbound, hthere⟩)]
    subst hwaits
    have hsame := hagain
      { worm := m.worm, state := m.state, globals := m.globals, budget := budget' } ⟨rfl, rfl, rfl⟩
    exact (congrArg (fun ended => ProgramInstance.settle _ ended.1 ended.2) hsame).trans rfl

private theorem Made.waits_iff (h : i.Made) (hwaiting : (i.runWith budget state).result =
      .ok (.suspended (.actionPoints needed available))) :
    available < needed ∧
      ((i.runWith budget state).instanceAfter.Waits (.actionPoints needed available)
          (i.runWith budget state).stateAfter ↔
        ∃ worm, i.worm = some worm ∧
          (Environment.view (i.runWith budget state).stateAfter).kindOf worm = some .worm) := by
  obtain ⟨hpoor, worm, hbound, -, hwaits⟩ := h.waiting_cases hwaiting
  refine ⟨hpoor, hwaits.trans ⟨fun hthere => ⟨worm, hbound, hthere⟩, ?_⟩⟩
  rintro ⟨worm', hbound', hthere⟩
  cases hbound.symm.trans hbound'
  exact hthere

end Runs

/-- **Waiting for points is stable.** In every environment, a run that stops for want of points
lacks them, and all further runs in the world that it left come to the same and change nothing, if
only the worm is still there for them to begin. It always is if no refused action takes it out, and
so it is in a game. -/
theorem Made.waits_for_points {i : ProgramInstance α} (h : i.Made)
    (budget needed available : Nat) :
    (∀ (σ : Type) [Environment α σ] (state : σ),
      (i.runWith budget state).result = .ok (.suspended (.actionPoints needed available)) →
      available < needed ∧
        ((i.runWith budget state).instanceAfter.Waits (.actionPoints needed available)
            (i.runWith budget state).stateAfter ↔
          ∃ worm, i.worm = some worm ∧
            (Environment.view (i.runWith budget state).stateAfter).kindOf worm = some .worm)) ∧
    (∀ (σ : Type) [Environment α σ] (Inv : σ → Prop) (state : σ), Environment.KeepsWorm Inv →
      Inv state →
      (i.runWith budget state).result = .ok (.suspended (.actionPoints needed available)) →
      available < needed ∧
        (i.runWith budget state).instanceAfter.Waits (.actionPoints needed available)
          (i.runWith budget state).stateAfter) ∧
    ∀ s : Simulation α,
      (i.runWith budget s).result = .ok (.suspended (.actionPoints needed available)) →
      available < needed ∧
        (i.runWith budget s).instanceAfter.Waits (.actionPoints needed available)
          (i.runWith budget s).stateAfter := by
  refine ⟨fun σ _ state => h.waits_iff, fun σ _ Inv state hkeeps hinv hwaiting => ?_, ?_⟩
  · obtain ⟨hpoor, hwaits⟩ := h.waits_iff hwaiting
    exact ⟨hpoor, hwaits.mpr (h.there_of_suspended hkeeps hinv hwaiting)⟩
  · intro s hwaiting
    obtain ⟨hpoor, worm, -, hpoints, hwaits⟩ := h.waiting_cases hwaiting
    exact ⟨hpoor, hwaits.mpr (World.kindOf_of_actionPoints hpoints)⟩

/-- A program that goes on turning for as long as its worm can. -/
def turningOn : ProgramInstance Rat :=
  let program : Program Rat :=
    { root := .sequence [
        .assign "seen" .selfRef,
        .whileLoop (.literal (.bool true)) (.sequence [.skip, .turn (.literal (.double 3))])]
      globals := .ofList [("seen", .entity none)] }
  (ProgramInstance.of program 100).bind ⟨1⟩

/-- A worm that turns until it cannot pay waits, and still waits when it is run again. -/
theorem waits_for_points_turningOn :
    let run := turningOn.runWith 100 Simulation.gazing
    run.result = .ok (.suspended (.actionPoints 29 5)) ∧
      run.instanceAfter.cursor = [.sequence 1, .whileLoop true, .sequence 1] ∧
      run.instanceAfter.Waits (.actionPoints 29 5) run.stateAfter ∧
      ∃ worm, turningOn.worm = some worm ∧
        (Environment.view run.stateAfter).kindOf worm = some .worm := by
  intro run
  have hmade : turningOn.Made := .bind _ (.of _ 100 true)
  have hwaiting : run.result = .ok (.suspended (.actionPoints 29 5)) := by decide +kernel
  have hcursor : run.instanceAfter.cursor = [.sequence 1, .whileLoop true, .sequence 1] := by
    decide +kernel
  obtain ⟨hall, -, hgame⟩ := hmade.waits_for_points 100 29 5
  have hwaits := (hgame _ hwaiting).2
  exact ⟨hwaiting, hcursor, hwaits, (hall _ _ hwaiting).2.mp hwaits⟩

/-- Waiting is not stable in every environment: after the refused move there is no worm to wait. -/
theorem not_always_waits : ¬∀ (σ : Type) [Environment Rat σ] (i : ProgramInstance Rat)
    (budget needed available : Nat) (state : σ), i.Made →
      (i.runWith budget state).result = .ok (.suspended (.actionPoints needed available)) →
        (i.runWith budget state).instanceAfter.Waits (.actionPoints needed available)
          (i.runWith budget state).stateAfter := by
  intro h
  let turns := movingThen (.turn (.literal (.double 1)))
  have hmade : turns.Made := .bind _ (.of _ 10 true)
  have hwaits := h Trapdoor turns 5 1 0 ⟨true⟩ hmade (by decide +kernel)
  exact absurd (congrArg (List.map Run.result) (hwaits [5])) (by decide +kernel)

end ProgramInstance

end WormBattle
