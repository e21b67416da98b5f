import WormBattle.Proofs.Execution.Extension
import WormBattle.Proofs.Typing.Worms

/-!
# Splitting the budget

A run that stops for want of units is gone on with, in the world that it left, by a second run. The
two come to what one run with the units of both comes to (`ProgramInstance.Made.runWith_add`): to
the same end, instance and world, with the effects of the second behind those of the first. What
onlookers are told is read off the effects, so they notice nothing either.

The one thing that can come in between is the look at the worm before a run begins, which no run
makes on its way after an action that was refused. In a game a refused action keeps all worms. Over
a `Trapdoor` it does not, and there the second run is refused
(`ProgramInstance.not_always_continues`).
-/

namespace WormBattle

variable {α σ : Type}

/-- What holds wherever an execution goes on holds where it is suspended, and it only stops for want
of units when there are none left. -/
theorem Statement.keeps_of_suspended [Scalar α] [Environment α σ] {P : Machine α σ → Prop}
    {s : Statement α} {cursor cursor' : List Frame} {m m' : Machine α σ} {reason : SuspendReason}
    (hfits : s.Fits cursor)
    (hstep : ∀ m₁ m₂ : Machine α σ, P m₁ → m₁.Onward m₂ → P m₂) (hP : P m)
    (h : s.exec cursor m = (.suspended reason cursor', m')) :
    P m' ∧ (reason = .budget → m'.budget = 0) := by
  obtain ⟨work, hhalts, -⟩ := (s.exec_follows cursor m hfits).halts
  rw [h] at hhalts
  have hend := hhalts.keeps_machine (P := P) (Q := fun stop m' => stop ≠ .wormDied →
    P m' ∧ (stop = .suspended .budget → m'.budget = 0)) hstep ?_ hP
  · obtain ⟨hP', hspent⟩ := hend nofun
    exact ⟨hP', fun hreason => hspent (congrArg Stop.suspended hreason)⟩
  · intro m₁ stop m₂ hm₁ hhalted hliving
    cases hhalted with
    | idle hleft _ hspent => exact ⟨hstep _ _ hm₁ (.spent hleft), hspent⟩
    | died _ _ _ => exact absurd rfl hliving

/-! ### Two runs as one -/

/-- Two runs, one after the other, as one. -/
def Run.append (first second : Run α σ) : Run α σ :=
  { second with effects := first.effects ++ second.effects }

namespace ProgramInstance

/-- What was done before the execution stands before the effects of the run. -/
theorem settle_extend (i : ProgramInstance α) (flow : Flow α) (m : Machine α σ)
    (before : List (Effect α)) : i.settle flow (m.extend 0 before) =
      { i.settle flow m with effects := before.reverse ++ (i.settle flow m).effects } := by
  cases flow <;> simp [settle, Machine.extend]

/-- A run overwrites what an earlier one has left of the instance. -/
theorem settle_settle (i : ProgramInstance α) (flow flow' : Flow α) (m m' : Machine α σ) :
    (i.settle flow m).instanceAfter.settle flow' m' = i.settle flow' m' := by
  cases flow <;> cases flow' <;> rfl

private theorem phase_of_settle_eq_error {i : ProgramInstance α} {flow : Flow α}
    {m : Machine α σ} {e : Error α}
    (h : (i.settle flow m).result = .error e) :
    (i.settle flow m).instanceAfter.phase = .faulted := by
  cases flow with
  | failed e' => rfl
  | done | suspended _ _ | wormDied => cases h

variable [Scalar α]

section Runs

variable [Environment α σ] {i : ProgramInstance α} {units : Nat} {state : σ}

/-- The run with some units, gone on with in the world that it left with more of them, is the run
with all of them. -/
def Continues (i : ProgramInstance α) (units more : Nat) (state : σ) : Prop :=
  i.runWith (units + more) state = (i.runWith units state).append
    ((i.runWith units state).instanceAfter.runWith more (i.runWith units state).stateAfter)

/-- Where a run stopped, and why. -/
theorem Made.suspended_cases {P : Machine α σ → Prop} {reason : SuspendReason} (h : i.Made)
    (hsuspended : (i.runWith units state).result = .ok (.suspended reason))
    (hstep : ∀ m m' : Machine α σ, P m → m.Onward m' → P m')
    (hP : ∀ worm, i.readyWorm state = .ok worm →
      P { worm, state, globals := i.globals, budget := units }) :
    ∃ worm cursor m, i.readyWorm state = .ok worm ∧
      i.program.root.exec i.cursor { worm, state, globals := i.globals, budget := units } =
        (.suspended reason cursor, m) ∧ (reason = .budget → m.budget = 0) ∧ P m := by
  rcases hready : i.readyWorm state with e | worm
  · rw [runWith_refused hready] at hsuspended
    cases hsuspended
  · rw [runWith_ready hready, settle_result] at hsuspended
    rcases hend : i.program.root.exec i.cursor
      { worm, state, globals := i.globals, budget := units } with ⟨_ | ⟨reason', cursor⟩ | _ | _, m⟩
    all_goals rw [hend] at hsuspended
    case suspended =>
      obtain rfl : reason' = reason := Outcome.suspended.inj (Except.ok.inj hsuspended)
      obtain ⟨hm, hzero⟩ := Statement.keeps_of_suspended h.fits hstep (hP worm hready) hend
      exact ⟨worm, cursor, m, rfl, hend, hzero, hm⟩
    all_goals cases hsuspended

/-- The worm of a run that was suspended is the one that the instance is bound to. -/
theorem Made.suspended_worm {reason : SuspendReason} (h : i.Made)
    (hsuspended : (i.runWith units state).result = .ok (.suspended reason)) :
    ∃ worm cursor m, i.readyWorm state = .ok worm ∧
      i.program.root.exec i.cursor { worm, state, globals := i.globals, budget := units } =
        (.suspended reason cursor, m) ∧ (reason = .budget → m.budget = 0) ∧
      i.worm = some m.worm := by
  refine h.suspended_cases hsuspended (fun m m' hm honward => ?_) fun worm hready => ?_
  · cases honward <;> exact hm
  · exact (readyWorm_eq_ok_iff.mp hready).2.2.1

omit [Scalar α] in
/-- A suspended instance runs again as long as its worm is there. -/
theorem readyWorm_of_suspended {worm worm' : EntityId} {reason : SuspendReason}
    {cursor : List Frame} {m : Machine α σ} (hready : i.readyWorm state = .ok worm) :
    (i.settle (.suspended reason cursor) m).instanceAfter.readyWorm m.state = .ok worm' ↔
      i.worm = some worm' ∧ (Environment.view m.state).kindOf worm' = some .worm := by
  rw [readyWorm_eq_ok_iff]
  exact ⟨fun h => h.2.2, fun h => ⟨(readyWorm_eq_ok_iff.mp hready).1, nofun, h⟩⟩

/-- The run with all the units goes on at the cursor where the first run has stopped, with the
effects of that run before its own. -/
theorem Made.runWith_longer (h : i.Made) {worm : EntityId} {cursor : List Frame} {m : Machine α σ}
    (hready : i.readyWorm state = .ok worm)
    (hend : i.program.root.exec i.cursor { worm, state, globals := i.globals, budget := units } =
      (.suspended .budget cursor, m)) (hzero : m.budget = 0) (more : Nat) :
    i.runWith (units + more) state = (i.settle (.suspended .budget cursor) m).append
      ((fun ended => i.settle ended.1 ended.2) (i.program.root.exec cursor
        { worm := m.worm, state := m.state, globals := m.globals, budget := more })) := by
  have hsame : m.extend more [] = Machine.extend
      { worm := m.worm, state := m.state, globals := m.globals, budget := more } 0 m.trace := by
    simp [Machine.extend, hzero]
  have hlonger := Statement.exec_extend more [] i.program.root i.cursor
    { worm, state, globals := i.globals, budget := units } (h.check_of_ready hready)
  rw [hend, Flow.extended, hsame, Statement.exec_behind, Flow.extended_stuck] at hlonger
  rw [runWith_ready hready]
  refine (congrArg (fun ended => i.settle ended.1 ended.2) hlonger).trans ?_
  rw [settle_extend]
  rfl

/-- The two runs come to what the one run comes to, unless the second is refused since the worm has
left the world. -/
theorem Made.continues_iff (h : i.Made)
    (hspent : (i.runWith units state).result = .ok (.suspended .budget)) (more : Nat) :
    i.Continues units more state ↔ ∃ worm, i.worm = some worm ∧
      (Environment.view (i.runWith units state).stateAfter).kindOf worm = some .worm := by
  obtain ⟨worm, cursor, m, hready, hend, hzero, hbound⟩ := h.suspended_worm hspent
  have hfirst : i.runWith units state = i.settle (.suspended .budget cursor) m := by
    rw [runWith_ready hready, hend]
  rw [Continues, h.runWith_longer hready hend (hzero rfl), hfirst, settle_stateAfter]
  cases hagain : (i.settle (.suspended .budget cursor) m).instanceAfter.readyWorm m.state with
  | ok worm =>
    rw [runWith_ready hagain]
    obtain ⟨hworm', hthere⟩ := (readyWorm_of_suspended hready).mp hagain
    obtain rfl : m.worm = worm := Option.some.inj (hbound.symm.trans hworm')
    refine iff_of_true ?_ ⟨m.worm, hworm', hthere⟩
    exact congrArg _ (settle_settle i (.suspended .budget cursor) _ m _).symm
  | error e =>
    rw [runWith_refused hagain]
    refine iff_of_false (fun heq => ?_) fun ⟨worm, hthere⟩ => ?_
    · -- An error of the one run would have left the instance faulted.
      have hresult := congrArg Run.result heq
      have hphase := congrArg (fun run => run.instanceAfter.phase) heq
      have hfaulted := hphase.symm.trans (phase_of_settle_eq_error hresult)
      cases hfaulted
    · rw [(readyWorm_of_suspended hready).mpr hthere] at hagain
      cases hagain

/-- The worm of a suspended run is still there, unless a refused action has taken it out. -/
theorem Made.there_of_suspended {Inv : σ → Prop} {reason : SuspendReason} (h : i.Made)
    (hkeeps : Environment.KeepsWorm Inv) (hinv : Inv state)
    (hsuspended : (i.runWith units state).result = .ok (.suspended reason)) :
    ∃ worm, i.worm = some worm ∧
      (Environment.view (i.runWith units state).stateAfter).kindOf worm = some .worm := by
  have hstep : ∀ m m' : Machine α σ,
      (Inv m.state ∧ m.kindOf m.worm = some .worm) ∧ i.worm = some m.worm → m.Onward m' →
        (Inv m'.state ∧ m'.kindOf m'.worm = some .worm) ∧ i.worm = some m'.worm := by
    intro m m' hm honward
    refine ⟨honward.keepsWorm hkeeps hm.1, ?_⟩
    cases honward <;> exact hm.2
  obtain ⟨worm, cursor, m, hready, hend, -, ⟨-, hthere⟩, hbound⟩ :=
    h.suspended_cases hsuspended hstep fun worm hready => by
      obtain ⟨-, -, hworm, hkind⟩ := readyWorm_eq_ok_iff.mp hready
      exact ⟨⟨hinv, hkind⟩, hworm⟩
  refine ⟨m.worm, hbound, ?_⟩
  rw [runWith_ready hready, hend, settle_stateAfter]
  exact hthere

end Runs

/-- **Splitting the budget changes nothing.** In every environment, a run that stops for want of
units and is gone on with in the world that it left comes to what one run with all the units comes
to, if only the worm is still there for the second run to begin. It always is if no refused action
takes it out; and in a game none does. -/
theorem Made.runWith_add {i : ProgramInstance α} (h : i.Made) (units more : Nat) :
    (∀ (σ : Type) [Environment α σ] (state : σ),
      (i.runWith units state).result = .ok (.suspended .budget) →
      (i.Continues units more state ↔ ∃ worm, i.worm = some worm ∧
        (Environment.view (i.runWith units state).stateAfter).kindOf worm = some .worm)) ∧
    (∀ (σ : Type) [Environment α σ] (Inv : σ → Prop) (state : σ), Environment.KeepsWorm Inv →
      Inv state → (i.runWith units state).result = .ok (.suspended .budget) →
      i.Continues units more state) ∧
    ∀ s : Simulation α, s.world.Sound →
      (i.runWith units s).result = .ok (.suspended .budget) → i.Continues units more s := by
  refine ⟨fun σ _ state hspent => h.continues_iff hspent more,
    fun σ _ Inv state hkeeps hinv hspent => ?_, fun s hs hspent => ?_⟩
  · exact (h.continues_iff hspent more).mpr (h.there_of_suspended hkeeps hinv hspent)
  · exact (h.continues_iff hspent more).mpr
      (h.there_of_suspended Simulation.keepsWorm_sound hs hspent)

/-- A program that looks at each entity and then turns. -/
def lookingAround : ProgramInstance Rat :=
  let program : Program Rat :=
    { root := .sequence [
        .forEach .any "seen" (.sequence [.skip, .print (.inspect .x (.global "seen"))]),
        .turn (.literal (.double 1))]
      globals := .ofList [("seen", .entity none)] }
  (ProgramInstance.of program 10).bind ⟨1⟩

/-- The observer suspended in its loop, and run on: the counts add up. -/
theorem runWith_add_lookingAround :
    (lookingAround.runWith 2 Simulation.gazing).result = .ok (.suspended .budget) ∧
      lookingAround.Continues 2 3 Simulation.gazing ∧ ∃ worm, lookingAround.worm = some worm ∧
        (Environment.view (lookingAround.runWith 2 Simulation.gazing).stateAfter).kindOf worm =
          some .worm := by
  have hmade : lookingAround.Made := .bind _ (.of _ 10 true)
  have hspent : (lookingAround.runWith 2 Simulation.gazing).result =
      .ok (.suspended .budget) := by
    decide +kernel
  have hcontinues : lookingAround.Continues 2 3 Simulation.gazing :=
    (hmade.runWith_add 2 3).2.2 _ Simulation.reachable_gazing.sound hspent
  exact ⟨hspent, hcontinues, ((hmade.runWith_add 2 3).1 _ _ hspent).mp hcontinues⟩

end ProgramInstance

/-! ### A world that loses its worm -/

/-- A world of one worm, which stands on a trapdoor. -/
structure Trapdoor where
  /-- Whether the worm is still there. -/
  shut : Bool

/-- Every action is refused and opens the trapdoor. The worm has no action points, and nothing but a
turn costs any. -/
instance : Environment Rat Trapdoor where
  view door :=
    { kindOf := fun id => if door.shut && id.value = 1 then some .worm else none
      positionOf := fun _ => none
      radiusOf := fun _ => none
      inspect := fun id _ => .error (.notInThisWorld id)
      teamOf := fun _ => none
      entities := fun _ => [] }
  actionPoints _ _ := .ok 0
  actionCost _ _ action :=
    match action with
    | .turn _ => .ok 1
    | _ => .ok 0
  perform _ id _ := (.error (.notInThisWorld id), { shut := false })

namespace ProgramInstance

/-- A program that moves, and then goes on with a statement. -/
def movingThen (next : Statement Rat) : ProgramInstance Rat :=
  (ProgramInstance.of { root := .sequence [.move, next], globals := .ofList [] } 10).bind ⟨1⟩

/-- The budget cannot be split in every environment: the run with one unit ends after the refused
move, and there is no worm for the next run. -/
theorem not_always_continues : ¬∀ (σ : Type) [Environment Rat σ] (i : ProgramInstance Rat)
    (units more : Nat) (state : σ), i.Made →
      (i.runWith units state).result = .ok (.suspended .budget) →
        i.Continues units more state := by
  intro h
  have hmade : (movingThen .skip).Made := .bind _ (.of _ 10 true)
  have hcontinues := h Trapdoor (movingThen .skip) 1 1 ⟨true⟩ hmade (by decide +kernel)
  exact absurd (congrArg Run.result hcontinues) (by decide +kernel)

end ProgramInstance

end WormBattle
