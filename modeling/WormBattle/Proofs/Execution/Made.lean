import WormBattle.Proofs.Execution.Sessions

/-!
# The instances that come about

An instance is made from a program, and then bound, copied and run, in any environments and in any
order (`ProgramInstance.Made`). Whatever was done, it represents a state of the reference machine,
so a run of it is one of the machine. What every action of an environment keeps is then kept by a
run.
-/

namespace WormBattle

variable {α : Type} [Scalar α]

namespace ProgramInstance

/-- The instances that come about from programs. -/
inductive Made : ProgramInstance α → Prop where
  /-- An instance of a program. -/
  | of (program : Program α) (budget : Nat) (observed : Bool) : Made (.of program budget observed)
  /-- A copy that has not run yet. -/
  | freshCopy {i : ProgramInstance α} : Made i → Made i.freshCopy
  /-- The instance bound to a worm. -/
  | bind {i : ProgramInstance α} (worm : EntityId) : Made i → Made (i.bind worm)
  /-- The instance after a run. -/
  | run {i : ProgramInstance α} {σ : Type} [Environment α σ] (budget : Nat) (state : σ) :
      Made i → Made (i.runWith budget state).instanceAfter

/-- Every instance is the reference machine with its work written as a cursor. -/
theorem Made.represents {i : ProgramInstance α} (h : i.Made) :
    ∃ r : Reference α, r.Represents i := by
  induction h with
  | of program budget observed => exact ⟨_, Reference.represents_initial program budget observed⟩
  | freshCopy _ ih =>
    obtain ⟨r, hr⟩ := ih
    exact ⟨_, hr.freshCopy⟩
  | bind worm _ ih =>
    obtain ⟨r, hr⟩ := ih
    exact ⟨_, hr.bind worm⟩
  | run budget state _ ih =>
    obtain ⟨r, hr⟩ := ih
    obtain ⟨r', -, hr'⟩ := hr.ran ⟨budget, state⟩
    exact ⟨r', hr'⟩

/-- The cursor of an instance fits its program. -/
theorem Made.fits {i : ProgramInstance α} (h : i.Made) : i.program.root.Fits i.cursor := by
  obtain ⟨r, hr⟩ := h.represents
  exact hr.fits

/-- An instance knows whether its program is well-formed. -/
theorem Made.wellFormed {i : ProgramInstance α} (h : i.Made) :
    i.wellFormed = i.program.isWellFormed := by
  obtain ⟨r, hr⟩ := h.represents
  exact hr.wellFormed

/-! ### Runs -/

section Runs

variable {σ : Type} [Environment α σ] {i : ProgramInstance α}

/-- A run does not change the program. -/
theorem runWith_program (i : ProgramInstance α) (budget : Nat) (state : σ) :
    (i.runWith budget state).instanceAfter.program = i.program := by
  rcases hready : i.readyWorm state with e | worm
  · rw [runWith_refused hready]
  · rw [runWith_ready hready, settle_program]

/-- A run does not change the worm to which the program is bound. -/
theorem runWith_worm (i : ProgramInstance α) (budget : Nat) (state : σ) :
    (i.runWith budget state).instanceAfter.worm = i.worm := by
  rcases hready : i.readyWorm state with e | worm
  · rw [runWith_refused hready]
  · rw [runWith_ready hready, settle_worm]

/-- **What a run can come to**: it is refused and changes nothing, or it is a run of the reference
machine on the work that was left. -/
theorem Made.run_cases (h : i.Made) (budget : Nat) (state : σ) :
    (∃ e, i.readyWorm state = .error e ∧ i.runWith budget state = ⟨.error e, i, state, []⟩) ∨
    ∃ worm stop work m, i.readyWorm state = .ok worm ∧
      Reference.Halts (Work.resume (Environment.view state) (i.program.root.pending i.cursor),
        { worm, state, globals := i.globals, budget }) stop work m ∧
      (i.runWith budget state).result = Reference.outcome stop ∧
      (i.runWith budget state).instanceAfter.globals = m.globals ∧
      (i.runWith budget state).stateAfter = m.state ∧
      (i.runWith budget state).effects = m.trace.reverse := by
  rcases hready : i.readyWorm state with e | worm
  · exact .inl ⟨e, rfl, runWith_refused hready⟩
  · obtain ⟨work, hhalts, -⟩ := (i.program.root.exec_follows i.cursor
      { worm, state, globals := i.globals, budget } h.fits).halts
    rw [runWith_ready hready]
    exact .inr ⟨worm, _, work, _, rfl, hhalts, settle_result .., settle_globals ..,
      settle_stateAfter .., settle_effects ..⟩

/-- What every action keeps is kept by a run. -/
theorem Made.runWith_keeps {P : σ → Prop} (h : i.Made) {budget : Nat} {state : σ}
    (hperform : ∀ state worm action, P state → P (Environment.perform state worm action).2)
    (hP : P state) : P (i.runWith budget state).stateAfter := by
  rcases h.run_cases budget state with ⟨e, -, hrun⟩ | ⟨worm, stop, work, m, -, hhalts, -, -, hm, -⟩
  · rw [hrun]
    exact hP
  · -- Only an action touches the state, done or refused.
    have hacted : ∀ {m : Machine α σ} {action : Action α} {result : Except (Error α) Unit} {state},
        P m.state → Environment.perform m.state m.worm action = (result, state) → P state := by
      intro m action result state hm hact
      have hafter := hperform m.state m.worm action hm
      rwa [hact] at hafter
    rw [hm]
    refine hhalts.keeps_machine (P := fun m => P m.state) (Q := fun _ m => P m.state)
      (fun m m' hm honward => ?_) (fun m stop m' hm hhalted => ?_) hP
    · cases honward with
      | spent _ | assigned _ _ _ | printed _ _ => exact hm
      | refused _ hact | done _ hact _ => exact hacted hm hact
    · cases hhalted with
      | idle _ _ _ => exact hm
      | died _ hact _ => exact hacted hm hact

end Runs

end ProgramInstance

end WormBattle
