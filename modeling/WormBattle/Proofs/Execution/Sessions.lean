import WormBattle.Proofs.Execution.Refinement

/-!
# Runs of program instances

A program instance is the reference machine with its list of work written as a cursor
(`Reference.Represents`). A run keeps that correspondence and reports what the machine reports
(`Reference.Represents.ran`), so a whole sequence of runs does, with any budgets and with any change
of the world from one run to the next (`ProgramInstance.reports_eq_iff_reference`). Nothing that has
been done is done again and nothing is passed over: what a suspended run leaves is in the machine's
list, once and in order.
-/

namespace WormBattle

variable {α σ : Type}

namespace ProgramInstance

variable {i : ProgramInstance α} {budget : Nat} {state : σ} {worm : EntityId}

/-- A run reports how the executor stopped. -/
@[simp] theorem settle_result (i : ProgramInstance α) (flow : Flow α) (m : Machine α σ) :
    (i.settle flow m).result = Reference.outcome flow.stop := by
  cases flow <;> rfl

/-- A run ends with the same program. -/
@[simp] theorem settle_program (i : ProgramInstance α) (flow : Flow α) (m : Machine α σ) :
    (i.settle flow m).instanceAfter.program = i.program := by
  cases flow <;> rfl

/-- A run ends with the same worm. -/
@[simp] theorem settle_worm (i : ProgramInstance α) (flow : Flow α) (m : Machine α σ) :
    (i.settle flow m).instanceAfter.worm = i.worm := by
  cases flow <;> rfl

/-- A run ends with the variables that the executor leaves. -/
@[simp] theorem settle_globals (i : ProgramInstance α) (flow : Flow α) (m : Machine α σ) :
    (i.settle flow m).instanceAfter.globals = m.globals := by
  cases flow <;> rfl

/-- A run ends with the state that the executor leaves. -/
@[simp] theorem settle_stateAfter (i : ProgramInstance α) (flow : Flow α) (m : Machine α σ) :
    (i.settle flow m).stateAfter = m.state := by
  cases flow <;> rfl

/-- A run reports what was traced, in the order in which it happened. -/
@[simp] theorem settle_effects (i : ProgramInstance α) (flow : Flow α) (m : Machine α σ) :
    (i.settle flow m).effects = m.trace.reverse := by
  cases flow <;> rfl

variable [Environment α σ]

/-- The checks before a run, in their order. -/
theorem readyWorm_eq (i : ProgramInstance α) (state : σ) : i.readyWorm state =
    if i.wellFormed = false then .error .cannotRunIllFormed
    else if i.phase = .faulted then .error .faulted
    else match i.worm with
      | none => .error .unbound
      | some worm =>
        if (Environment.view state).kindOf worm = some .worm then .ok worm
        else .error (.notAWorm worm) := by
  rw [readyWorm]
  cases i.wellFormed with
  | false => rfl
  | true =>
    by_cases hphase : i.phase = .faulted
    · rw [if_pos hphase, if_pos hphase]
      rfl
    · rw [if_neg hphase, if_neg hphase]
      cases i.worm <;> rfl

/-- What it takes to be ready. -/
theorem readyWorm_eq_ok_iff : i.readyWorm state = .ok worm ↔ i.wellFormed = true ∧
    i.phase ≠ .faulted ∧ i.worm = some worm ∧
    (Environment.view state).kindOf worm = some .worm := by
  rw [readyWorm_eq]
  cases i.wellFormed with
  | false => simp
  | true =>
    by_cases hphase : i.phase = .faulted
    · simp [hphase]
    · cases i.worm with
      | none => simp [hphase]
      | some w =>
        by_cases hkind : (Environment.view state).kindOf w = some .worm
        · simp only [hphase, hkind, if_true, if_false, Bool.true_eq_false, Except.ok.injEq,
            Option.some.injEq, true_and, not_false_eq_true, ne_eq]
          exact ⟨fun h => ⟨h, h ▸ hkind⟩, fun h => h.1⟩
        · simp only [hphase, hkind, if_false, Bool.true_eq_false, reduceCtorEq, Option.some.injEq,
            true_and, not_false_eq_true, ne_eq, false_iff, not_and]
          exact fun h => h ▸ hkind

variable [Scalar α]

/-- A refused run changes nothing. -/
theorem runWith_refused {e : Error α} (h : i.readyWorm state = .error e) :
    i.runWith budget state = ⟨.error e, i, state, []⟩ := by
  rw [runWith, h]

/-- A run that is not refused carries out the program from the cursor. -/
theorem runWith_ready (h : i.readyWorm state = .ok worm) :
    i.runWith budget state =
      (fun ended => i.settle ended.1 ended.2)
        (i.program.root.exec i.cursor { worm, state, globals := i.globals, budget }) := by
  rw [runWith, h]

end ProgramInstance

namespace Reference

/-- The machine whose list of work is what an instance's cursor stands for. -/
structure Represents (r : Reference α) (i : ProgramInstance α) : Prop where
  program : r.program = i.program
  worm : r.worm = i.worm
  globals : r.globals = i.globals
  wellFormed : i.wellFormed = i.program.isWellFormed
  fits : i.program.root.Fits i.cursor
  work : r.work = i.program.root.pending i.cursor
  faulted : r.faulted = true ↔ i.phase = .faulted

/-- A fresh instance is represented by the initial machine. -/
theorem represents_initial (program : Program α) (budget : Nat) (observed : Bool) :
    (initial program none).Represents (ProgramInstance.of program budget observed) where
  program := rfl
  worm := rfl
  globals := rfl
  wellFormed := rfl
  fits := Statement.fits_nil _
  work := (Statement.pending_nil _).symm
  faulted := by simp [initial, ProgramInstance.of]

/-- Both can be bound to a worm. -/
theorem Represents.bind {r : Reference α} {i : ProgramInstance α} (h : r.Represents i)
    (worm : EntityId) : ({ r with worm := some worm } : Reference α).Represents (i.bind worm) :=
  { h with worm := rfl }

/-- A fresh copy is represented by the initial machine. -/
theorem Represents.freshCopy {r : Reference α} {i : ProgramInstance α} (h : r.Represents i) :
    (initial i.program none).Represents i.freshCopy where
  program := rfl
  worm := rfl
  globals := rfl
  wellFormed := h.wellFormed
  fits := Statement.fits_nil _
  work := (Statement.pending_nil _).symm
  faulted := by simp [initial, ProgramInstance.freshCopy]

/-- What an instance has left after a suspension. -/
theorem Represents.settled {r : Reference α} {i : ProgramInstance α} (h : r.Represents i)
    {flow : Flow α} {work : List (Work α)} {m : Machine α σ} (hrunning : i.phase ≠ .faulted)
    (hleft : ∀ reason cursor, flow = .suspended reason cursor →
      i.program.root.Fits cursor ∧ work = i.program.root.pending cursor) :
    (r.after flow.stop work m).Represents (i.settle flow m).instanceAfter := by
  have hwork : [Work.statement r.program.root] = i.program.root.pending [] := by
    rw [Statement.pending_nil, h.program]
  have hsound : r.faulted = true ↔ False := h.faulted.trans (iff_false_intro hrunning)
  have hkept : r.faulted = true ↔ Phase.ready = .faulted := hsound.trans (by simp)
  cases flow with
  | done => exact ⟨h.program, h.worm, rfl, h.wellFormed, Statement.fits_nil _, hwork, hkept⟩
  | suspended reason cursor =>
    obtain ⟨hfits, hpending⟩ := hleft reason cursor rfl
    have hsuspended : r.faulted = true ↔ Phase.suspended = .faulted := hsound.trans (by simp)
    exact ⟨h.program, h.worm, rfl, h.wellFormed, hfits, hpending, hsuspended⟩
  | wormDied => exact ⟨h.program, h.worm, rfl, h.wellFormed, Statement.fits_nil _, hwork, hkept⟩
  | failed e =>
    have hstopped : true = true ↔ Phase.faulted = .faulted := iff_of_true rfl rfl
    exact ⟨h.program, h.worm, rfl, h.wellFormed, Statement.fits_nil _, hwork, hstopped⟩

variable [Environment α σ] {r : Reference α} {i : ProgramInstance α} {call : Call σ}

/-- The machine and the instance refuse the same runs. -/
theorem Represents.refusal?_eq (h : r.Represents i) (state : σ) :
    r.refusal? state = i.readyWorm state := by
  rw [ProgramInstance.readyWorm_eq, refusal?, h.program, h.worm, h.wellFormed]
  cases i.program.isWellFormed with
  | false => rfl
  | true =>
    cases hfaulted : r.faulted with
    | true => rw [if_neg (by simp), if_pos (h.faulted.mp hfaulted)]
    | false =>
      have hphase : i.phase ≠ .faulted := fun hp => by
        rw [h.faulted.mpr hp] at hfaulted
        cases hfaulted
      rw [if_neg (by simp), if_neg hphase]
      cases i.worm <;> rfl

variable [Scalar α]

/-- **A run is a run of the machine**: the instance reports what the machine reports, and after the
run it is again the machine with its work written as a cursor. -/
theorem Represents.ran (h : r.Represents i) (call : Call σ) :
    ∃ r', Ran r call (i.reportOf call) r' ∧
      r'.Represents (i.runWith call.budget call.state).instanceAfter := by
  have hrefusal := h.refusal?_eq call.state
  unfold ProgramInstance.reportOf
  cases hready : i.readyWorm call.state with
  | error e =>
    rw [hready] at hrefusal
    rw [ProgramInstance.runWith_refused hready]
    refine ⟨r, ?_, h⟩
    dsimp only
    rw [← h.globals]
    exact .refused hrefusal
  | ok worm =>
    rw [hready] at hrefusal
    rw [ProgramInstance.runWith_ready hready]
    obtain ⟨work, hhalts, hleft⟩ := (i.program.root.exec_follows i.cursor
      { worm, state := call.state, globals := i.globals, budget := call.budget } h.fits).halts
    -- The run of the executor is restated with the work and the variables of the machine.
    rw [← h.work, ← h.globals] at hhalts
    rw [← h.globals] at hleft ⊢
    refine ⟨_, ?_, h.settled (ProgramInstance.readyWorm_eq_ok_iff.mp hready).2.1 hleft⟩
    simpa using Ran.stopped hrefusal hhalts

/-- The machine makes at most one run of a call. -/
theorem Ran.unique {r₁ r₂ : Reference α} {report₁ report₂ : Report α σ}
    (h₁ : Ran r call report₁ r₁) (h₂ : Ran r call report₂ r₂) : report₁ = report₂ ∧ r₁ = r₂ := by
  cases h₁ with
  | refused hrefusal₁ =>
    cases h₂ with
    | refused hrefusal₂ =>
      rw [hrefusal₁] at hrefusal₂
      cases hrefusal₂
      exact ⟨rfl, rfl⟩
    | stopped hready₂ _ =>
      rw [hrefusal₁] at hready₂
      cases hready₂
  | stopped hready₁ hhalts₁ =>
    cases h₂ with
    | refused hrefusal₂ =>
      rw [hready₁] at hrefusal₂
      cases hrefusal₂
    | stopped hready₂ hhalts₂ =>
      rw [hready₁] at hready₂
      cases hready₂
      obtain ⟨rfl, rfl, rfl⟩ := hhalts₁.unique hhalts₂
      exact ⟨rfl, rfl⟩

/-- The reports of an instance are the only ones of the machine that it represents. -/
theorem Represents.reports_iff (h : r.Represents i) (calls : List (Call σ))
    (reports : List (Report α σ)) : Reports r calls reports ↔ i.reports calls = reports := by
  induction calls generalizing r i reports with
  | nil =>
    constructor
    · rintro ⟨⟩
      rfl
    · rintro rfl
      exact .nil
  | cons call calls ih =>
    obtain ⟨r', hran, h'⟩ := h.ran call
    constructor
    · rintro (_ | ⟨hran', hreports⟩)
      obtain ⟨rfl, rfl⟩ := hran'.unique hran
      rw [ProgramInstance.reports, (ih h' _).mp hreports]
    · rintro rfl
      exact .cons hran ((ih h' _).mpr rfl)

end Reference

variable [Scalar α] [Environment α σ]

/-- **Resuming loses nothing and repeats nothing.** Over any calls for runs, with any budgets and
worlds, an instance that is bound to a worm reports exactly what the reference machine reports,
which never looks at a cursor. -/
theorem ProgramInstance.reports_eq_iff_reference (program : Program α) (budget : Nat)
    (observed : Bool) (worm : EntityId) (calls : List (Call σ)) (reports : List (Report α σ)) :
    (Reference.initial program (some worm)).Reports calls reports ↔
      ((ProgramInstance.of program budget observed).bind worm).reports calls = reports :=
  ((Reference.represents_initial program budget observed).bind worm).reports_iff calls reports

end WormBattle
