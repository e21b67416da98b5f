import WormBattle.Proofs.World.Reach

/-!
# Programs are given back

A worm's program is taken from it for the length of a run, in which anything may happen to the world
and to the worm. No program is lost by that (`Simulation.Reachable.program_returned`): the worm has
left the world exactly when the run ends with its death, and otherwise it gets the program back, in
the phase that goes with the end of the run.
-/

namespace WormBattle

variable {α : Type} [Scalar α]

namespace ProgramInstance

/-- How an instance stands after a run, by the end of the run. A refused run changes nothing. -/
inductive Ended (i : ProgramInstance α) : Except (Error α) Outcome → ProgramInstance α → Prop where
  /-- The program is done. -/
  | completed {i' : ProgramInstance α} : i'.phase = .ready → Ended i (.ok .completed) i'
  /-- The run stopped early. -/
  | suspended {i' : ProgramInstance α} {reason : SuspendReason} : i'.phase = .suspended →
      Ended i (.ok (.suspended reason)) i'
  /-- The worm has left the world. -/
  | wormDied {i' : ProgramInstance α} : Ended i (.ok .wormDied) i'
  /-- The run failed. -/
  | failed {i' : ProgramInstance α} {e : Error α} : i.wellFormed = true → i.phase ≠ .faulted →
      i'.phase = .faulted → Ended i (.error e) i'
  /-- The run was refused. -/
  | refused {e : Error α} : i.wellFormed = false ∨ i.phase = .faulted → Ended i (.error e) i

variable {i : ProgramInstance α} {s : Simulation α} {id : EntityId}

omit [Scalar α] in
private theorem Ended.of_settle {σ : Type} (hwellFormed : i.wellFormed = true)
    (hphase : i.phase ≠ .faulted) (flow : Flow α) (m : Machine α σ) :
    i.Ended (i.settle flow m).result (i.settle flow m).instanceAfter := by
  cases flow with
  | done => exact .completed rfl
  | suspended reason cursor => exact .suspended rfl
  | wormDied => exact .wormDied
  | failed e => exact .failed hwellFormed hphase rfl

/-- A run for a listed worm is refused only for what the program is. -/
theorem run_ended (hbound : i.worm = some id) (hlisted : (s.world.worm? id).isSome) :
    i.Ended (i.run s).result (i.run s).instanceAfter := by
  rw [ProgramInstance.run]
  have hkind : (Environment.view s).kindOf id = some .worm :=
    World.kindOf_eq_worm_iff.mpr (Option.isSome_iff_exists.mp hlisted)
  by_cases hrefused : i.wellFormed = false ∨ i.phase = .faulted
  · cases hready : i.readyWorm s with
    | error e =>
      rw [runWith_refused hready]
      exact .refused hrefused
    | ok worm =>
      obtain ⟨hwellFormed, hphase, -, -⟩ := readyWorm_eq_ok_iff.mp hready
      rcases hrefused with hill | hfaulted
      · cases hwellFormed.symm.trans hill
      · exact absurd hfaulted hphase
  · obtain ⟨hwellFormed, hphase⟩ := not_or.mp hrefused
    have hwellFormed : i.wellFormed = true := by simpa using hwellFormed
    rw [runWith_ready (readyWorm_eq_ok_iff.mpr ⟨hwellFormed, hphase, hbound, hkind⟩)]
    exact .of_settle hwellFormed hphase _ _

/-- **A run ends with the death of its worm exactly if the worm has left the world.** -/
theorem Made.wormDied_iff (h : i.Made) (hbound : i.worm = some id) (hs : s.world.Sound)
    (hlisted : (s.world.worm? id).isSome) :
    (i.run s).result = .ok .wormDied ↔ (i.run s).stateAfter.world.worm? id = none := by
  rw [ProgramInstance.run]
  rcases h.run_cases i.budget s with
    ⟨e, -, hrun⟩ | ⟨worm, stop, work, m, hready, hhalts, hresult, -, hstate, -⟩
  · rw [hrun]
    exact iff_of_false (by simp) fun hnone => by simp [hnone] at hlisted
  · obtain ⟨-, -, hworm, hkind⟩ := readyWorm_eq_ok_iff.mp hready
    cases hbound.symm.trans hworm
    have hend : stop = .wormDied ↔ m.state.world.worm? id = none := by
      refine hhalts.keeps_machine (P := fun m => Simulation.Hosts m ∧ m.worm = id)
        (Q := fun stop m => stop = .wormDied ↔ m.state.world.worm? id = none) ?_ ?_
        ⟨⟨hs, World.kindOf_eq_worm_iff.mp hkind⟩, rfl⟩
      · rintro m m' ⟨hhosts, hid⟩ honward
        refine ⟨hhosts.onward honward, ?_⟩
        cases honward <;> exact hid
      · rintro m stop m' ⟨hhosts, rfl⟩ hhalted
        cases hhalted with
        | idle _ hliving _ =>
          obtain ⟨worm, hworm⟩ := hhosts.listed
          exact iff_of_false hliving fun hnone => by cases hworm.symm.trans hnone
        | died _ _ hgone =>
          refine iff_of_true rfl (Option.eq_none_iff_forall_ne_some.mpr fun worm hworm => hgone ?_)
          exact World.kindOf_eq_worm_iff.mpr ⟨worm, hworm⟩
    rw [hresult, hstate, ← hend]
    cases stop <;> simp [Reference.outcome]

end ProgramInstance

namespace Simulation

variable {s : Simulation α} {id : EntityId} {worm : Worm α} {i : ProgramInstance α}

omit [Scalar α] in
private theorem worm?_withProgram_eq_none_iff (s : Simulation α) (id : EntityId)
    (program : Option (ProgramInstance α)) :
    (s.withProgram id program).world.worm? id = none ↔ s.world.worm? id = none := by
  cases hworm : s.world.worm? id with
  | none => rw [withProgram, hworm, hworm]
  | some worm => simp [worm?_withProgram hworm]

/-- **No program is lost.** After its program has been run, a worm has left the world exactly if the
run ended with its death. Otherwise it has its program back, which has stayed bound to it and stands
as the end of the run says. At no point of the run is the program of another worm touched. -/
theorem Reachable.program_returned (hs : s.Reachable) (hworm : s.world.worm? id = some worm)
    (hi : worm.program = some i) :
    let begun := s.withProgram id none
    let ended := (Command.runProgram id).carryOut s
    (ended.2.world.worm? id = none ↔ ended.1 = .ok (some .wormDied)) ∧
    (∀ worm', ended.2.world.worm? id = some worm' → ∃ i' outcome, worm'.program = some i' ∧
      i'.program = i.program ∧ i'.worm = some id ∧ ended.1 = outcome.map some ∧
      i.Ended outcome i') ∧
    ∀ before, before <+: (i.run begun).asked → ∀ other worm', other ≠ id →
      (begun.afterActions id before).world.worm? other = some worm' →
      ∃ worm, s.world.worm? other = some worm ∧ worm'.program = worm.program := by
  have hsound := hs.sound
  obtain ⟨hmade, hbound⟩ := (hsound.made worm (World.mem_of_worm? hworm)).program hi
  rw [World.id_of_worm? hworm] at hbound
  intro begun ended
  have hbegun : begun.world.Sound := sound_withProgram hsound (by simp)
  have hlisted : (begun.world.worm? id).isSome := by
    rw [worm?_withProgram hworm]
    rfl
  have hended : ended = ((i.run begun).result.map some,
      ((begun.runInstance i).2.2).withProgram id (some (i.run begun).instanceAfter)) :=
    Command.carryOut_runProgram hworm hi
  have hdied := hmade.wormDied_iff hbound hbegun hlisted
  rw [hended]
  refine ⟨?_, fun worm' hworm' => ?_, fun before _ other worm' hother hworm' => ?_⟩
  · rw [worm?_withProgram_eq_none_iff]
    show (i.run begun).stateAfter.world.worm? id = none ↔ _
    rw [← hdied]
    cases (i.run begun).result <;> simp [Except.map]
  · have hback : ∃ worm'', (begun.runInstance i).2.2.world.worm? id = some worm'' := by
      rw [← Option.isSome_iff_exists, Option.isSome_iff_ne_none, ne_eq,
        ← worm?_withProgram_eq_none_iff _ _ (some (i.run begun).instanceAfter), hworm']
      exact nofun
    obtain ⟨worm'', hworm''⟩ := hback
    rw [worm?_withProgram hworm''] at hworm'
    cases hworm'
    exact ⟨_, _, rfl, ProgramInstance.runWith_program i i.budget begun,
      (ProgramInstance.runWith_worm i i.budget begun).trans hbound, rfl,
      ProgramInstance.run_ended hbound hlisted⟩
  · obtain ⟨hreach, -⟩ := reach_afterActions hbegun id before
    have htaken := (reach_withProgram s id (begun.Slain id before) none).1
    obtain rfl := World.id_of_worm? hworm'
    obtain ⟨worm, hmem, amount, rfl⟩ :=
      (htaken.trans hreach).others worm' (World.mem_of_worm? hworm') hother
    exact ⟨worm, hsound.worm?_of_mem hmem, rfl⟩

/-- The worm that fires has its program back when it has fired. -/
theorem program_returned_duel : ∃ worm i worm' i',
    duel.world.worm? ⟨1⟩ = some worm ∧ worm.program = some i ∧
      ((Command.runProgram ⟨1⟩).carryOut duel).2.world.worm? ⟨1⟩ = some worm' ∧
      worm'.program = some i' ∧ i'.program = i.program ∧ i'.worm = some ⟨1⟩ := by
  obtain ⟨worm, i, hworm, hi⟩ := armed_duel
  obtain ⟨worm', hworm'⟩ : ∃ worm',
      ((Command.runProgram ⟨1⟩).carryOut duel).2.world.worm? ⟨1⟩ = some worm' :=
    Option.isSome_iff_exists.mp (by decide +kernel)
  obtain ⟨-, hback, -⟩ := reachable_duel.program_returned hworm hi
  obtain ⟨i', -, hi', hsame, hbound, -, -⟩ := hback worm' hworm'
  exact ⟨worm, i, worm', i', hworm, hi, hworm', hi', hsame, hbound⟩

end Simulation

end WormBattle
