import WormBattle.Battle
import WormBattle.Proofs.World.Reach
import WormBattle.Proofs.World.Regeneration

/-!
# Battles come to an end

A battle is played in **rounds** (`Simulation.Rounds`): the worm that has the turn runs its program,
if it has one, and the turn is handed on. What a program does and however it fails, the game is in
progress after it if it was before, and in the same turn. So handing the turn on is never refused.
It may be a crash, though, and then the battle breaks off (`Simulation.BreaksOff`); nothing else
breaks it off (`Simulation.Reachable.plays`). The number of a turn is one more than the number of
rounds before it, and a battle that ends before the last round has been decided.
-/

namespace WormBattle

variable {α β : Type} [Scalar α]

namespace Simulation

/-- The simulation after a run of a worm's program, which is taken from the worm for the time. -/
def afterProgram (s : Simulation α) (id : EntityId) (i : ProgramInstance α) : Simulation α :=
  let run := (s.withProgram id none).runInstance i
  run.2.2.withProgram id (some run.2.1)

/-- What a round does before the turn is handed on: at most one program is run, and it is that of
the worm that has the turn. -/
inductive HasRun (s : Simulation α) : Option EntityId → Simulation α → Prop where
  /-- Nobody has the turn. -/
  | vacant : s.world.currentWorm? = none → HasRun s none s
  /-- The worm that has the turn has no program. -/
  | idle {worm : Worm α} : s.world.currentWorm? = some worm → worm.program = none → HasRun s none s
  /-- The program of the worm that has the turn is run, whatever comes of it. -/
  | ran {worm : Worm α} {i : ProgramInstance α} : s.world.currentWorm? = some worm →
      worm.program = some i → HasRun s (some worm.id) (s.afterProgram worm.id i)

/-- Some rounds of a battle, each with the worm whose program was run. -/
inductive Rounds : Simulation α → List (Option EntityId) → Simulation α → Prop where
  /-- The battle is broken off, or over. -/
  | stop {s : Simulation α} : Rounds s [] s
  /-- One more round. -/
  | round {s s₁ s₂ s₃ : Simulation α} {runner : Option EntityId} {rest : List (Option EntityId)} :
      s.world.isInProgress = true → s.HasRun runner s₁ →
      Command.startNextTurn.carryOut s₁ = (.ok (), s₂) → Rounds s₂ rest s₃ →
      Rounds s (runner :: rest) s₃

/-- A number of rounds cannot be played out, because handing on the turn is a crash before. -/
inductive Stalls (s : Simulation α) (left : Nat) : Simulation α → Prop where
  /-- Some rounds are over, and the program of the next one has run. -/
  | handingOn {runners : List (Option EntityId)} {before s' : Simulation α}
      {runner : Option EntityId} : s.Rounds runners before → runners.length < left →
      before.world.isInProgress = true → before.HasRun runner s' →
      s'.world.Overflows .startNextTurn → Stalls s left s'

/-- A battle breaks off. -/
inductive BreaksOff (s : Simulation α) (maxTurns : Nat) : Simulation α → Prop where
  /-- It does so when it is opened. -/
  | opening : s.world.Overflows .start → BreaksOff s maxTurns s
  /-- It does so at the end of a round. -/
  | round {opened s' : Simulation α} : Command.start.carryOut s = (.ok (), opened) →
      opened.Stalls maxTurns s' → BreaksOff s maxTurns s'

variable {s s' : Simulation α} {runner : Option EntityId}

/-- A round may stand before those that are cut short. -/
theorem Stalls.round {s₁ s₂ : Simulation α} {left : Nat} (h : s₂.Stalls left s')
    (hgoes : s.world.isInProgress = true) (hrun : s.HasRun runner s₁)
    (hon : Command.startNextTurn.carryOut s₁ = (.ok (), s₂)) : s.Stalls (left + 1) s' := by
  cases h with
  | handingOn hrounds hfew hgoes' hrun' hless =>
    exact .handingOn (.round hgoes hrun hon hrounds) (Nat.succ_lt_succ hfew) hgoes' hrun' hless

private theorem Reachable.carriedOut {result : Except (Error α) Unit} (hs : s.Reachable)
    (op : Operation α) (hop : op.Admissible s.ids)
    (hc : op.command.carryOut s = (result, s')) : s'.Reachable := by
  have hstep : s.Step (some op) _ := .operate op hop
  rw [hc] at hstep
  exact hs.step hstep

/-- The program of the worm that has the turn is run as an operation of the game. -/
theorem HasRun.eq_or_step (h : s.HasRun runner s') (hs : s.world.Sound) :
    s' = s ∨ ∃ id, s.Step (some (.runProgram id)) s' := by
  cases h with
  | vacant | idle => exact .inl rfl
  | @ran worm i hturn hi =>
    have hlisted : s.world.worm? worm.id = some worm :=
      ((World.hasTurn_of_currentWorm? hturn).currentWorm? hs).symm.trans hturn
    have hstep : s.Step (some (.runProgram worm.id)) _ := .operate (.runProgram worm.id) trivial
    refine .inr ⟨worm.id, ?_⟩
    rw [Operation.command, Command.carryOut_bind, Command.carryOut_runProgram hlisted hi] at hstep
    rw [afterProgram]
    generalize (s.withProgram worm.id none).runInstance i = run at hstep ⊢
    obtain ⟨result, run⟩ := run
    cases result <;> exact hstep

/-- A round runs what it runs. -/
theorem HasRun.unique {runner' : Option EntityId} {s'' : Simulation α} (h : s.HasRun runner s')
    (h' : s.HasRun runner' s'') : s'' = s' := by
  cases h with
  | vacant hturn =>
    cases h' with
    | vacant | idle => rfl
    | ran hturn' => cases hturn.symm.trans hturn'
  | idle hturn hprogram =>
    cases h' with
    | vacant | idle => rfl
    | ran hturn' hprogram' =>
      cases hturn.symm.trans hturn'
      cases hprogram.symm.trans hprogram'
  | ran hturn hprogram =>
    cases h' with
    | vacant hturn' => cases hturn.symm.trans hturn'
    | idle hturn' hprogram' =>
      cases hturn.symm.trans hturn'
      cases hprogram.symm.trans hprogram'
    | ran hturn' hprogram' =>
      cases hturn.symm.trans hturn'
      cases hprogram.symm.trans hprogram'
      rfl

private theorem HasRun.reachable (h : s.HasRun runner s') (hs : s.Reachable) : s'.Reachable := by
  rcases h.eq_or_step hs.sound with rfl | ⟨id, hstep⟩
  · exact hs
  · exact hs.step hstep

private theorem Rounds.reachable {runners : List (Option EntityId)} (h : s.Rounds runners s')
    (hs : s.Reachable) : s'.Reachable := by
  induction h with
  | stop => exact hs
  | round _ hrun hon _ ih => exact ih ((hrun.reachable hs).carriedOut .startNextTurn trivial hon)

/-- **No program moves the game on**, whatever it does and however it fails. -/
theorem HasRun.turnNumber?_eq (h : s.HasRun runner s') (hs : s.world.Sound) :
    s'.world.turnNumber? = s.world.turnNumber? := by
  rcases h.eq_or_step hs with rfl | ⟨id, hstep⟩
  · rfl
  · have hcourse := hstep.course hs
    generalize s'.world = w' at hcourse ⊢
    cases hcourse with
    | within _ _ hchanges => exact hchanges.state.1

end Simulation

namespace Command

variable {s : Simulation α}

/-- Running the program of the worm that has the turn is what a round does, whatever comes of it. -/
theorem ends_runCurrentProgram (hs : s.world.Sound) {worm : Worm α}
    (hturn : s.world.currentWorm? = some worm) :
    runCurrentProgram.Ends s (fun _ s' => ∃ runner, s.HasRun runner s')
      fun _ s' => ∃ runner, s.HasRun runner s' := by
  have hlisted : s.world.worm? worm.id = some worm :=
    ((World.hasTurn_of_currentWorm? hturn).currentWorm? hs).symm.trans hturn
  simp only [runCurrentProgram, ends_bind, ends_world, hturn]
  refine ends_runProgram.mpr
    ⟨fun found hfound => ?_, fun hnone => by cases hlisted.symm.trans hnone⟩
  obtain rfl : worm = found := Option.some.inj (hlisted.symm.trans hfound)
  refine ⟨fun hnone => ⟨none, .idle hturn hnone⟩, fun i hi => ?_⟩
  exact ⟨fun _ _ => ⟨_, .ran hturn hi⟩, fun _ _ => ⟨_, .ran hturn hi⟩⟩

/-- The part of a round that belongs to a program is never refused. -/
theorem ends_runTurn (hs : s.world.Sound) :
    runTurn.Ends s (fun _ s' => ∃ runner, s.HasRun runner s') fun _ _ => False := by
  simp only [runTurn, ends_bind, ends_world]
  cases hturn : s.world.currentWorm? with
  | none => exact ⟨none, .vacant hturn⟩
  | some worm =>
    simp only [Option.isSome_some, if_true, ends_tryCatch, ends_bind]
    exact ends_runCurrentProgram hs hturn

private theorem carryOut_runTurn {s' : Simulation α} {runner : Option EntityId} (hs : s.world.Sound)
    (hrun : s.HasRun runner s') : runTurn.carryOut s = (.ok (), s') := by
  refine Ends.of_end (P := fun ending => ending = (.ok (), s'))
    ((ends_runTurn hs).mono ?_ fun _ _ h => h.elim)
  rintro ⟨⟩ s'' ⟨_, hrun'⟩
  rw [hrun.unique hrun']

end Command

omit [Scalar α] in
private theorem World.isInProgress_eq (w : World α) : w.isInProgress = w.turnNumber?.isSome := by
  rw [isInProgress, turnNumber?]
  cases w.state <;> rfl

namespace Simulation

/-- How a battle stands after some rounds: it has been decided, or the next turn has begun. -/
def Stands (s : Simulation α) (played : Nat) : Prop :=
  s.world.state = .finished ∧ s.world.isGameOver = true ∨ s.world.turnNumber? = some (played + 1)

variable {s s' : Simulation α} {played : Nat}

omit [Scalar α] in
private theorem Stands.turnNumber? (h : s.Stands played) (hgoes : s.world.isInProgress = true) :
    s.world.turnNumber? = some (played + 1) := by
  refine h.resolve_left fun hover => ?_
  rw [World.isInProgress, hover.1] at hgoes
  cases hgoes

omit [Scalar α] in
private theorem Stands.finished (h : s.Stands played) (hends : s.world.isInProgress = false) :
    s.world.state = .finished ∧ s.world.isGameOver = true := by
  refine h.resolve_right fun hturn => ?_
  rw [World.isInProgress_eq, hturn] at hends
  cases hends

end Simulation

namespace Command

open Simulation

variable {s : Simulation α} {played : Nat}

omit [Scalar α] in
private theorem Ends.carried {c : Command α β} {done : β → Simulation α → Prop}
    {refused : Error α → Simulation α → Prop} (h : c.Ends s done refused) :
    c.Ends s (fun b s' => c.carryOut s = (.ok b, s') ∧ done b s')
      fun e s' => c.carryOut s = (.error e, s') ∧ refused e s' :=
  ends_iff.mpr ⟨fun _ _ hc => ⟨hc, h.of_ok hc⟩, fun _ _ hc => ⟨hc, h.of_error hc⟩⟩

/-- The game opens, unless that is a crash. Without worms it has been decided. -/
theorem ends_open (hstate : s.world.state = .notStarted) :
    start.Ends s (fun _ s' => s'.Stands 0)
      fun e s' => e = .overflow ∧ s' = s ∧ s.world.Overflows .start := by
  refine ends_start.mpr ⟨fun _ => ⟨fun hnobody => ?_, fun hworms => ⟨fun _ => .inr rfl,
    fun hless => ⟨rfl, rfl, ?_⟩⟩⟩, fun hother => ?_, fun hother => absurd hstate hother⟩
  · exact .inl ⟨rfl, by simp [World.isGameOver, World.factions, hnobody]⟩
  · obtain ⟨worm, hfirst, hless⟩ := World.not_regainsAt_iff.mp hless
    exact ⟨worm, .opens ⟨hstate, List.head?_eq_getElem? ▸ hfirst⟩, hless⟩
  · cases hstate.symm.trans hother

/-- While the game is in progress, handing the turn on is never refused, but may be a crash. -/
theorem ends_handOn (hturn : s.world.turnNumber? = some (played + 1)) :
    startNextTurn.Ends s (fun _ s' => s'.Stands (played + 1))
      fun e s' => e = .overflow ∧ s' = s ∧ s.world.Overflows .startNextTurn := by
  obtain ⟨turn, hstate⟩ := World.exists_inProgress_iff.mpr (Option.isSome_of_eq_some hturn)
  have hnumber : turn.number = played + 1 := by
    rw [World.turnNumber?, hstate] at hturn
    exact Option.some.inj hturn
  refine ends_startNextTurn.mpr ⟨fun turn' hturn' => ?_, fun hnone => absurd hstate (hnone turn)⟩
  obtain rfl : turn = turn' := WorldState.inProgress.inj (hstate.symm.trans hturn')
  refine ⟨fun hover => .inl ⟨rfl, hover⟩, fun hgoes => ⟨fun _ => .inr (by rw [← hnumber]; rfl),
    fun hless => ⟨rfl, rfl, ?_⟩⟩⟩
  obtain ⟨worm, hnext, hless⟩ := World.not_regainsAt_iff.mp hless
  exact ⟨worm, .follows hstate hgoes hnext, hless⟩

/-- Rounds are played until the battle has been decided, until as many have been played as may be,
or until handing on the turn is a crash. -/
theorem ends_playTurns (left : Nat) (hs : s.Reachable) (hstands : s.Stands played) :
    (playTurns left played).Ends s
      (fun n s' => ∃ runners, s.Rounds runners s' ∧ n = played + runners.length ∧
        runners.length ≤ left ∧ s'.Stands n ∧ (runners.length < left →
          s'.world.isInProgress = false))
      fun e s' => e = .overflow ∧ s.Stalls left s' := by
  induction left generalizing s played with
  | zero => exact ⟨[], .stop, rfl, Nat.le_refl 0, hstands, fun h => absurd h (Nat.lt_irrefl 0)⟩
  | succ left ih =>
    simp only [playTurns, ends_bind, ends_world, ends_ite, ends_pure]
    refine ⟨fun hgoes => ?_, fun hends => ?_⟩
    · refine (ends_runTurn hs.sound).mono ?_ fun _ _ h => h.elim
      rintro - s₁ ⟨runner, hrun⟩
      -- What the program has done does not matter: the turn is the same, so it can be handed on.
      have hturn : s₁.world.turnNumber? = some (played + 1) :=
        (hrun.turnNumber?_eq hs.sound).trans (hstands.turnNumber? hgoes)
      have hs₁ : s₁.Reachable := hrun.reachable hs
      refine (ends_handOn hturn).carried.mono ?_ ?_
      · rintro ⟨⟩ s₂ ⟨hon, hstands⟩
        refine (ih (hs₁.carriedOut .startNextTurn trivial hon) hstands).mono ?_ ?_
        · rintro n s' ⟨rest, hrest, rfl, hle, hstands', hfew⟩
          refine ⟨runner :: rest, .round hgoes hrun hon hrest, ?_, ?_, hstands', fun hlt => ?_⟩
          · rw [List.length_cons]
            omega
          · exact Nat.succ_le_succ hle
          · exact hfew (Nat.lt_of_succ_lt_succ hlt)
        · rintro e s' ⟨rfl, hstalls⟩
          exact ⟨rfl, hstalls.round hgoes hrun hon⟩
      · rintro e s' ⟨-, rfl, rfl, hless⟩
        exact ⟨rfl, .handingOn .stop (Nat.zero_lt_succ left) hgoes hrun hless⟩
    · have hends : s.world.isInProgress = false := by simpa using hends
      exact ⟨[], .stop, rfl, Nat.zero_le _, hstands, fun _ => hends⟩

/-- After the program of a round has run, what is left is to hand on the turn and to play on. -/
theorem carryOut_playTurns_succ {s' : Simulation α} {runner : Option EntityId} (left played : Nat)
    (hs : s.world.Sound) (hgoes : s.world.isInProgress = true) (hrun : s.HasRun runner s') :
    (playTurns (left + 1) played).carryOut s =
      (startNextTurn >>= fun _ => playTurns left (played + 1)).carryOut s' := by
  have hworld : (world : Command α (World α)).carryOut s = (.ok s.world, s) := rfl
  rw [playTurns, carryOut_bind, hworld]
  dsimp only
  rw [if_pos hgoes, carryOut_bind, carryOut_runTurn hs hrun]

/-- Rounds that have been played are played. -/
theorem carryOut_playTurns_of_rounds {s' : Simulation α} {runners : List (Option EntityId)}
    (h : s.Rounds runners s') (hs : s.Reachable) (left played : Nat) :
    (playTurns (left + runners.length) played).carryOut s =
      (playTurns left (played + runners.length)).carryOut s' := by
  induction h generalizing played with
  | stop => rfl
  | @round s s₁ s₂ s₃ runner rest hgoes hrun hon _ ih =>
    have hs₂ : s₂.Reachable := (hrun.reachable hs).carriedOut .startNextTurn trivial hon
    rw [List.length_cons, ← Nat.add_assoc left, carryOut_playTurns_succ _ _ hs.sound hgoes hrun,
      carryOut_bind, hon]
    dsimp only
    rw [ih hs₂, Nat.add_assoc played, Nat.add_comm 1]

/-- **Rounds break off exactly when handing on the turn is a crash.** -/
theorem carryOut_playTurns_eq_overflow_iff {s' : Simulation α} (hs : s.Reachable)
    (hstands : s.Stands played) (left : Nat) :
    (playTurns left played).carryOut s = (.error .overflow, s') ↔ s.Stalls left s' := by
  refine ⟨fun hplayed => ((ends_playTurns left hs hstands).of_error hplayed).2, fun h => ?_⟩
  cases h with
  | @handingOn runners before _ runner hrounds hfew hgoes hrun hless =>
    obtain ⟨more, rfl⟩ := Nat.exists_eq_add_of_lt hfew
    have hleft : runners.length + more + 1 = more + 1 + runners.length := by omega
    have hcrash : startNextTurn.carryOut s' = (.error .overflow, s') := hless.carryOut
    rw [hleft, carryOut_playTurns_of_rounds hrounds hs,
      carryOut_playTurns_succ _ _ (hrounds.reachable hs).sound hgoes hrun, carryOut_bind, hcrash]

end Command

namespace Simulation

variable {s : Simulation α}

/-- **A battle is played to its end unless it breaks off**, and it breaks off exactly when a turn is
to be handed to a worm and no word holds what the worm regains. It is opened, and then rounds are
played, at most as many as may be. If there are fewer, the battle has been decided; if the game is
still in progress, the turn after the last round has begun. -/
theorem Reachable.plays (hs : s.Reachable) (hstate : s.world.state = .notStarted)
    (maxTurns : Nat) :
    (∀ s', (Command.play maxTurns).carryOut s = (.error .overflow, s') ↔
      s.BreaksOff maxTurns s') ∧
    ((∀ s', ¬s.BreaksOff maxTurns s') → ∃ opened runners s',
      Command.start.carryOut s = (.ok (), opened) ∧ opened.Rounds runners s' ∧
      (Command.play maxTurns).carryOut s = (.ok runners.length, s') ∧
      runners.length ≤ maxTurns ∧
      (runners.length < maxTurns → s'.world.state = .finished ∧ s'.world.factions.length ≤ 1) ∧
      (s'.world.isInProgress = true →
        runners.length = maxTurns ∧ s'.world.turnNumber? = some (runners.length + 1))) := by
  have hplay : (Command.play maxTurns).carryOut s =
      (Command.start >>= fun _ => Command.playTurns maxTurns 0).carryOut s := rfl
  rw [Command.carryOut_bind] at hplay
  rcases hopened : Command.start.carryOut s with ⟨e | ⟨⟩, opened⟩
  · obtain ⟨rfl, rfl, hless⟩ := (Command.ends_open hstate).of_error hopened
    rw [hopened] at hplay
    refine ⟨fun s' => ⟨fun h => ?_, fun h => ?_⟩, fun hnot => absurd (.opening hless) (hnot _)⟩
    · cases hplay.symm.trans h
      exact .opening hless
    · cases h with
      | opening => exact hplay
      | round hother => cases hopened.symm.trans hother
  · have hreachable : opened.Reachable := hs.carriedOut .start trivial hopened
    have hstands : opened.Stands 0 := (Command.ends_open hstate).of_ok hopened
    have hbreaks : ∀ s', s.BreaksOff maxTurns s' ↔ opened.Stalls maxTurns s' := by
      refine fun s' => ⟨fun h => ?_, .round hopened⟩
      cases h with
      | opening hless => cases hopened.symm.trans hless.carryOut
      | round hother hstalls =>
        cases hopened.symm.trans hother
        exact hstalls
    rw [hopened] at hplay
    simp only [hbreaks, hplay]
    refine ⟨fun s' => Command.carryOut_playTurns_eq_overflow_iff hreachable hstands maxTurns,
      fun hnot => ?_⟩
    have hends := Command.ends_playTurns maxTurns hreachable hstands
    rcases hplayed : (Command.playTurns maxTurns 0).carryOut opened with ⟨e | n, s'⟩
    · exact absurd (hends.of_error hplayed).2 (hnot s')
    · obtain ⟨runners, hrounds, hn, hle, hstands', hfew⟩ := hends.of_ok hplayed
      obtain rfl : n = runners.length := hn.trans (Nat.zero_add _)
      refine ⟨opened, runners, s', rfl, hrounds, rfl, hle, fun hlt => ?_, fun hgoes => ?_⟩
      · obtain ⟨hfinished, hover⟩ := hstands'.finished (hfew hlt)
        exact ⟨hfinished, of_decide_eq_true hover⟩
      · refine ⟨Nat.le_antisymm hle (Nat.le_of_not_lt fun hlt => ?_), hstands'.turnNumber? hgoes⟩
        cases hgoes.symm.trans (hfew hlt)

/-- The first worm slays the other one in the first round, which decides the battle. -/
theorem plays_duel : duel.world.state = .notStarted ∧ ∃ opened runners s',
    Rounds opened runners s' ∧ runners.length = 1 ∧
    (Command.play 5).carryOut duel = (.ok 1, s') ∧ s'.world.state = .finished ∧
    s'.world.factions.length ≤ 1 := by
  have hturns : ((Command.play 5).carryOut duel).1.toOption = some 1 := by decide +kernel
  obtain ⟨hbreaks, hplays⟩ := reachable_duel.plays rfl 5
  have hgoes : ∀ s', ¬duel.BreaksOff 5 s' := fun s' h => by
    rw [(hbreaks s').mpr h] at hturns
    cases hturns
  obtain ⟨opened, runners, s', -, hrounds, hplayed, -, hfew, -⟩ := hplays hgoes
  have hlength : runners.length = 1 := by
    rw [hplayed] at hturns
    exact Option.some.inj hturns
  obtain ⟨hfinished, hfactions⟩ := hfew (by omega)
  exact ⟨rfl, opened, runners, s', hrounds, hlength, hlength ▸ hplayed, hfinished, hfactions⟩

/-- Not every battle is played to its end. -/
theorem not_always_played : ¬∀ (s : Simulation Rat) (maxTurns : Nat), s.Reachable →
    s.world.state = .notStarted →
      ∃ n s', (Command.play maxTurns).carryOut s = (.ok n, s') ∧ n ≤ maxTurns := by
  intro h
  obtain ⟨n, s', hplayed, -⟩ := h vigour 5 reachable_vigour rfl
  have hcrash : ((Command.play 5).carryOut vigour).1.isOk = false := by decide +kernel
  rw [hplayed] at hcrash
  cases hcrash

end Simulation

end WormBattle
