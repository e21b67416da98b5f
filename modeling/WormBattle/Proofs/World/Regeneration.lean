import WormBattle.Proofs.World.CurrentWorm
import WormBattle.Proofs.World.Dead

/-!
# Hit points that come back

At the start of its turn a worm gets hit points back, as many as its settings say, up to what it may
have. The sum is taken first and cut down afterwards, and it is taken in a word. The settings may
ask for as many hit points as a word holds, and a large worm may have as many, so the sum may leave
the word.

* While it does not, the worm is handed the turn and has the smaller of the sum and its maximum
  (`Simulation.Regains`).
* When it does, handing it the turn is a crash (`World.Due.turnStart`).

`Simulation.Reachable.regains_iff` says this of every start of a turn.
-/

namespace WormBattle

open Scalar

variable {α : Type} [Scalar α]

/-- A rested worm has lost no hit points. -/
theorem Worm.InBounds.hitPoints_le_rested {worm : Worm α} (h : worm.InBounds) :
    worm.hitPoints ≤ worm.rested.hitPoints :=
  le_min (Nat.le_add_right _ _) h.hitPoints_le

/-- How the start of a worm's turn ends. -/
inductive Simulation.TurnStart (s : Simulation α) (worm : Worm α) :
    Except (Error α) Unit × Simulation α → Prop where
  /-- The worm is handed the turn, and is rested. -/
  | rests {index number : Nat} : worm.regained ≤ maxPoints → s.world.worms[index]? = some worm →
      s.world.turnNumber? ≠ some number →
      TurnStart s worm (.ok (), { s with world := s.world.withTurn index number })
  /-- No word holds what the worm regains. -/
  | crashes : maxPoints < worm.regained → TurnStart s worm (.error .overflow, s)

/-- **What handing the turn to the worm that is due comes to.** -/
theorem World.Due.turnStart {s : Simulation α} {worm : Worm α} {op : Operation α}
    (h : s.world.Due worm op) : s.TurnStart worm (op.command.carryOut s) := by
  refine Command.Ends.of_end (P := s.TurnStart worm) ?_
  cases h with
  | opens hopens =>
    obtain ⟨hstate, hhead⟩ := hopens
    have hfirst : s.world.worms[0]? = some worm := List.head?_eq_getElem? ▸ hhead
    refine Command.ends_start.mpr ⟨fun _ => ⟨fun hnil => ?_, fun _ => ⟨fun hfits => ?_,
      fun hless => ?_⟩⟩, fun hother => ?_, fun hother => absurd hstate hother⟩
    · rw [hnil] at hhead
      cases hhead
    · exact .rests ((World.regainsAt_iff hfirst).mp hfits) hfirst
        (by simp [World.turnNumber?, hstate])
    · exact .crashes (Nat.lt_of_not_le (mt (World.regainsAt_iff hfirst).mpr hless))
    · cases hstate.symm.trans hother
  | @follows turn hturn hgoes hnext =>
    refine Command.ends_startNextTurn.mpr ⟨fun turn' hturn' => ?_,
      fun hnone => absurd hturn (hnone turn)⟩
    cases hturn.symm.trans hturn'
    refine ⟨fun hover => absurd (hgoes.symm.trans hover) Bool.false_ne_true,
      fun _ => ⟨fun hfits => ?_, fun hless => ?_⟩⟩
    · exact .rests ((World.regainsAt_iff hnext).mp hfits) hnext
        (by simp [World.turnNumber?, hturn])
    · exact .crashes (Nat.lt_of_not_le (mt (World.regainsAt_iff hnext).mpr hless))

/-- An operation is to hand the turn to a worm, and no word holds what that worm regains. -/
def World.Overflows (w : World α) (op : Operation α) : Prop :=
  ∃ worm, w.Due worm op ∧ maxPoints < worm.hitPoints + worm.config.hitPointRegen.toNat

/-- What hands the turn to a worm whose hit points overflow crashes, and leaves the simulation as
it was. -/
theorem World.Overflows.carryOut {s : Simulation α} {op : Operation α}
    (h : s.world.Overflows op) : op.command.carryOut s = (.error .overflow, s) := by
  obtain ⟨worm, hdue, hless⟩ := h
  have hstart := hdue.turnStart
  generalize op.command.carryOut s = ending at hstart ⊢
  cases hstart with
  | rests hfits => exact absurd hless (Nat.not_lt.mpr hfits)
  | crashes => rfl

namespace Simulation

open World

variable {s s' : Simulation α} {worm : Worm α}

/-- A worm is handed the turn and gets hit points back, up to what it may have. -/
structure Regains (s s' : Simulation α) (worm : Worm α) : Prop where
  handed : s.handed s' = some worm.id
  others : ∀ id, id ≠ worm.id → s'.world.worm? id = s.world.worm? id
  current : ∃ worm', s'.world.currentWorm? = some worm' ∧ worm'.id = worm.id ∧
    worm'.hitPoints =
      min (worm.hitPoints + worm.config.hitPointRegen.toNat) worm'.maxHitPoints ∧
    worm.hitPoints ≤ worm'.hitPoints

private theorem Regains.of_withTurn (hs : s.world.Sound) {index number : Nat}
    (hs' : s'.world = s.world.withTurn index number) (hnumber : s.world.turnNumber? ≠ some number)
    (hnext : s.world.worms[index]? = some worm) : s.Regains s' worm where
  handed := handed_withTurn hs' hnumber hnext
  others id hid := by rw [hs', hs.worm?_withTurn hnext number id, if_neg (Ne.symm hid)]
  current := ⟨worm.rested, by rw [hs', currentWorm?_withTurn number hnext], rfl, rfl,
    (hs.made worm (List.mem_of_getElem? hnext)).inBounds.hitPoints_le_rested⟩

/-- **At the start of a turn a worm gets its hit points back exactly if a word holds the sum**, and
otherwise the start of the turn is a crash. Nobody but the worm that is due is handed a turn. -/
theorem Reachable.regains_iff (hs : s.Reachable) :
    (∀ op s' id, s.Step op s' → s.handed s' = some id →
      ∃ worm op', op = some op' ∧ s.world.Due worm op' ∧ worm.id = id) ∧
    ∀ worm op, s.world.Due worm op →
      (worm.hitPoints + worm.config.hitPointRegen.toNat ≤ maxPoints ↔
        ∃ s', op.command.carryOut s = (.ok (), s') ∧ s.Regains s' worm) ∧
      (maxPoints < worm.hitPoints + worm.config.hitPointRegen.toNat ↔
        op.command.carryOut s = (.error .overflow, s)) := by
  refine ⟨fun op s' id h hturn => ?_, fun worm op hdue => ?_⟩
  · obtain ⟨hidle, -⟩ | ⟨worm, op', hop, hdue, hhands, -⟩ := h.turn_cases hs.sound
    · cases hidle.turn.symm.trans hturn
    · exact ⟨worm, op', hop, hdue, Option.some.inj (hhands.turn.symm.trans hturn)⟩
  · have hstart := hdue.turnStart
    generalize op.command.carryOut s = ending at hstart ⊢
    cases hstart with
    | rests hfits hnext hnumber =>
      refine ⟨iff_of_true hfits ⟨_, rfl, .of_withTurn hs.sound rfl hnumber hnext⟩,
        iff_of_false (Nat.not_lt.mpr hfits) (by simp)⟩
    | crashes hless =>
      exact ⟨iff_of_false (Nat.not_le.mpr hless) (by simp), iff_of_true hless rfl⟩

/-- A worm that gets back as many hit points as a word holds, before the game begins. -/
def vigour : Simulation Rat :=
  let settings : WormConfig Rat := { (default : WormConfig Rat) with hitPointRegen := 4294967295 }
  let config : GameConfig Rat := { (default : GameConfig Rat) with worm := settings }
  let start : Simulation Rat := { world := .fresh ⟨1⟩ (.empty 100 100) config, ids := ⟨2⟩ }
  start.after [.addWorm (.fresh "Ann" ⟨5, 5⟩ 0 0.5 settings ⟨1⟩)]

/-- The simulation of the vigorous worm comes up in a game. -/
theorem reachable_vigour : vigour.Reachable := by
  refine (Reachable.onGrid ⟨2⟩ (World.onGrid_eq_ok_iff.mpr ⟨?_, rfl⟩)).after
    ⟨⟨.make (Worm.make_eq_ok_iff.mpr ⟨?_, ?_, ?_, rfl⟩), ?_⟩, trivial⟩
  all_goals decide +kernel

/-- The worm has 556 hit points and is to open the game. -/
theorem exists_due_vigour : ∃ worm, vigour.world.Due worm .start ∧ worm.hitPoints = 556 ∧
    worm.config.hitPointRegen = 4294967295 := by
  have hany : vigour.world.worms.head?.any (fun worm => decide (worm.hitPoints = 556 ∧
      worm.config.hitPointRegen = 4294967295)) = true := by decide +kernel
  obtain ⟨worm, hworm, hknown⟩ := (Option.any_eq_true _ _).mp hany
  exact ⟨worm, .opens ⟨rfl, hworm⟩, of_decide_eq_true hknown⟩

/-- A worm with all its hit points is to get a word full of them back, and the game does not
open. -/
theorem regains_vigour : ∃ worm, vigour.world.Due worm .start ∧ worm.hitPoints = 556 ∧
    Command.start.carryOut vigour = (.error .overflow, vigour) := by
  obtain ⟨worm, hdue, hpoints, hregen⟩ := exists_due_vigour
  obtain ⟨-, hstarts⟩ := reachable_vigour.regains_iff
  refine ⟨worm, hdue, hpoints, (hstarts worm .start hdue).2.mp ?_⟩
  rw [hpoints, hregen]
  decide

/-- Not every worm that is due gets its hit points back. -/
theorem not_always_regained : ¬∀ (s : Simulation Rat) (worm : Worm Rat) (op : Operation Rat),
    s.Reachable → s.world.Due worm op →
      ∃ s', op.command.carryOut s = (.ok (), s') ∧ s.Regains s' worm := by
  intro h
  obtain ⟨worm, hdue, -⟩ := exists_due_vigour
  obtain ⟨s', hdone, -⟩ := h vigour worm .start reachable_vigour hdue
  have hcrash : (Operation.start.command.carryOut vigour).1.isOk = false := by decide +kernel
  rw [hdone] at hcrash
  cases hcrash

end Simulation

/-- A worm of a hundred metres has as many hit points as a word holds, so the default settings are
enough for a crash. -/
example : maxPoints < (Worm.fresh "Ann" ⟨500, 500⟩ 0 100 default ⟨1⟩ : Worm Rat).regained := by
  decide +kernel

end WormBattle
