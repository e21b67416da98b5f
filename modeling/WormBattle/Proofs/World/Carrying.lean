import WormBattle.Proofs.World.Lookup
import WormBattle.World.Program
import WormBattle.World.Spawn

/-!
# Carrying out commands

What is known of a command is said of its two ends: `c.Ends s done refused` holds when carrying out
`c` on `s` either is done with a result and a state that satisfy `done`, or is refused with a reason
and a state that satisfy `refused`. Each form of command has an equivalence that moves `Ends` to its
parts, and a command is followed by rewriting with these.
-/

namespace WormBattle

variable {α β γ : Type}

/-- The simulation in which a worm, if it is there, carries a program or none. -/
def Simulation.withProgram (s : Simulation α) (id : EntityId)
    (program : Option (ProgramInstance α)) : Simulation α :=
  match s.world.worm? id with
  | some worm => { s with world := s.world.setWorm { worm with program } }
  | none => s

namespace Command

/-! ### The forms of commands -/

/-- A computation without commands leaves the simulation as it is. -/
@[simp] theorem carryOut_lift (value : Except (Error α) β) (s : Simulation α) :
    (liftM value : Command α β).carryOut s = (value, s) := rfl

/-- The second of two commands is carried out only if the first one is done, and on what that
left. -/
theorem carryOut_bind (c : Command α β) (f : β → Command α γ) (s : Simulation α) :
    (c >>= f).carryOut s = match c.carryOut s with
      | (.ok b, s') => (f b).carryOut s'
      | (.error e, s') => (.error e, s') := by
  simp only [carryOut, bind, ExceptT.bind, ExceptT.bindCont, ExceptT.run, ExceptT.mk, StateT.bind,
    StateT.run]
  rcases c s with ⟨_ | _, s'⟩ <;> rfl

/-- A command that is done needs no handler. -/
theorem carryOut_tryCatch_of_ok {c : Command α β} {handler : Error α → Command α β}
    {s s' : Simulation α} {b : β} (h : c.carryOut s = (.ok b, s')) :
    (tryCatch c handler).carryOut s = (.ok b, s') := by
  simp only [carryOut, tryCatch, tryCatchThe, MonadExceptOf.tryCatch, ExceptT.tryCatch,
    ExceptT.run, ExceptT.mk, bind, StateT.bind, StateT.run] at h ⊢
  rw [h]
  rfl

/-- The handler goes on with what the refused command left. -/
theorem carryOut_tryCatch_of_error {c : Command α β} {handler : Error α → Command α β}
    {s s' : Simulation α} {e : Error α} (h : c.carryOut s = (.error e, s')) :
    (tryCatch c handler).carryOut s = (handler e).carryOut s' := by
  simp only [carryOut, tryCatch, tryCatchThe, MonadExceptOf.tryCatch, ExceptT.tryCatch,
    ExceptT.run, ExceptT.mk, bind, StateT.bind, StateT.run] at h ⊢
  rw [h]

/-- A command that is done has a result. -/
theorem exists_of_isOk {c : Command α β} {s : Simulation α} (h : (c.carryOut s).1.isOk = true) :
    ∃ b, c.carryOut s = (.ok b, (c.carryOut s).2) := by
  rcases hc : c.carryOut s with ⟨_ | b, s'⟩
  · rw [hc] at h
    cases h
  · exact ⟨b, rfl⟩

/-! ### The ends of a command -/

/-- What holds at the end of a command, whether it is done or refused. -/
def Ends (c : Command α β) (s : Simulation α) (done : β → Simulation α → Prop)
    (refused : Error α → Simulation α → Prop) : Prop :=
  match c.carryOut s with
  | (.ok b, s') => done b s'
  | (.error e, s') => refused e s'

variable {c : Command α β} {f : β → Command α γ} {s s' : Simulation α} {b : β} {e : Error α}
  {done done' : β → Simulation α → Prop} {next : γ → Simulation α → Prop}
  {refused refused' : Error α → Simulation α → Prop}

/-- What holds at the end of a command that is done. -/
theorem Ends.of_ok (h : c.Ends s done refused) (hc : c.carryOut s = (.ok b, s')) : done b s' := by
  rw [Ends, hc] at h
  exact h

/-- What holds at the end of a command that is refused. -/
theorem Ends.of_error (h : c.Ends s done refused) (hc : c.carryOut s = (.error e, s')) :
    refused e s' := by
  rw [Ends, hc] at h
  exact h

/-- What holds at either end holds at the end. -/
theorem Ends.of_both {P : Simulation α → Prop} (h : c.Ends s (fun _ => P) fun _ => P) :
    P (c.carryOut s).2 := by
  unfold Ends at h
  rcases hc : c.carryOut s with ⟨_ | _, s'⟩ <;> rw [hc] at h <;> exact h

/-- What holds at the ends, of the result and the simulation together. -/
theorem Ends.of_end {P : Except (Error α) β × Simulation α → Prop}
    (h : c.Ends s (fun b s' => P (.ok b, s')) fun e s' => P (.error e, s')) : P (c.carryOut s) := by
  unfold Ends at h
  rcases hc : c.carryOut s with ⟨_ | _, s'⟩ <;> rw [hc] at h <;> exact h

/-- The two ends of a command, each on its own. -/
theorem ends_iff : c.Ends s done refused ↔
    (∀ b s', c.carryOut s = (.ok b, s') → done b s') ∧
      ∀ e s', c.carryOut s = (.error e, s') → refused e s' := by
  refine ⟨fun h => ⟨fun b s' => h.of_ok, fun e s' => h.of_error⟩, fun h => ?_⟩
  unfold Ends
  rcases hc : c.carryOut s with ⟨_ | _, s'⟩
  · exact h.2 _ _ hc
  · exact h.1 _ _ hc

/-- What holds at the ends may be replaced by something that follows from it. -/
theorem Ends.mono (h : c.Ends s done refused) (hdone : ∀ b s', done b s' → done' b s')
    (hrefused : ∀ e s', refused e s' → refused' e s') : c.Ends s done' refused' := by
  rw [ends_iff] at h ⊢
  exact ⟨fun b s' hc => hdone b s' (h.1 b s' hc), fun e s' hc => hrefused e s' (h.2 e s' hc)⟩

/-- Two descriptions of the ends of a command hold together. -/
theorem Ends.and (h : c.Ends s done refused) (h' : c.Ends s done' refused') :
    c.Ends s (fun b s' => done b s' ∧ done' b s') fun e s' => refused e s' ∧ refused' e s' := by
  rw [ends_iff] at h h' ⊢
  exact ⟨fun b s' hc => ⟨h.1 b s' hc, h'.1 b s' hc⟩, fun e s' hc => ⟨h.2 e s' hc, h'.2 e s' hc⟩⟩

/-- Giving back a result ends as it began. -/
@[simp] theorem ends_pure : (pure b : Command α β).Ends s done refused ↔ done b s := Iff.rfl

/-- A refusal ends as it began. -/
@[simp] theorem ends_throw : (throw e : Command α β).Ends s done refused ↔ refused e s := Iff.rfl

/-- What holds at the ends of two commands holds at the ends of the second one, after the first
one is done. -/
@[simp] theorem ends_bind :
    (c >>= f).Ends s next refused ↔ c.Ends s (fun b s' => (f b).Ends s' next refused) refused := by
  unfold Ends
  rw [carryOut_bind]
  rcases c.carryOut s with ⟨_ | _, s'⟩ <;> rfl

/-- A computation without commands ends with its result or its refusal, as it began. -/
@[simp] theorem ends_lift {value : Except (Error α) β} :
    (liftM value : Command α β).Ends s done refused ↔
      (∀ v, value = .ok v → done v s) ∧ ∀ e, value = .error e → refused e s := by
  simp only [ends_iff, carryOut_lift, Prod.mk.injEq, and_imp]
  exact ⟨fun h => ⟨fun v hv => h.1 v s hv rfl, fun e he => h.2 e s he rfl⟩,
    fun h => ⟨fun v _ hv hs => hs ▸ h.1 v hv, fun e _ he hs => hs ▸ h.2 e he⟩⟩

/-- A choice between commands ends as the chosen one. -/
@[simp] theorem ends_ite {p : Prop} [Decidable p] {c' : Command α β} :
    (if p then c else c').Ends s done refused ↔
      (p → c.Ends s done refused) ∧ (¬p → c'.Ends s done refused) := by
  split <;> simp [*]

/-- A handled command ends where it is done, or as its handler ends. -/
@[simp] theorem ends_tryCatch {handler : Error α → Command α β} :
    (tryCatch c handler).Ends s done refused ↔
      c.Ends s done fun e s' => (handler e).Ends s' done refused := by
  unfold Ends
  rcases hc : c.carryOut s with ⟨e | b, s'⟩
  · rw [carryOut_tryCatch_of_error hc]
  · rw [carryOut_tryCatch_of_ok hc]

/-- Looking at the world changes nothing. -/
@[simp] theorem ends_world {done : World α → Simulation α → Prop} :
    (world : Command α (World α)).Ends s done refused ↔ done s.world s := Iff.rfl

/-- A change of the world is never refused. -/
@[simp] theorem ends_modifyWorld {change : World α → World α} {done : Unit → Simulation α → Prop} :
    (modifyWorld change).Ends s done refused ↔ done () { s with world := change s.world } := Iff.rfl

/-- Making an entity uses up a number, unless it is refused. -/
@[simp] theorem ends_mint {make : EntityId → Except (Error α) β} :
    (mint make).Ends s done refused ↔
      (∀ b, make ⟨s.ids.next⟩ = .ok b → done b { s with ids := ⟨s.ids.next + 1⟩ }) ∧
        ∀ e, make ⟨s.ids.next⟩ = .error e → refused e s := by
  show (liftM (s.ids.mint make).1 : Command α β).Ends { s with ids := (s.ids.mint make).2 } _ _ ↔ _
  rw [ends_lift, IdSupply.mint]
  cases make ⟨s.ids.next⟩ <;> simp

/-- A worm is found, or it is missed. -/
@[simp] theorem ends_requireWorm {id : EntityId} {done : Worm α → Simulation α → Prop} :
    (requireWorm id).Ends s done refused ↔
      (∀ worm, s.world.worm? id = some worm → done worm s) ∧
        (s.world.worm? id = none → refused (.notAWorm id) s) := by
  show (liftM (s.world.requireWorm id) : Command α (Worm α)).Ends s done refused ↔ _
  rw [ends_lift, World.requireWorm]
  cases s.world.worm? id <;> simp

/-- Writing a worm back is never refused. -/
@[simp] theorem ends_setWorm {worm : Worm α} {done : Unit → Simulation α → Prop} :
    (setWorm worm).Ends s done refused ↔ done () { s with world := s.world.setWorm worm } := Iff.rfl

/-! ### Leaving -/

/-- Taking out the projectile ends its body, or is refused as there is none. -/
theorem ends_removeProjectile {done : Projectile α → Simulation α → Prop} :
    removeProjectile.Ends s done refused ↔
      (∀ p, s.world.projectile = some p →
        (∀ body, p.body.detach.terminate = .ok body →
          done { p with body } { s with world := { s.world with projectile := none } }) ∧
        ∀ e, p.body.detach.terminate = .error e →
          refused e { s with world := { s.world with projectile := none } }) ∧
      (s.world.projectile = none → refused .noProjectile s) := by
  simp only [removeProjectile, ends_bind, ends_world]
  cases hp : s.world.projectile with
  | none => simp
  | some p => simp only [ends_bind, ends_modifyWorld, ends_lift, ends_pure]; simp

/-- Taking out a ration ends its body, or is refused as the ration is not listed. -/
theorem ends_removeFood {id : EntityId} {done : Food α → Simulation α → Prop} :
    (removeFood id).Ends s done refused ↔
      (∀ food, s.world.food? id = some food →
        let s' := { s with world :=
          { s.world with food := s.world.food.eraseP fun f => f.id = id } }
        (∀ body, food.body.detach.terminate = .ok body → done { food with body } s') ∧
        ∀ e, food.body.detach.terminate = .error e → refused e s') ∧
      (s.world.food? id = none → refused (.notFood id) s) := by
  simp only [removeFood, ends_bind, ends_world]
  cases hf : s.world.food? id with
  | none => simp
  | some food => simp only [ends_bind, ends_modifyWorld, ends_lift, ends_pure]; simp

/-- Taking out a worm ends its body and takes care of the turn, or is refused as the worm is not
listed. -/
theorem ends_removeWorm {id : EntityId} {done : Worm α → Simulation α → Prop} :
    (removeWorm id).Ends s done refused ↔
      (∀ worm index, s.world.worm? id = some worm →
        s.world.worms.findIdx? (fun worm => worm.id = id) = some index →
        let s' := { s with world := { s.world with
          worms := s.world.worms.eraseIdx index
          state := s.world.stateWithout index } }
        (∀ body, worm.body.detach.terminate = .ok body → done { worm with body } s') ∧
        ∀ e, worm.body.detach.terminate = .error e → refused e s') ∧
      (s.world.worm? id = none → refused (.notAWorm id) s) := by
  simp only [removeWorm, ends_bind, ends_world]
  cases hindex : s.world.worms.findIdx? (fun worm => worm.id = id) with
  | none =>
    have hnone : s.world.worm? id = none := by
      simpa [World.worm?, List.findIdx?_eq_none_iff] using hindex
    simp [hnone]
  | some index =>
    obtain ⟨worm, hworm⟩ := World.worm?_of_findIdx? hindex
    simp only [ends_bind, ends_modifyWorld, ends_lift, ends_pure, World.requireWorm, hworm]
    simp

variable [Scalar α]

/-- A run of a program outside its worm is never refused: what the run came to is its result. -/
@[simp] theorem ends_runInstance {i : ProgramInstance α}
    {done : Except (Error α) Outcome × ProgramInstance α → Simulation α → Prop} :
    (runInstance i).Ends s done refused ↔
      done ((s.runInstance i).1, (s.runInstance i).2.1) (s.runInstance i).2.2 := Iff.rfl

/-- A worm's program is run on a world in which the worm carries none, and then given back. -/
theorem ends_runProgram {id : EntityId} {done : Option Outcome → Simulation α → Prop} :
    (runProgram id).Ends s done refused ↔
      (∀ worm, s.world.worm? id = some worm → (worm.program = none → done none s) ∧
        ∀ i, worm.program = some i →
          let ran := (s.withProgram id none).runInstance i
          let s' := ran.2.2.withProgram id (some ran.2.1)
          (∀ outcome, ran.1 = .ok outcome → done (some outcome) s') ∧
          ∀ e, ran.1 = .error e → refused e s') ∧
      (s.world.worm? id = none → refused (.notAWorm id) s) := by
  simp only [runProgram, ends_bind, ends_requireWorm]
  cases hworm : s.world.worm? id with
  | none => simp
  | some worm =>
    cases hi : worm.program with
    | none => simp [hi]
    | some i =>
      -- The worm is looked up again after the run, for it may be gone by then.
      have hwithout : s.withProgram id none =
          { s with world := s.world.setWorm { worm with program := none } } := by
        rw [Simulation.withProgram, hworm]
      simp only [Option.some.injEq, forall_eq', hi, ends_bind, ends_setWorm, ends_runInstance,
        ends_world, reduceCtorEq, false_implies, and_true, true_and, hwithout]
      generalize Simulation.runInstance _ i = ran
      unfold Simulation.withProgram
      cases ran.2.2.world.worm? id <;> simp only [ends_bind, ends_lift, ends_pure, ends_setWorm]

/-- The run of the program of a listed worm. -/
theorem carryOut_runProgram {id : EntityId} {worm : Worm α} {i : ProgramInstance α}
    (hworm : s.world.worm? id = some worm) (hi : worm.program = some i) :
    let ran := (s.withProgram id none).runInstance i
    (runProgram id).carryOut s = (ran.1.map some, ran.2.2.withProgram id (some ran.2.1)) := by
  intro ran
  refine Ends.of_end (P := fun r => r = (ran.1.map some, ran.2.2.withProgram id (some ran.2.1))) ?_
  refine ends_runProgram.mpr ⟨fun worm' hworm' => ?_, fun hnone => ?_⟩
  · cases hworm.symm.trans hworm'
    refine ⟨fun hnone => ?_, fun j hj => ?_⟩
    · cases hi.symm.trans hnone
    · cases hi.symm.trans hj
      refine ⟨fun outcome hran => ?_, fun e hran => ?_⟩
      · rw [show ran.1 = .ok outcome from hran]
        rfl
      · rw [show ran.1 = .error e from hran]
        rfl
  · cases hworm.symm.trans hnone

end Command

end WormBattle
