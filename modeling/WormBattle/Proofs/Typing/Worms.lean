import WormBattle.Proofs.Scalar.Rational
import WormBattle.Proofs.Typing.Runs
import WormBattle.Proofs.World.Refusal

/-!
# Programs of worms keep their types

A program without defects that belongs to a worm of a game, whatever has happened in the game, has
variables of the declared kinds, and a run of it can only fail when it inspects what cannot be
inspected (`Simulation.Reachable.typeSound`).

All other reasons are ruled out by the world. The program of a listed worm is bound to it, and the
worm stays listed as long as the run goes on: a refused action keeps all worms
(`Command.sameWorms_act`), and after one that is done the run looks whether the worm is still there.
So the worm has a position and action points at every point of the run.
-/

namespace WormBattle

variable {α : Type} [Scalar α]

/-- The errors of an inspection: nothing is inspected, or an entity that is no worm and no ration of
the world, or a property that rations do not have. -/
inductive Error.OfInspection : Error α → Prop where
  /-- There is no entity. -/
  | inspectNull : OfInspection .inspectNull
  /-- The entity is not in the world. -/
  | notInThisWorld (id : EntityId) : OfInspection (.notInThisWorld id)
  /-- The ration does not have the property. -/
  | foodLacks {property : Property} : property ∉ [.x, .y, .radius] →
      OfInspection (.foodLacks property)

omit [Scalar α] in
private theorem Program.validate_eq_ok_iff {program : Program α} :
    program.validate = .ok () ↔ program.check = .ok () := by
  rw [validate]
  cases program.check <;> simp [Except.mapError]

namespace World

variable {w : World α} {worm : Worm α} {id : EntityId}

/-- Looking at an entity fails only in the ways of looking. -/
theorem ofInspection_of_inspect {property : Property} {e : Error α}
    (h : w.inspect id property = .error e) : e.OfInspection := by
  rw [inspect] at h
  cases hworm : w.worm? id with
  | some worm => simp [hworm] at h
  | none =>
    cases hfood : w.food? id with
    | none =>
      rw [hworm, hfood] at h
      cases h
      exact .notInThisWorld id
    | some food =>
      rw [hworm, hfood] at h
      cases property <;> cases h <;> exact .foodLacks (by decide)

omit [Scalar α] in
/-- The worms are the entities of the kind of worms. -/
theorem kindOf_eq_worm_iff : w.kindOf id = some .worm ↔ ∃ worm, w.worm? id = some worm := by
  rw [kindOf]
  cases w.worm? id with
  | some worm => simp
  | none => cases w.food? id <;> simp

/-- A listed worm is somewhere. -/
theorem positionOf_view (h : w.worm? id = some worm) :
    w.view.positionOf id = some worm.position := by
  show (w.bodyOf id).map Body.position = some worm.position
  rw [bodyOf, h]
  rfl

omit [Scalar α] in
/-- A listed worm has action points, be they zero. -/
theorem actionPoints_eq (h : w.worm? id = some worm) :
    w.actionPoints id = .ok worm.actionPoints := by
  rw [actionPoints, requireWorm, h]
  rfl

end World

/-! ### Runs on worlds -/

namespace Simulation

/-- A refused action keeps all worms of a sound world. -/
theorem keepsWorm_sound :
    Environment.KeepsWorm (α := α) fun s : Simulation α => s.world.Sound where
  keeps {s} worm action hs := hs.changes ((Command.alters_act worm action).changes s)
  stays {s s' id action e} hs hkind hact := by
    obtain ⟨worm, hworm⟩ := World.kindOf_eq_worm_iff.mp hkind
    have hkept := (Command.sameWorms_act hs id action).of_error hact
    obtain ⟨worm', hworm', -⟩ := hkept.worm? hworm
    exact World.kindOf_eq_worm_iff.mpr ⟨worm', hworm'⟩

/-- A run goes on in a sound world that lists its worm. -/
structure Hosts (m : Machine α (Simulation α)) : Prop where
  sound : m.state.world.Sound
  listed : ∃ worm, m.state.world.worm? m.worm = some worm

variable {m m' : Machine α (Simulation α)} {e : Error α}

/-- Whatever a run does, its worm is listed as long as it goes on. -/
theorem Hosts.onward (h : Hosts m) (honward : m.Onward m') : Hosts m' := by
  obtain ⟨hsound, hthere⟩ :=
    honward.keepsWorm keepsWorm_sound ⟨h.sound, World.kindOf_eq_worm_iff.mpr h.listed⟩
  exact ⟨hsound, World.kindOf_eq_worm_iff.mp hthere⟩

/-- In such a world a run can only fail by an inspection. -/
theorem Hosts.failure (h : Hosts m) (hfailure : m.Failure e) : e.OfInspection := by
  obtain ⟨worm, hworm⟩ := h.listed
  cases hfailure with
  | expression hscope =>
    cases hscope with
    | inspectNull => exact .inspectNull
    | inspect hview hinspect =>
      cases hview
      exact World.ofInspection_of_inspect hinspect
    | notPlaced hview hme hposition =>
      cases hview
      cases hme
      cases hposition.symm.trans (World.positionOf_view hworm)
    | needsWorld hview => cases hview
    | unbound hme => cases hme
  | actionPoints hpoints => cases hpoints.symm.trans (World.actionPoints_eq hworm)

end Simulation

namespace ProgramInstance

variable {i : ProgramInstance α} {s : Simulation α} {id : EntityId} {worm : Worm α} {e : Error α}

/-- A run on a world that lists the worm fails by an inspection, or it is refused since one has
failed before. -/
theorem Made.run_eq_error (h : i.Made) (hcheck : i.program.check = .ok ()) (hs : s.world.Sound)
    (hbound : i.worm = some id) (hworm : s.world.worm? id = some worm)
    (hfailed : (i.run s).result = .error e) :
    i.phase = .faulted ∧ e = .faulted ∨ e.OfInspection := by
  have hwellFormed : i.wellFormed = true := by
    rw [h.wellFormed, Program.isWellFormed, hcheck]
  have hkind : (Environment.view s).kindOf id = some .worm :=
    World.kindOf_eq_worm_iff.mpr ⟨worm, hworm⟩
  by_cases hphase : i.phase = .faulted
  · have hrefused : i.readyWorm s = .error .faulted := by
      rw [readyWorm_eq, hwellFormed, if_neg (by simp), if_pos hphase]
    rw [ProgramInstance.run, runWith_refused hrefused] at hfailed
    cases hfailed
    exact .inl ⟨hphase, rfl⟩
  · have hready : i.readyWorm s = .ok id :=
      readyWorm_eq_ok_iff.mpr ⟨hwellFormed, hphase, hbound, hkind⟩
    obtain ⟨m, hm, hfailure⟩ := h.run_failure (P := Simulation.Hosts) hcheck hready
      (fun _ _ => .onward) ⟨hs, worm, hworm⟩ hfailed
    exact .inr (hm.failure hfailure)

/-- What a program without defects comes to that belongs to a worm of a game. -/
structure TypeSound (i : ProgramInstance α) (s : Simulation α) (id : EntityId) : Prop where
  /-- There are exactly the declared variables, each with a value of its declared kind. -/
  signature : i.globals.signature = i.program.globals.signature
  /-- Where the variables are of the declared kinds, an expression that has a kind is evaluated to
  values of that kind only. -/
  evaluates : ∀ (e : Expression α) (type : ValueType) (scope : Scope α) (value : Value α),
    e.typeOf i.program.globals = .ok type →
    scope.globals.signature = i.program.globals.signature →
    e.eval scope = .ok value → value.type = type
  /-- A run assigns values of the declared kinds. -/
  assigns : ∀ name value, .assigned name value ∈ (i.run (s.withProgram id none)).effects →
    i.program.globals.type? name = some value.type
  /-- Running the program fails by an inspection, unless it has failed before. -/
  fails : ∀ e s', (Command.runProgram id).carryOut s = (.error e, s') →
    i.phase = .faulted ∧ e = .faulted ∨ e.OfInspection

end ProgramInstance

namespace Simulation

variable {s : Simulation α} {id : EntityId} {worm : Worm α} {i : ProgramInstance α}

omit [Scalar α] in
/-- The worm is found with the program that it was given. -/
theorem worm?_withProgram (hworm : s.world.worm? id = some worm)
    (program : Option (ProgramInstance α)) :
    (s.withProgram id program).world.worm? id = some { worm with program } := by
  obtain rfl := World.id_of_worm? hworm
  let carrying : Worm α := { worm with program }
  have hcarrying : (s.world.setWorm carrying).worm? carrying.id = some carrying :=
    World.worm?_setWorm_self hworm
  rw [withProgram, hworm]
  exact hcarrying

/-- A sound world stays sound when a worm is given a program that is bound to it. -/
theorem sound_withProgram (hs : s.world.Sound) {program : Option (ProgramInstance α)}
    (h : ∀ i, program = some i → i.Made ∧ i.worm = some id) :
    (s.withProgram id program).world.Sound := by
  have hchanges : s.world.Changes .leaving (s.withProgram id program).world :=
    Command.changes_withProgram s h
  exact hs.changes hchanges

/-- **Programs without defects are type-sound.** This holds after any operations on the world, and
whatever the program has done before. -/
theorem Reachable.typeSound (hs : s.Reachable) (hworm : s.world.worm? id = some worm)
    (hi : worm.program = some i) (hvalid : i.program.validate = .ok ()) : i.TypeSound s id := by
  have hcheck := Program.validate_eq_ok_iff.mp hvalid
  have hsound := hs.sound
  obtain ⟨hmade, hbound⟩ := (hsound.made worm (World.mem_of_worm? hworm)).program hi
  rw [World.id_of_worm? hworm] at hbound
  have htaken : (s.withProgram id none).world.Sound :=
    sound_withProgram hsound (by simp)
  refine ⟨hmade.signature hcheck, ?_, fun name value => hmade.assigned hcheck, fun e s' hc => ?_⟩
  · intro e type scope value htype hscope heval
    have hyields := Expression.eval_yields hscope htype
    rw [heval] at hyields
    exact hyields
  · -- The program is run while the worm carries none, and given back whatever happens.
    have hends : (Command.runProgram id).Ends s (fun _ _ => True)
        fun e _ => i.phase = .faulted ∧ e = .faulted ∨ e.OfInspection := by
      rw [Command.ends_runProgram]
      refine ⟨fun worm' hworm' => ?_, fun hnone => ?_⟩
      · cases hworm.symm.trans hworm'
        refine ⟨fun _ => trivial, fun j hj => ?_⟩
        cases hi.symm.trans hj
        exact ⟨fun _ _ => trivial, fun e he =>
          hmade.run_eq_error hcheck htaken hbound (worm?_withProgram hworm none) he⟩
      · cases hworm.symm.trans hnone
    exact hends.of_error hc

/-- A worm whose program looks at nothing before it looks at the worm itself. -/
def gazing : Simulation Rat :=
  let program : Program Rat :=
    { root := .sequence [.print (.inspect .x (.global "seen")), .assign "seen" .selfRef]
      globals := .ofList [("seen", .entity none)] }
  let start : Simulation Rat := { world := .fresh ⟨1⟩ (.empty 100 100) default, ids := ⟨2⟩ }
  start.after
    [.addWorm ((Worm.fresh "Ann" ⟨5, 5⟩ 0 0.5 default ⟨1⟩).attachProgram (.of program 10))]

/-- The simulation of the observer comes up in a game. -/
theorem reachable_gazing : gazing.Reachable := by
  refine (Reachable.onGrid ⟨2⟩ (World.onGrid_eq_ok_iff.mpr ⟨?_, rfl⟩)).after
    ⟨⟨.change (.make (Worm.make_eq_ok_iff.mpr ⟨?_, ?_, ?_, rfl⟩)) (.setProgram ?_), ?_⟩, trivial⟩
  case refine_5 =>
    rintro _ ⟨⟩
    exact ⟨.bind _ (.of _ 10 true), rfl⟩
  all_goals decide +kernel

/-- The observer has a valid program, and the program is type-sound. -/
theorem typeSound_gazing : ∃ worm i, gazing.world.worm? ⟨1⟩ = some worm ∧ worm.program = some i ∧
    i.program.validate = .ok () ∧ i.TypeSound gazing ⟨1⟩ := by
  have hany : (gazing.world.worm? ⟨1⟩).any
      (fun worm => worm.program.any fun i => decide (i.program.validate = .ok ())) = true := by
    decide +kernel
  obtain ⟨worm, hworm, hany⟩ := (Option.any_eq_true _ _).mp hany
  obtain ⟨i, hi, hvalid⟩ := (Option.any_eq_true _ _).mp hany
  have hvalid := of_decide_eq_true hvalid
  exact ⟨worm, i, hworm, hi, hvalid, reachable_gazing.typeSound hworm hi hvalid⟩

end Simulation

end WormBattle
