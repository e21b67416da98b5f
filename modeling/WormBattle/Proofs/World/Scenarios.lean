import WormBattle.Proofs.World.Searches
import WormBattle.Scalar.Double
import WormBattle.Scenario

/-!
# Worlds of scenarios

A world comes about in two ways: it is made from its extent and rows of passable cells
(`World.make`), or it is built from a scenario, which draws its terrain (`Scenario.build`).

* Bringing in teams, worms and rations consists of steps of a game (`Command.GoesOn`). So the world
  of a scenario is one that a game can come to (`Scenario.reachable_build`), and it has the terrain
  on which it was set up.
* The terrain is that of the drawn rows, but for one case: a scenario without a map gets its terrain
  without any check, while rows of cells are only taken over a finite positive extent
  (`TerrainGrid.IsExtent`). `Scenario.build_agrees_iff` says that the two ways agree in every other
  case.
-/

namespace WormBattle

open Scalar

variable {α β γ : Type} [Scalar α]

/-! ### Commands that are steps of a game -/

namespace Simulation

/-- A game goes on from one simulation to another, by any number of steps. -/
def LeadsTo : Simulation α → Simulation α → Prop :=
  Relation.ReflTransGen fun s s' => ∃ op, Step s op s'

variable {s s' s'' : Simulation α}

/-- Nothing has to happen. -/
@[refl] theorem LeadsTo.refl (s : Simulation α) : s.LeadsTo s :=
  Relation.ReflTransGen.refl

private theorem LeadsTo.trans (h : s.LeadsTo s') (h' : s'.LeadsTo s'') : s.LeadsTo s'' :=
  Relation.ReflTransGen.trans h h'

private theorem Step.leadsTo {op : Option (Operation α)} (h : s.Step op s') : s.LeadsTo s' :=
  Relation.ReflTransGen.single ⟨op, h⟩

private theorem LeadsTo.reachable (h : s.LeadsTo s') (hs : s.Reachable) : s'.Reachable := by
  induction h with
  | refl => exact hs
  | tail _ hstep ih =>
    obtain ⟨op, hstep⟩ := hstep
    exact ih.step hstep

/-- The terrain of a game is always the one on which it was set up. -/
theorem LeadsTo.grid_eq (h : s.LeadsTo s') (hs : s.Reachable) :
    s'.world.grid = s.world.grid := by
  induction h with
  | refl => rfl
  | tail hbefore hstep ih =>
    obtain ⟨op, hstep⟩ := hstep
    exact (hstep.keeps_terrain (LeadsTo.reachable hbefore hs).sound).1.trans ih

end Simulation

namespace Command

open Simulation

/-- A command goes on with the game, done or refused. -/
def GoesOn (c : Command α β) : Prop :=
  ∀ s, c.Ends s (fun _ s' => s.LeadsTo s') fun _ s' => s.LeadsTo s'

variable {s : Simulation α}

private theorem GoesOn.bind {c : Command α β} {f : β → Command α γ} (hc : c.GoesOn)
    (hf : ∀ b, (f b).GoesOn) : (c >>= f).GoesOn := by
  intro s
  rw [ends_bind]
  exact (hc s).mono (fun b s' h => (hf b s').mono (fun _ _ => h.trans) fun _ _ => h.trans)
    fun _ _ h => h

/-- A command that comes after some steps. -/
theorem GoesOn.after {c : Command α β} (h : c.GoesOn) {s₀ : Simulation α} (hs : s₀.LeadsTo s) :
    c.Ends s (fun _ s' => s₀.LeadsTo s') fun _ s' => s₀.LeadsTo s' :=
  (h s).mono (fun _ _ => hs.trans) fun _ _ => hs.trans

private theorem goesOn_pure (b : β) : (pure b : Command α β).GoesOn :=
  fun s => ends_pure.mpr (.refl s)

private theorem goesOn_lift (value : Except (Error α) β) : (liftM value : Command α β).GoesOn :=
  fun s => ends_lift.mpr ⟨fun _ _ => .refl s, fun _ _ => .refl s⟩

omit [Scalar α] in
/-- It does not matter to the game that the result of a command is forgotten. -/
theorem snd_carryOut_forget (c : Command α β) (s : Simulation α) :
    ((do let _ ← c : Command α Unit).carryOut s).2 = (c.carryOut s).2 := by
  rw [carryOut_bind]
  rcases c.carryOut s with ⟨_ | _, s'⟩ <;> rfl

/-- A command that does what an operation does. -/
theorem ends_of_operation {c : Command α β} (op : Operation α) (hop : op.Admissible s.ids)
    (hcommand : (op.command.carryOut s).2 = (c.carryOut s).2) :
    c.Ends s (fun _ s' => s.LeadsTo s') fun _ s' => s.LeadsTo s' := by
  have hstep : s.LeadsTo (c.carryOut s).2 := hcommand ▸ (Step.operate op hop).leadsTo
  unfold Ends
  rcases hc : c.carryOut s with ⟨_ | _, s'⟩ <;> rw [hc] at hstep <;> exact hstep

/-- A number is handed out. -/
theorem leadsTo_mint (s : Simulation α) : s.LeadsTo { s with ids := ⟨s.ids.next + 1⟩ } :=
  (Step.elsewhere s.told (Nat.le_succ _)).leadsTo

/-- A command that does what an operation does, after a number has been handed out for it. -/
theorem ends_of_operation_minted {c : Command α β} (op : Operation α)
    (hop : op.Admissible ⟨s.ids.next + 1⟩)
    (hcommand : (op.command.carryOut { s with ids := ⟨s.ids.next + 1⟩ }).2 =
      (c.carryOut { s with ids := ⟨s.ids.next + 1⟩ }).2) :
    c.Ends { s with ids := ⟨s.ids.next + 1⟩ } (fun _ s' => s.LeadsTo s')
      fun _ s' => s.LeadsTo s' :=
  (ends_of_operation op hop hcommand).mono (fun _ _ => (leadsTo_mint s).trans)
    fun _ _ => (leadsTo_mint s).trans

private theorem goesOn_addNewFood : (addNewFood (α := α)).GoesOn :=
  fun _ => ends_of_operation .addNewFood trivial (snd_carryOut_forget _ _)

private theorem goesOn_joinTeam (id : EntityId) (team : String) :
    (joinTeam (α := α) id team).GoesOn :=
  fun _ => ends_of_operation (.joinTeam id team) trivial rfl

end Command

/-! ### Extents -/

namespace TerrainGrid

/-- A rectangle has an extent when its width and its height are finite and positive. -/
structure IsExtent (width height : α) : Prop where
  finite_width : isFinite width = true
  width_pos : 0.0 < width
  finite_height : isFinite height = true
  height_pos : 0.0 < height

variable {width height : α} {map : List (List Bool)} {g : TerrainGrid α}

private theorem isExtent_iff : IsExtent width height ↔ (isFinite width && decide (0.0 < width) &&
    isFinite height && decide (0.0 < height)) = true := by
  simp only [Bool.and_eq_true, decide_eq_true_eq]
  constructor
  · rintro ⟨hfinite, hpos, hfinite', hpos'⟩
    exact ⟨⟨⟨hfinite, hpos⟩, hfinite'⟩, hpos'⟩
  · rintro ⟨⟨⟨hfinite, hpos⟩, hfinite'⟩, hpos'⟩
    exact ⟨hfinite, hpos, hfinite', hpos'⟩

instance : Decidable (IsExtent width height) :=
  decidable_of_iff _ isExtent_iff.symm

/-- Without an extent no terrain is made of rows. -/
theorem ofRows_eq_error (h : ¬IsExtent width height) :
    ofRows width height map = .error (.illegalDimensions width height) := by
  rw [ofRows, if_neg (mt isExtent_iff.mpr h)]

/-- Over an extent a terrain is made of any rows, and it has this extent. -/
theorem exists_ofRows_eq_ok (h : IsExtent width height) (map : List (List Bool)) :
    ∃ g, ofRows width height map = .ok g ∧ g.width = width ∧ g.height = height := by
  rw [ofRows, if_pos (isExtent_iff.mp h)]
  dsimp only
  split <;> exact ⟨_, rfl, rfl, rfl⟩

/-- Without rows there is no raster. -/
theorem ofRows_nil (h : IsExtent width height) :
    ofRows width height [] = .ok (empty width height) := by
  rw [ofRows, if_pos (isExtent_iff.mp h)]
  rfl

end TerrainGrid

/-! ### Building the world of a scenario -/

namespace Scenario

open Command Simulation

variable {s : Scenario α} {sim : Simulation α} {id : WorldId} {ids : IdSupply}
  {runtime : Runtime} {loader : ProgramLoader α}

private theorem goesOn_addTeam (name : String) : (addTeam (α := α) name).GoesOn :=
  (goesOn_lift _).bind fun team _ => ends_of_operation (.addTeam team) trivial rfl

private theorem goesOn_addFood (config : GameConfig α) (spec : FoodSpec α) :
    (addFood config spec).GoesOn := by
  intro s
  simp only [addFood, ends_bind, ends_mint, ends_pure]
  refine ⟨fun food hfood => ?_, fun _ _ => .refl s⟩
  have hnumber : food.id.value < s.ids.next + 1 := by
    obtain ⟨body, hbody, ⟨⟩⟩ := bind_eq_ok_iff.mp hfood
    obtain ⟨-, -, -, rfl⟩ := Body.make_eq_ok_iff.mp hbody
    exact Nat.lt_succ_self _
  exact ends_of_operation_minted (.addFood food) hnumber (snd_carryOut_forget _ _)

/-- The program of a worm is an instance of the program of its source. -/
theorem ends_mapM_load (source : Option (ProgramSource α)) (s : Simulation α) :
    (source.mapM fun source => return ProgramInstance.ofRuntime runtime (← source.load loader) :
      Command α (Option (ProgramInstance α))).Ends s
      (fun program s' => s' = s ∧ ∀ i, program = some i → i.Made) fun _ s' => s' = s := by
  cases source with
  | none => exact ends_pure.mpr ⟨rfl, nofun⟩
  | some source =>
    rw [Option.mapM_some, map_eq_pure_bind]
    simp only [ends_bind, ends_lift, ends_pure, true_and, implies_true, and_true]
    rintro program - i ⟨⟩
    exact .of program runtime.budget runtime.observed

/-- A worm that has just been made enters, and the game goes on. -/
theorem ends_addWorm_minted {s : Simulation α} {worm : Worm α} {f : EntityId → Command α β}
    (hmade : worm.Made) (hid : worm.id = ⟨s.ids.next⟩) (hf : ∀ id, (f id).GoesOn) :
    (Command.addWorm worm >>= f).Ends { s with ids := ⟨s.ids.next + 1⟩ }
      (fun _ s' => s.LeadsTo s') fun _ s' => s.LeadsTo s' := by
  have hnumber : worm.id.value < s.ids.next + 1 := by
    rw [hid]
    exact Nat.lt_succ_self _
  have hadded := ends_of_operation_minted (.addWorm worm) ⟨hmade, hnumber⟩
    (snd_carryOut_forget (Command.addWorm worm) _)
  rw [ends_bind]
  exact hadded.mono (fun id _ => (hf id).after) fun _ _ h => h

/-- A worm enters with its program, and joins its team. -/
theorem goesOn_addWorm (config : GameConfig α) (runtime : Runtime) (loader : ProgramLoader α)
    (spec : WormSpec α) : (addWorm config runtime loader spec).GoesOn := by
  intro s
  rw [addWorm, ends_bind, ends_mint]
  refine ⟨fun worm hworm => ?_, fun _ _ => .refl s⟩
  rw [ends_bind]
  refine (ends_mapM_load _ _).mono ?_ fun _ s' hs' => hs' ▸ leadsTo_mint s
  rintro program _ ⟨rfl, hprogram⟩
  have hnew : worm.Made := .make hworm
  obtain ⟨-, -, -, rfl⟩ := Worm.make_eq_ok_iff.mp hworm
  refine ends_addWorm_minted ?_ ?_ fun id => ?_
  · cases program with
    | none => exact hnew
    | some i =>
      refine hnew.change (.setProgram fun j hj => ?_)
      cases hj
      exact ⟨(hprogram i rfl).bind _, rfl⟩
  · cases program <;> rfl
  · cases spec.team with
    | none => exact goesOn_pure ()
    | some team => exact goesOn_joinTeam id team

private theorem goesOn_addRandomFood (count : Nat) : (addRandomFood (α := α) count).GoesOn := by
  induction count with
  | zero => exact goesOn_pure ()
  | succ count ih => exact goesOn_addNewFood.bind fun _ => ih

private theorem goesOn_forM {β : Type} {f : β → Command α Unit} (hf : ∀ b, (f b).GoesOn)
    (l : List β) : (l.forM f).GoesOn := by
  induction l with
  | nil => exact goesOn_pure ()
  | cons b l ih => exact (hf b).bind fun _ => ih

/-- **A scenario brings its entities into the world by steps of a game.** -/
theorem goesOn_populate (s : Scenario α) (runtime : Runtime) (loader : ProgramLoader α) :
    (s.populate runtime loader).GoesOn :=
  (goesOn_forM goesOn_addTeam _).bind fun _ =>
    (goesOn_forM (goesOn_addWorm s.config runtime loader) _).bind fun _ =>
      (goesOn_forM (goesOn_addFood s.config) _).bind fun _ => goesOn_addRandomFood _

/-- **What building the world of a scenario comes to**: its entities are brought into a new world on
its terrain. -/
theorem build_eq_ok_iff : s.build id ids runtime loader = .ok sim ↔
    ∃ grid world, s.grid = .ok grid ∧ World.onGrid id grid s.config = .ok world ∧
    (s.populate runtime loader).carryOut { world, ids } = (.ok (), sim) := by
  simp only [build, bind_eq_ok_iff]
  constructor
  · rintro ⟨grid, hgrid, world, hworld, h⟩
    refine ⟨grid, world, hgrid, hworld, ?_⟩
    rcases hfilled : (s.populate runtime loader).carryOut { world, ids } with ⟨e | ⟨⟩, filled⟩
    · rw [hfilled] at h
      cases h
    · rw [hfilled] at h
      cases h
      rfl
  · rintro ⟨grid, world, hgrid, hworld, hfilled⟩
    refine ⟨grid, hgrid, world, hworld, ?_⟩
    rw [hfilled]
    rfl

/-- **The world of a scenario is one that a game can come to.** -/
theorem reachable_build (h : s.build id ids runtime loader = .ok sim) : sim.Reachable := by
  obtain ⟨grid, world, -, hworld, hfilled⟩ := build_eq_ok_iff.mp h
  exact ((goesOn_populate s runtime loader _).of_ok hfilled).reachable (.onGrid ids hworld)

/-! ### The two ways -/

/-- The rows of passable cells that the map of a scenario shows. -/
def cells (s : Scenario α) : List (List Bool) :=
  s.map.map TerrainGrid.cellsOfLine

/-- A terrain is drawn as it is made of rows, unless nothing is drawn and there is no extent. -/
theorem grid_eq_ofRows (h : s.map ≠ [] ∨ TerrainGrid.IsExtent s.width s.height) :
    s.grid = TerrainGrid.ofRows s.width s.height s.cells := by
  rw [grid]
  by_cases hmap : s.map = []
  · have hextent := h.resolve_left (not_not.mpr hmap)
    rw [hmap, List.isEmpty_nil, if_pos rfl, cells, hmap, List.map_nil,
      TerrainGrid.ofRows_nil hextent]
  · rw [if_neg (by simpa using hmap)]
    rfl

/-- The terrain of a scenario has the extent that the scenario says, be it one or not. -/
theorem extent_grid {g : TerrainGrid α} (h : s.grid = .ok g) :
    g.width = s.width ∧ g.height = s.height ∧
      (s.map ≠ [] → TerrainGrid.IsExtent s.width s.height) := by
  by_cases hextent : TerrainGrid.IsExtent s.width s.height
  · rw [grid_eq_ofRows (.inr hextent)] at h
    obtain ⟨g', hg', hwidth, hheight⟩ := TerrainGrid.exists_ofRows_eq_ok hextent s.cells
    cases h.symm.trans hg'
    exact ⟨hwidth, hheight, fun _ => hextent⟩
  · by_cases hmap : s.map = []
    · rw [grid, hmap, List.isEmpty_nil, if_pos rfl] at h
      cases h
      exact ⟨rfl, rfl, fun hdrawn => absurd hmap hdrawn⟩
    · rw [grid_eq_ofRows (.inl hmap), TerrainGrid.ofRows_eq_error hextent] at h
      cases h

/-- **A world that is built from a scenario is made of the drawn rows exactly if it has an extent**,
and with a map it always has one. Only a scenario without a map is built without an extent; from its
rows no world is made. -/
theorem build_agrees_iff (h : s.build id ids runtime loader = .ok sim) :
    sim.world.grid.width = s.width ∧ sim.world.grid.height = s.height ∧
      (s.map ≠ [] → TerrainGrid.IsExtent s.width s.height) ∧
      ((∃ w, World.make id s.width s.height s.cells s.config = .ok w ∧
          w.grid = sim.world.grid ∧
          (s.populate runtime loader).carryOut { world := w, ids } = (.ok (), sim)) ↔
        TerrainGrid.IsExtent s.width s.height) ∧
      (¬TerrainGrid.IsExtent s.width s.height →
        World.make id s.width s.height s.cells s.config =
          .error (.illegalDimensions s.width s.height)) := by
  obtain ⟨g, world, hgrid, hworld, hfilled⟩ := build_eq_ok_iff.mp h
  have hkept := ((goesOn_populate s runtime loader _).of_ok hfilled).grid_eq (.onGrid ids hworld)
  obtain ⟨hwidth, hheight, hdrawn⟩ := extent_grid hgrid
  have hinflated : sim.world.grid.width = g.width ∧ sim.world.grid.height = g.height := by
    obtain ⟨-, rfl⟩ := World.onGrid_eq_ok_iff.mp hworld
    rw [hkept]
    exact ⟨rfl, rfl⟩
  have hrefused : ¬TerrainGrid.IsExtent s.width s.height →
      World.make id s.width s.height s.cells s.config =
        .error (.illegalDimensions s.width s.height) := by
    intro hnone
    rw [World.make, TerrainGrid.ofRows_eq_error hnone, error_bind]
  refine ⟨hinflated.1.trans hwidth, hinflated.2.trans hheight, hdrawn, ⟨?_, fun hextent => ?_⟩,
    hrefused⟩
  · rintro ⟨w, hmade, -⟩
    by_contra hnone
    cases hmade.symm.trans (hrefused hnone)
  · refine ⟨world, ?_, hkept.symm, hfilled⟩
    rw [World.make, ← grid_eq_ofRows (.inr hextent), hgrid, ok_bind, hworld]

/-- A scenario with a ragged map, a worm that has its program from a file, and a ration. -/
def outpost : Scenario Float :=
  { width := 10
    height := 10
    map := ["#..", ".#"]
    config := default
    teams := ["Red"]
    worms :=
      [{ name := "Ann", x := 5, y := 5, direction := 0, radius := 0.5, team := some "Red",
         program := some (.file "scout.json") }]
    food := [{ x := 2, y := 2 }]
    randomFood := 0
    maxTurns := 100 }

/-- The worm of the outpost moves, and nobody is told of it. -/
def buildOutpost : Except (Error Float) (Simulation Float) :=
  outpost.build ⟨1⟩ {} { budget := 5, observed := false } fun _ => .ok (.ofStatement .move)

private theorem exists_build_outpost : ∃ sim, buildOutpost = .ok sim := by
  have hgrid : outpost.grid = .ok (.empty 10 10) := by
    rw [grid, TerrainGrid.ofLines, TerrainGrid.ofRows]
    rfl
  have hworld := World.onGrid_eq_ok_iff.mpr
    ⟨by decide +kernel, rfl (a := World.fresh ⟨1⟩ (.empty 10 10) outpost.config)⟩
  have hdone : ((outpost.populate { budget := 5, observed := false } fun _ =>
      .ok (.ofStatement .move)).carryOut
        ⟨.fresh ⟨1⟩ (.empty 10 10) outpost.config, {}, []⟩).1.isOk = true := by decide +kernel
  obtain ⟨⟨⟩, hfilled⟩ := exists_of_isOk hdone
  exact ⟨_, build_eq_ok_iff.mpr ⟨_, _, hgrid, hworld, hfilled⟩⟩

/-- The ragged map is given up in either way, and the extent stays. -/
theorem build_agrees_outpost : ∃ sim w, buildOutpost = .ok sim ∧ outpost.map ≠ [] ∧
    World.make ⟨1⟩ 10 10 outpost.cells default = .ok w ∧ w.grid = sim.world.grid ∧
      sim.world.grid.width = 10 ∧ sim.world.grid.height = 10 := by
  obtain ⟨sim, hsim⟩ := exists_build_outpost
  have hdrawn : outpost.map ≠ [] := List.cons_ne_nil _ _
  obtain ⟨hwidth, hheight, hextent, hmade, -⟩ := build_agrees_iff hsim
  obtain ⟨w, hw, hgrid, -⟩ := hmade.mpr (hextent hdrawn)
  exact ⟨sim, w, hsim, hdrawn, hw, hgrid, hwidth, hheight⟩

/-- A scenario without a map, whose width is negative. -/
def abyss : Scenario Float :=
  { width := -5
    height := 10
    map := []
    config := default
    teams := []
    worms := []
    food := []
    randomFood := 0
    maxTurns := 100 }

/-- Not every world that is built from a scenario can be made from its extent and its rows. -/
theorem not_always_made : ¬∀ (s : Scenario Float) (id : WorldId) (ids : IdSupply)
    (runtime : Runtime) (loader : ProgramLoader Float) (sim : Simulation Float),
    s.build id ids runtime loader = .ok sim →
      ∃ w, World.make id s.width s.height s.cells s.config = .ok w ∧
        w.grid = sim.world.grid := by
  intro h
  have hconfig : (default : GameConfig Float).check = .ok () := by decide +kernel
  have hnone : ¬TerrainGrid.IsExtent abyss.width abyss.height := by decide +kernel
  have hworld := World.onGrid_eq_ok_iff.mpr
    ⟨hconfig, rfl (a := World.fresh ⟨1⟩ (.empty (-5) 10) (default : GameConfig Float))⟩
  have hbuilt := build_eq_ok_iff.mpr
    ⟨_, _, (rfl : abyss.grid = .ok (.empty (-5) 10)), hworld,
      (rfl : (abyss.populate { budget := 5 } fun _ => .error .unreadable).carryOut ⟨_, {}, []⟩ =
        _)⟩
  obtain ⟨w, hmade, -⟩ := h _ _ _ _ _ _ hbuilt
  rw [World.make, TerrainGrid.ofRows_eq_error hnone] at hmade
  cases hmade

end Scenario

end WormBattle
