import WormBattle.Proofs.Scalar.Rational
import WormBattle.Proofs.World.Stuck

/-!
# Room

A move, a fall or a jump sets a worm down only where there is room for its disc. The worm then eats
what it meets there and grows, and the terrain is not asked again. So a worm that is clear of the
terrain (`World.Clear`) may come to lie in it, but only by growing (`Simulation.not_always_clear`).
What holds in any case is that there was room for it when it was set down at the spot where it is,
before it ate there (`World.SetDown`, `Simulation.Reachable.set_down_with_room`).
-/

namespace WormBattle

variable {α β : Type} [Scalar α]

/-- How large a worm gets depends on how large it is and on its settings. -/
theorem Worm.radius_iterate_grown_congr {worm worm' : Worm α} (hradius : worm'.radius = worm.radius)
    (hconfig : worm'.config = worm.config) (n : Nat) :
    (Worm.grown^[n] worm').radius = (Worm.grown^[n] worm).radius := by
  induction n generalizing worm worm' with
  | zero => exact hradius
  | succ n ih =>
    refine ih ?_ hconfig
    show worm'.radius * worm'.config.growthFactor = worm.radius * worm.config.growthFactor
    rw [hradius, hconfig]

namespace World

/-- The worm of a number does not lie in terrain. -/
def Clear (w : World α) (id : EntityId) : Prop :=
  ∃ location, w.locationOf id = .ok location ∧ location ≠ .impassable

instance (w : World α) (id : EntityId) : Decidable (w.Clear id) :=
  match h : w.locationOf id with
  | .ok location => decidable_of_iff (location ≠ .impassable)
      ⟨fun hne => ⟨location, h, hne⟩, fun ⟨_, hlocation, hne⟩ =>
        Except.ok.inj (h.symm.trans hlocation) ▸ hne⟩
  | .error _ => .isFalse fun ⟨_, hlocation, _⟩ => nomatch h.symm.trans hlocation

private theorem clear_iff {w : World α} {worm : Worm α} {id : EntityId}
    (hworm : w.worm? id = some worm) : w.Clear id ↔ w.grid.HasRoom worm.position worm.radius := by
  rw [Clear, locationOf, requireWorm, hworm]
  rfl

/-- How a worm has got to the spot where it is. It may have eaten on its way there. When it was set
down there was room for its disc, and it then ate some rations that its disc overlapped, which are
gone. -/
structure SetDown (w w' : World α) (old before after : Worm α) (rations : List (Food α)) :
    Prop where
  size : ∃ n, before.radius = (Worm.grown^[n] old).radius
  room : w'.grid.HasRoom before.position before.radius
  listed : rations.Sublist w.food
  met : ∀ food ∈ rations, food.body.overlaps before.position before.radius = true
  gone : ∀ food ∈ rations, w'.food? food.id = none
  grown : after = Worm.grown^[rations.length] before

/-- The worm of a number has been set down, if it is still listed. -/
def SetsDown (w w' : World α) (id : EntityId) : Prop :=
  ∀ after, w'.worm? id = some after → ∃ old before rations, w.worm? id = some old ∧
    SetDown w w' old before after rations

variable {w w₁ w' : World α} {worm : Worm α} {id : EntityId}

private theorem SetsDown.of_none (h : w'.worm? id = none) : w.SetsDown w' id := by
  intro after hafter
  cases h.symm.trans hafter

/-- A worm is set down after it has eaten on its way. -/
theorem SetsDown.on_the_way (h : w₁.SetsDown w' id) (hfood : w₁.food.Sublist w.food)
    (hworm : w.worm? id = some worm) {moved : Worm α} {n : Nat}
    (hworm₁ : w₁.worm? id = some (Worm.grown^[n] moved)) (hradius : moved.radius = worm.radius)
    (hconfig : moved.config = worm.config) : w.SetsDown w' id := by
  intro after hafter
  obtain ⟨old, before, rations, hold, hdown⟩ := h after hafter
  cases hworm₁.symm.trans hold
  obtain ⟨m, hsize⟩ := hdown.size
  refine ⟨worm, before, rations, hworm, { hdown with
    size := ⟨m + n, ?_⟩
    listed := hdown.listed.trans hfood }⟩
  rw [hsize, ← Function.iterate_add_apply, Worm.radius_iterate_grown_congr hradius hconfig]

/-- A worm that has been put where there is room for it eats what it meets. -/
theorem SetsDown.fed (hworm : w.worm? worm.id = some worm) {moved : Worm α}
    (hid : moved.id = worm.id) (hradius : moved.radius = worm.radius)
    (hroom : w.grid.HasRoom moved.position moved.radius) :
    w.SetsDown (w.fed moved (w.rationsAt moved)) worm.id := by
  intro after hafter
  let rations := w.food.filter fun f => f.body.overlaps moved.position moved.radius
  have hlength : (w.rationsAt moved).length = rations.length := List.length_map _
  have hgrown : (Worm.grown^[(w.rationsAt moved).length] moved).id = worm.id :=
    (moved.same_iterate_grown _).1.trans hid
  refine ⟨worm, moved, rations, hworm, ⟨0, hradius⟩, hroom, List.filter_sublist, ?_, ?_, ?_⟩
  · exact fun food hfood => (List.mem_filter.mp hfood).2
  · intro food hfood
    refine food?_eq_none_iff.mpr fun hmem => ?_
    obtain ⟨other, hother, hsame⟩ := List.mem_map.mp hmem
    have hgone : other.id ∉ w.rationsAt moved := by simpa using (List.mem_filter.mp hother).2
    exact hgone (hsame ▸ List.mem_map_of_mem hfood)
  · rw [World.fed, worm?_setWorm, if_pos hgrown] at hafter
    have hthere : { w with food := w.food.filter fun f => f.id ∉ w.rationsAt moved }.worm?
        worm.id = some worm := hworm
    rw [hthere] at hafter
    rw [← hlength]
    exact (Option.some.inj hafter).symm

end World

namespace Command

open World

variable {s : Simulation α} {worm : Worm α} {id : EntityId}

private theorem setsDown_killWorm {w : World α} (hs : s.world.Sound)
    (hworm : s.world.worm? id = some worm) :
    (killWorm id).Ends s (fun _ s' => w.SetsDown s'.world id) fun _ _ => True :=
  (ends_killWorm hs hworm).mono (fun _ _ h => .of_none h.1) fun _ _ _ => trivial

/-- A worm that has been put where there is room for it eats what it meets. -/
theorem setsDown_eat (hworm : s.world.worm? worm.id = some worm) (moved : Worm α)
    (hs₁ : (s.world.setWorm moved).Sound) (hid : moved.id = worm.id)
    (hradius : moved.radius = worm.radius)
    (hroom : s.world.grid.HasRoom moved.position moved.radius) :
    (eat worm.id).Ends { s with world := s.world.setWorm moved }
      (fun _ s' => s'.world = s.world.fed moved (s.world.rationsAt moved) ∧
        s.world.SetsDown s'.world worm.id)
      fun _ _ => True := by
  have hmoved : (s.world.setWorm moved).worm? moved.id = some moved :=
    worm?_setWorm_self (hid ▸ hworm)
  rw [← hid]
  refine (ends_eat (s := { s with world := s.world.setWorm moved }) hs₁ hmoved).mono ?_
    fun _ _ _ => trivial
  rintro _ _ ⟨-, -, rfl⟩
  have hfed : (s.world.setWorm moved).fed moved ((s.world.setWorm moved).rationsAt moved) =
      s.world.fed moved (s.world.rationsAt moved) := fed_setWorm s.world moved _
  refine ⟨hfed, ?_⟩
  show s.world.SetsDown (World.fed _ moved _) moved.id
  rw [hfed, hid]
  exact .fed hworm hid hradius hroom

private theorem setsDown_fall (hs : s.world.Sound) (id : EntityId) :
    (fall id).Ends s (fun _ s' => s.world.SetsDown s'.world id) fun _ _ => True := by
  refine (ends_fall hs id).mono ?_ fun _ _ _ => trivial
  rintro _ s' ⟨-, -, hgone | ⟨worm, landed, hworm, hfall, hlanding, hfed⟩⟩
  · exact .of_none hgone
  · obtain rfl := id_of_worm? hworm
    have hroom := hasRoom_of_landing hworm hfall hlanding
    rw [hfed]
    exact .fed hworm rfl rfl hroom

private theorem setsDown_move (hs : s.world.Sound) (id : EntityId) :
    (move id).Ends s (fun _ s' => s.world.SetsDown s'.world id) fun _ _ => True := by
  simp only [move, ends_bind, ends_world, ends_lift, ends_requireWorm, ends_setWorm, implies_true,
    and_true]
  rintro ⟨target, cost⟩ hplan worm hworm _ - paid hpaid placed hplaced
  obtain rfl := id_of_worm? hworm
  have hroom := hasRoom_of_planMove hworm hplan
  obtain ⟨hpay, rfl⟩ := Worm.spend_eq_ok_iff.mp hpaid
  obtain ⟨-, rfl⟩ := Worm.setPosition_eq_ok_iff.mp hplaced
  let moved := (worm.paid cost).placed target
  have hs₁ : (s.world.setWorm moved).Sound :=
    hs.setWorm_twice hworm (.spend hpaid) (.setPosition hplaced)
  have htwice : (s.world.setWorm (worm.paid cost)).setWorm moved = s.world.setWorm moved :=
    setWorm_setWorm _ rfl
  show Ends _ { s with world := (s.world.setWorm (worm.paid cost)).setWorm moved } _ _
  rw [htwice, ends_ite]
  refine ⟨fun _ => ?_, fun _ => setsDown_killWorm hs₁ (worm?_setWorm_self hworm)⟩
  have halters : (eat (α := α) worm.id).Alters .leaving := (does_eat worm.id).alters
  rw [ends_bind]
  refine ((setsDown_eat hworm moved hs₁ rfl rfl hroom).and (halters _)).mono ?_
    fun _ _ _ => trivial
  rintro _ s₂ ⟨⟨hfed, hdown⟩, hchanges⟩
  simp only [ends_bind, ends_world, ends_ite, ends_pure]
  refine ⟨fun _ => ?_, fun _ => hdown⟩
  -- The worm has lost its ground: it has eaten on the way, and where it lands it is set down.
  have hgrown : s₂.world.worm? worm.id =
      some (Worm.grown^[(s.world.rationsAt moved).length] moved) := by
    have hid := (moved.same_iterate_grown (s.world.rationsAt moved).length).1
    rw [hfed, ← show _ = worm.id from hid]
    exact worm?_setWorm_self (w := { s.world with food := _ }) (hid ▸ hworm)
  have hfood : s₂.world.food.Sublist s.world.food := by
    rw [hfed]
    exact List.filter_sublist
  exact (setsDown_fall (hs₁.changes hchanges) worm.id).mono
    (fun _ _ h => h.on_the_way hfood hworm hgrown rfl rfl) fun _ _ h => h

private theorem setsDown_jumpWith (hs : s.world.Sound) (id : EntityId) (timeStep : α) :
    (jumpWith id timeStep).Ends s (fun _ s' => s.world.SetsDown s'.world id) fun _ _ => True := by
  refine (ends_jumpWith hs id timeStep).mono ?_ fun _ _ _ => trivial
  rintro _ s' ⟨worm, landing, hworm, htarget, -, hexit, hground⟩
  cases landing with
  | exit spot time => exact .of_none (hexit spot time rfl)
  | ground spot time =>
    obtain ⟨-, rfl⟩ := hground spot time rfl
    obtain rfl := id_of_worm? hworm
    have hroom := hasRoom_of_jumpTarget? hworm htarget
    exact .fed hworm rfl rfl hroom

private theorem setsDown_jump (hs : s.world.Sound) (id : EntityId) :
    (jump id).Ends s (fun _ s' => s.world.SetsDown s'.world id) fun _ _ => True := by
  rw [jump, ends_bind, ends_world]
  exact setsDown_jumpWith hs id s.world.config.timeStep

end Command

/-- The worm that an operation sets down, if it sets one down. -/
def Operation.traveller? : Operation α → Option EntityId
  | .move id | .fall id | .jump id | .jumpWith id _ => some id
  | _ => none

private theorem Operation.setsDown {s : Simulation α} {op : Operation α} {id : EntityId}
    (hs : s.world.Sound) (hop : op.traveller? = some id) :
    op.command.Ends s (fun _ s' => s.world.SetsDown s'.world id) fun _ _ => True := by
  cases op with
  | move id =>
    cases hop
    exact Command.setsDown_move hs id
  | fall id =>
    cases hop
    exact Command.setsDown_fall hs id
  | jump id =>
    cases hop
    exact Command.setsDown_jump hs id
  | jumpWith id timeStep =>
    cases hop
    exact Command.setsDown_jumpWith hs id timeStep
  | _ => cases hop

namespace Simulation

variable {s s' : Simulation α} {op : Operation α} {id : EntityId} {after : Worm α}

/-- **A worm is set down only where there is room for it**: before it eats there. If it eats nothing
there, then it does not lie in terrain when the operation is done. -/
theorem Reachable.set_down_with_room (hs : s.Reachable) (hop : op.traveller? = some id)
    (hdone : op.command.carryOut s = (.ok (), s')) (hafter : s'.world.worm? id = some after) :
    ∃ old before rations, s.world.worm? id = some old ∧
      s.world.SetDown s'.world old before after rations ∧
      (rations = [] → s'.world.Clear id) := by
  have hends := op.setsDown hs.sound hop
  obtain ⟨old, before, rations, hold, hdown⟩ := hends.of_ok hdone after hafter
  refine ⟨old, before, rations, hold, hdown, ?_⟩
  rintro rfl
  obtain rfl : after = before := hdown.grown
  exact (World.clear_iff hafter).mpr hdown.room

/-- A worm that stands on flat ground, one step away from a ration. -/
def larder : Simulation Rat :=
  let ground : TerrainGrid Rat :=
    { TerrainGrid.empty 10 10 with
      rows := 2
      cols := 1
      cells := #[true, false]
      size_cells := rfl }
  let start : Simulation Rat := { world := .fresh ⟨1⟩ ground default, ids := ⟨3⟩ }
  start.after [.addWorm (.fresh "Ann" ⟨5, 5.5⟩ 0 0.5 default ⟨1⟩),
    .addFood ⟨⟨⟨2⟩, ⟨5.5, 5.5⟩, 0.2, leastRadius, .detached⟩⟩]

private theorem reachable_larder : larder.Reachable := by
  refine (Reachable.onGrid ⟨3⟩ (World.onGrid_eq_ok_iff.mpr ⟨?_, rfl⟩)).after
    ⟨⟨.make (Worm.make_eq_ok_iff.mpr ⟨?_, ?_, ?_, rfl⟩), ?_⟩, ?_, trivial⟩
  case refine_6 =>
    show 2 < _
    decide +kernel
  all_goals decide +kernel

private theorem carryOut_move_larder :
    (Operation.move ⟨1⟩).command.carryOut larder = (.ok (), larder.after [.move ⟨1⟩]) := by
  have hdone : ((Operation.move ⟨1⟩).command.carryOut larder).1.isOk = true := by decide +kernel
  obtain ⟨⟨⟩, hmoved⟩ := Command.exists_of_isOk hdone
  exact hmoved

/-- The worm steps on the ration, where there is room for it, and comes to lie in the ground by
eating it. -/
theorem set_down_larder : ∃ old before after rations,
    larder.world.worm? ⟨1⟩ = some old ∧ (larder.after [.move ⟨1⟩]).world.worm? ⟨1⟩ = some after ∧
      larder.world.SetDown (larder.after [.move ⟨1⟩]).world old before after rations ∧
      rations ≠ [] := by
  have hthere : ((larder.after [.move ⟨1⟩]).world.worm? ⟨1⟩).isSome = true := by decide +kernel
  obtain ⟨after, hafter⟩ := Option.isSome_iff_exists.mp hthere
  obtain ⟨old, before, rations, hold, hdown, hclear⟩ :=
    reachable_larder.set_down_with_room rfl carryOut_move_larder hafter
  have hin : ¬(larder.after [.move ⟨1⟩]).world.Clear ⟨1⟩ := by decide +kernel
  exact ⟨old, before, after, rations, hold, hafter, hdown, mt hclear hin⟩

/-- A worm that was not in terrain may be in terrain when it has moved, for it may have grown. -/
theorem not_always_clear : ¬∀ (s s' : Simulation Rat) (op : Operation Rat) (id : EntityId),
    s.Reachable → op.traveller? = some id → op.command.carryOut s = (.ok (), s') →
      s.world.Clear id → (s'.world.worm? id).isSome = true → s'.world.Clear id := by
  intro h
  have hclear : larder.world.Clear ⟨1⟩ := by decide +kernel
  have hthere : ((larder.after [.move ⟨1⟩]).world.worm? ⟨1⟩).isSome = true := by decide +kernel
  have hin : ¬(larder.after [.move ⟨1⟩]).world.Clear ⟨1⟩ := by decide +kernel
  exact hin (h _ _ _ _ reachable_larder rfl carryOut_move_larder hclear hthere)

end Simulation

end WormBattle
