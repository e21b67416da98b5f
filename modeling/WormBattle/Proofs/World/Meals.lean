import WormBattle.Proofs.World.Eating
import WormBattle.Proofs.World.Points
import WormBattle.Proofs.World.Registered

/-!
# What a meal takes

A worm eats what its disc overlapped before the first bite, although it grows with every ration
(`Simulation.Reachable.eat_touched`). Each of these rations is taken out of the world and handed
back terminated, one after the other (`Command.Eats`), all others stay, and the worm is as it was
but for its radius and its points (`Worm.Fed`). The points are cut down anew with each radius;
nothing more is needed for them to respect the last maxima, or for them not to have risen.
-/

namespace WormBattle

variable {α : Type} [Scalar α]

namespace Worm

/-- The worm with another radius and other points. -/
def resized (worm : Worm α) (radius : α) (actionPoints hitPoints : Nat) : Worm α :=
  { worm with body := { worm.body with radius }, actionPoints, hitPoints }

/-- A worm has grown on a number of rations and is otherwise the same. -/
structure Fed (worm : Worm α) (rations : Nat) (worm' : Worm α) : Prop where
  /-- The radius has been multiplied once for each ration. -/
  radius : worm'.radius = (· * worm.config.growthFactor)^[rations] worm.radius
  /-- Nothing but the radius and the points is different. -/
  same : worm' = worm.resized worm'.radius worm'.actionPoints worm'.hitPoints
  /-- The points have not risen. -/
  noGain : worm.NoGain worm'
  /-- The radius is legal, and the points are within their maxima. -/
  inBounds : worm'.InBounds

variable {worm worm' : Worm α} {rations : Nat}

private theorem Fed.id_eq (h : worm.Fed rations worm') : worm'.id = worm.id := by
  rw [h.same]
  rfl

/-- One more ration. -/
theorem Fed.grown (h : worm.Fed rations worm') (hgrow : worm'.CanGrow) :
    worm.Fed (rations + 1) worm'.grown := by
  have hchange : worm'.Change worm'.grown := .grow (grow_eq_ok_iff.mpr ⟨hgrow, rfl⟩)
  have hconfig : worm'.config = worm.config := by
    rw [h.same]
    rfl
  refine ⟨?_, ?_, h.noGain.trans hchange.noGain, h.inBounds.change hchange⟩
  · rw [Function.iterate_succ_apply', ← h.radius, ← hconfig]
    rfl
  · exact congrArg (fun w => w.resized worm'.grown.radius worm'.grown.actionPoints
      worm'.grown.hitPoints) h.same

private theorem fed_iterate_grown (h : worm.InBounds) (hchokes : ¬worm.Chokes rations) :
    worm.Fed rations (Worm.grown^[rations] worm) := by
  induction rations with
  | zero => exact ⟨rfl, rfl, .refl _, h⟩
  | succ n ih =>
    have hcan : ∀ k < n + 1, (Worm.grown^[k] worm).CanGrow := by
      simpa [Chokes] using hchokes
    rw [Function.iterate_succ_apply']
    refine (ih ?_).grown (hcan n (Nat.lt_succ_self n))
    rintro ⟨k, hk, hstuck⟩
    exact hstuck (hcan k (Nat.lt_succ_of_lt hk))

end Worm

/-- The ration when it has been eaten. -/
def Food.eaten (food : Food α) : Food α :=
  { food with body := { food.body with membership := .terminated } }

/-- A worm eats rations one after the other: each is taken out of the world and handed back, and the
worm grows. -/
inductive Command.Eats (id : EntityId) : Simulation α → List (Food α) → Simulation α → Prop where
  /-- Nothing is left to eat. -/
  | done (s : Simulation α) : Eats id s [] s
  /-- One ration is eaten. -/
  | next {s s' s'' : Simulation α} {food : Food α} {rest : List (Food α)} {worm : Worm α} :
      (removeFood food.id).carryOut s = (.ok food, s') → s'.world.worm? id = some worm →
      worm.CanGrow → Eats id { s' with world := s'.world.setWorm worm.grown } rest s'' →
      Eats id s (food :: rest) s''

namespace Command

variable {s s' : Simulation α} {worm : Worm α} {rations : List (Food α)} {id : EntityId}

omit [Scalar α] in
/-- A listed ration is handed back when it is taken out. -/
theorem carryOut_removeFood {food : Food α} (h : s.world.food? food.id = some food)
    (hmember : food.body.membership = .member s.world.id) :
    (removeFood food.id).carryOut s = (.ok food.eaten, { s with world :=
      { s.world with food := s.world.food.eraseP fun f => f.id = food.id } }) := by
  refine Ends.of_end (P := fun r => r = (.ok food.eaten, { s with world :=
    { s.world with food := s.world.food.eraseP fun f => f.id = food.id } })) ?_
  refine ends_removeFood.mpr ⟨fun f hf => ?_, fun hnone => ?_⟩
  · cases h.symm.trans hf
    rw [Body.terminate_detach hmember]
    exact ⟨by rintro _ ⟨⟩; rfl, nofun⟩
  · cases h.symm.trans hnone

private theorem ends_eatEach_eats (hs : s.world.Sound) (hrations : (rations.map Food.id).Nodup)
    (hlisted : ∀ food ∈ rations, food ∈ s.world.food) :
    (eatEach id (rations.map Food.id)).Ends s (fun _ s' => Eats id s (rations.map Food.eaten) s')
      fun _ _ => True := by
  induction rations generalizing s with
  | nil => exact ends_pure.mpr (.done s)
  | cons food rations ih =>
    obtain ⟨hnew, hrations⟩ := List.nodup_cons.mp hrations
    obtain ⟨hhere, hlisted⟩ := List.forall_mem_cons.mp hlisted
    have hfound := World.food?_of_mem hs.foodNodup hhere
    have htaken := carryOut_removeFood hfound (hs.foodMember food hhere)
    rw [List.map_cons, eatEach, ends_bind, Ends, htaken]
    simp only [ends_bind, ends_requireWorm, ends_lift, ends_setWorm, implies_true, and_true]
    refine fun worm hworm large hlarge => ?_
    obtain ⟨hgrow, rfl⟩ := Worm.grow_eq_ok_iff.mp hlarge
    -- The rations that are left are still in the world, for their numbers are others.
    have hleft : ∀ f ∈ rations, f ∈ s.world.food.eraseP fun f => f.id = food.id := by
      intro f hf
      have hother : f.id ≠ food.id := fun heq => hnew (heq ▸ List.mem_map_of_mem hf)
      exact (List.mem_eraseP_of_neg (by simpa using hother)).mpr (hlisted f hf)
    have htaking : s.world.Change .leaving _ := .removeFood hfound
    have hsound := (hs.change htaking).setWorm (World.worm?_self hworm) (.grow hlarge)
    exact (ih hsound hrations hleft).mono (fun _ _ heats => .next htaken hworm hgrow heats)
      fun _ _ _ => trivial

/-- A listed worm eats what its disc overlaps before it eats. -/
theorem ends_eat_eats (hs : s.world.Sound) (hworm : s.world.worm? id = some worm) :
    (eat id).Ends s
      (fun _ s' => Eats id s ((s.world.food.filter fun food =>
        food.body.overlaps worm.position worm.radius).map Food.eaten) s')
      fun _ _ => True := by
  simp only [eat, ends_bind, ends_requireWorm, ends_world, ends_pure, implies_true, and_true]
  intro worm' hworm'
  cases hworm.symm.trans hworm'
  exact ends_eatEach_eats hs (hs.foodNodup.sublist (List.filter_sublist.map Food.id))
    fun food hfood => List.mem_of_mem_filter hfood

end Command

namespace World

variable {w : World α} {worm : Worm α}

/-- The rations that are left are those whose discs the worm's disc did not overlap. -/
theorem filter_notMem_rationsAt (h : (w.food.map Food.id).Nodup) (worm : Worm α) :
    (w.food.filter fun food => food.id ∉ w.rationsAt worm) =
      w.food.filter fun food => !food.body.overlaps worm.position worm.radius := by
  refine List.filter_congr fun food hfood => ?_
  have hmem : food.id ∈ w.rationsAt worm ↔ food.body.overlaps worm.position worm.radius := by
    constructor
    · intro hid
      obtain ⟨other, hother, hsame⟩ := List.mem_map.mp hid
      obtain ⟨hlisted, hoverlaps⟩ := List.mem_filter.mp hother
      rwa [← List.inj_on_of_nodup_map h hlisted hfood hsame]
    · exact fun hoverlaps => List.mem_map_of_mem (List.mem_filter.mpr ⟨hfood, hoverlaps⟩)
  simp [hmem]

end World

namespace Simulation

variable {s s' : Simulation α} {worm : Worm α} {id : EntityId} {n : Nat}

/-- **A meal takes exactly what is touched.** When a listed worm of a reachable world has eaten,
exactly the rations that its disc overlapped before are gone, each of them handed back terminated,
and the number of them is the result. The worm has grown once for each, to a legal radius and
without gaining points, and is otherwise as it was. Nothing else in the world is different. -/
theorem Reachable.eat_touched (h : s.Reachable) (hworm : s.world.worm? id = some worm)
    (heat : (Command.eat id).carryOut s = (.ok n, s')) :
    let touched := s.world.food.filter fun food => food.body.overlaps worm.position worm.radius
    let untouched := s.world.food.filter fun food =>
      !food.body.overlaps worm.position worm.radius
    n = touched.length ∧ Command.Eats id s (touched.map Food.eaten) s' ∧
      ∃ worm', worm.Fed n worm' ∧
        s' = { s with world := { s.world with food := untouched }.setWorm worm' } := by
  intro touched untouched
  obtain rfl := World.id_of_worm? hworm
  obtain ⟨hchokes, rfl, hs'⟩ := (Command.ends_eat h.sound hworm).of_ok heat
  have heats := (Command.ends_eat_eats h.sound hworm).of_ok heat
  have hcount : (s.world.rationsAt worm).length = touched.length := List.length_map _
  have hbounds := (h.sound.made worm (World.mem_of_worm? hworm)).inBounds
  refine ⟨hcount, heats, _, Worm.fed_iterate_grown hbounds hchokes, ?_⟩
  rw [hs', World.fed, World.filter_notMem_rationsAt h.sound.foodNodup]

omit [Scalar α] in
/-- A worm among three rations, two of which it touches. -/
def banquet : Simulation Rat :=
  let ration (id : EntityId) (x : Rat) : Food Rat := ⟨⟨id, ⟨x, 5⟩, 0.2, leastRadius, .detached⟩⟩
  let start : Simulation Rat := { world := .fresh ⟨1⟩ (.empty 100 100) default, ids := ⟨5⟩ }
  start.after [.addWorm (.fresh "Ann" ⟨5, 5⟩ 0 0.5 default ⟨1⟩), .addFood (ration ⟨2⟩ 5.5),
    .addFood (ration ⟨3⟩ 5.7), .addFood (ration ⟨4⟩ 4.5)]

private theorem reachable_banquet : banquet.Reachable := by
  have hmade : (Worm.fresh "Ann" ⟨5, 5⟩ 0 0.5 default ⟨1⟩ : Worm Rat).Made := by
    refine .make (Worm.make_eq_ok_iff.mpr ⟨?_, ?_, ?_, rfl⟩)
    all_goals decide +kernel
  have hlate : ∀ n < 5, n < banquet.ids.next := by decide +kernel
  refine (Reachable.onGrid ⟨5⟩ (World.onGrid_eq_ok_iff.mpr ⟨by decide +kernel, rfl⟩)).after
    ⟨⟨hmade, hlate 1 ?_⟩, hlate 2 ?_, hlate 3 ?_, hlate 4 ?_, trivial⟩
  all_goals omega

/-- A ration that the worm touches only when it has grown is left. -/
theorem eat_touched_banquet : ∃ worm worm' s',
    banquet.world.worm? ⟨1⟩ = some worm ∧ (Command.eat ⟨1⟩).carryOut banquet = (.ok 2, s') ∧
      worm.Fed 2 worm' ∧ s'.world.worm? ⟨1⟩ = some worm' ∧ s'.world.food.map Food.id = [⟨3⟩] ∧
      ∀ food ∈ s'.world.food, food.body.overlaps worm'.position worm'.radius := by
  obtain ⟨worm, hworm⟩ : ∃ worm, banquet.world.worm? ⟨1⟩ = some worm :=
    Option.isSome_iff_exists.mp (by decide +kernel)
  obtain ⟨n, heat⟩ : ∃ n, (Command.eat ⟨1⟩).carryOut banquet =
      (.ok n, ((Command.eat ⟨1⟩).carryOut banquet).2) := Command.exists_of_isOk (by decide +kernel)
  have htwo : ((Command.eat ⟨1⟩).carryOut banquet).1.toOption = some 2 := by decide +kernel
  rw [heat] at htwo
  obtain rfl := Option.some.inj htwo
  obtain ⟨-, -, worm', hfed, hs'⟩ := reachable_banquet.eat_touched hworm heat
  have hlisted : ((Command.eat ⟨1⟩).carryOut banquet).2.world.worm? ⟨1⟩ = some worm' := by
    have hid : worm'.id = ⟨1⟩ := hfed.id_eq.trans (World.id_of_worm? hworm)
    rw [hs', ← hid]
    exact World.worm?_setWorm_self (hid ▸ hworm)
  have htouches : ((((Command.eat ⟨1⟩).carryOut banquet).2.world.worm? ⟨1⟩).all fun worm =>
      ((Command.eat ⟨1⟩).carryOut banquet).2.world.food.all fun food =>
        food.body.overlaps worm.position worm.radius) = true := by
    decide +kernel
  rw [hlisted] at htouches
  exact ⟨worm, worm', _, hworm, heat, hfed, hlisted, by decide +kernel,
    List.all_eq_true.mp htouches⟩

end Simulation

end WormBattle
