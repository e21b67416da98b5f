import Mathlib.Logic.Function.Iterate
import WormBattle.Proofs.World.Carrying
import WormBattle.Proofs.World.Change
import WormBattle.Proofs.World.Sound

/-!
# Eating

A worm eats the rations that its disc overlaps one after the other and grows each time. Nothing
makes sure beforehand that it may have the sizes that it comes to: a worm **chokes** on a ration if
it may not grow any more (`Worm.Chokes`). In a sound world eating is refused only for that, and
then the rations up to that one are gone (`Command.ends_eat`). Otherwise exactly the overlapped
rations are gone, and the worm has grown as often (`World.fed`).
-/

namespace WormBattle

variable {α : Type} [Scalar α]

/-- The worm may not have a size that it comes to on that many rations. -/
def Worm.Chokes (worm : Worm α) (rations : Nat) : Prop :=
  ∃ k < rations, ¬(Worm.grown^[k] worm).CanGrow

namespace Worm

variable {worm : Worm α} {rations : Nat}

instance : Decidable (worm.Chokes rations) :=
  inferInstanceAs (Decidable (∃ k < rations, _))

private theorem not_chokes_zero : ¬worm.Chokes 0 :=
  fun ⟨_, h, _⟩ => Nat.not_lt_zero _ h

/-- A worm chokes on the first ration or on a later one. -/
theorem chokes_succ_iff :
    worm.Chokes (rations + 1) ↔ ¬worm.CanGrow ∨ worm.grown.Chokes rations := by
  constructor
  · rintro ⟨k, hk, hstuck⟩
    cases k with
    | zero => exact .inl hstuck
    | succ k => exact .inr ⟨k, Nat.lt_of_succ_lt_succ hk, hstuck⟩
  · rintro (hstuck | ⟨k, hk, hstuck⟩)
    · exact ⟨0, Nat.zero_lt_succ _, hstuck⟩
    · exact ⟨k + 1, Nat.succ_lt_succ hk, hstuck⟩

/-- However often a worm has grown, its number and its standing are the same. -/
theorem same_iterate_grown (worm : Worm α) (n : Nat) :
    (Worm.grown^[n] worm).id = worm.id ∧
      (Worm.grown^[n] worm).body.membership = worm.body.membership := by
  induction n generalizing worm with
  | zero => exact ⟨rfl, rfl⟩
  | succ n ih => exact ih worm.grown

end Worm

namespace World

/-- The rations that a worm's disc overlaps. -/
def rationsAt (w : World α) (worm : Worm α) : List EntityId :=
  (w.food.filter fun f => f.body.overlaps worm.position worm.radius).map Food.id

/-- The worm chokes on the rations that its disc overlaps. -/
def Chokes (w : World α) (worm : Worm α) : Prop :=
  worm.Chokes (w.rationsAt worm).length

instance (w : World α) (worm : Worm α) : Decidable (w.Chokes worm) :=
  inferInstanceAs (Decidable (worm.Chokes _))

/-- The world after a worm has eaten some rations. -/
def fed (w : World α) (worm : Worm α) (rations : List EntityId) : World α :=
  { w with food := w.food.filter fun f => f.id ∉ rations }.setWorm
    (Worm.grown^[rations.length] worm)

variable {w w' w'' : World α} {worm worm' : Worm α} {id : EntityId} {rations : List EntityId}

/-- The same worms are listed, in the same order and standing, and the turn is where it was. -/
structure SameWorms (w w' : World α) : Prop where
  id : w'.id = w.id
  state : w'.state = w.state
  worms : w'.worms.map (fun x => (x.id, x.body.membership)) =
    w.worms.map fun x => (x.id, x.body.membership)

omit [Scalar α] in
/-- A world has its own worms. -/
theorem SameWorms.refl (w : World α) : w.SameWorms w :=
  ⟨rfl, rfl, rfl⟩

omit [Scalar α] in
/-- Worlds with the same worms, one after the other. -/
theorem SameWorms.trans (h : w.SameWorms w') (h' : w'.SameWorms w'') : w.SameWorms w'' :=
  ⟨h'.id.trans h.id, h'.state.trans h.state, h'.worms.trans h.worms⟩

omit [Scalar α] in
/-- Writing a worm back in its standing keeps the worms. -/
theorem SameWorms.setWorm (h : w.worm? worm'.id = some worm)
    (hmembership : worm'.body.membership = worm.body.membership) :
    w.SameWorms (w.setWorm worm') := by
  refine ⟨rfl, rfl, map_replaceWorm _ fun found hfound => ?_⟩
  cases h.symm.trans hfound
  rw [id_of_worm? h, hmembership]

omit [Scalar α] in
/-- A worm that is listed stays listed, and so does its standing. -/
theorem SameWorms.worm? (h : w.SameWorms w') (hworm : w.worm? id = some worm) :
    ∃ worm', w'.worm? id = some worm' ∧ worm'.body.membership = worm.body.membership := by
  have hfind : ∀ w : World α, (w.worms.map fun x => (x.id, x.body.membership)).find?
      (fun x => x.1 = id) = (w.worm? id).map fun x => (x.id, x.body.membership) :=
    fun w => List.find?_map
  have hsame := (hfind w').symm.trans ((congrArg _ h.worms).trans (hfind w))
  rw [hworm] at hsame
  obtain ⟨worm', hworm', heq⟩ := Option.map_eq_some_iff.mp hsame
  exact ⟨worm', hworm', (Prod.mk.inj heq).2⟩

/-- A meal keeps the worms. -/
theorem SameWorms.fed (h : w.worm? worm.id = some worm) : w.SameWorms (w.fed worm rations) := by
  obtain ⟨hid, hmembership⟩ := worm.same_iterate_grown rations.length
  exact ⟨rfl, rfl, (SameWorms.setWorm (hid ▸ h) hmembership).worms⟩

/-- A worm that has been replaced eats as if it had been listed before. -/
theorem fed_setWorm (w : World α) (worm : Worm α) (rations : List EntityId) :
    (w.setWorm worm).fed worm rations = w.fed worm rations := by
  have hworms : replaceWorm (Worm.grown^[rations.length] worm) (replaceWorm worm w.worms) =
      replaceWorm (Worm.grown^[rations.length] worm) w.worms :=
    replaceWorm_replaceWorm w.worms (worm.same_iterate_grown rations.length).1
  simp only [fed, setWorm, hworms]

/-! ### Taking rations out -/

omit [Scalar α] in
private theorem eraseP_eq_filter {rations : List (Food α)} (h : (rations.map Food.id).Nodup)
    (id : EntityId) : rations.eraseP (fun f => f.id = id) = rations.filter fun f => f.id ≠ id := by
  induction rations with
  | nil => rfl
  | cons f rations ih =>
    obtain ⟨hnew, hrest⟩ := List.nodup_cons.mp h
    by_cases hf : f.id = id
    · rw [List.eraseP_cons_of_pos (by simpa using hf), List.filter_cons_of_neg (by simpa using hf)]
      refine (List.filter_eq_self.mpr fun g hg => ?_).symm
      have hne : g.id ≠ id := fun hg' => hnew (List.mem_map.mpr ⟨g, hg, hg'.trans hf.symm⟩)
      simpa using hne
    · rw [List.eraseP_cons_of_neg (by simpa using hf), List.filter_cons_of_pos (by simpa using hf),
        ih hrest]

/-- One ration eaten and then the others. -/
theorem fed_cons (h : (w.food.map Food.id).Nodup) (food : EntityId) :
    ({ w with food := w.food.eraseP fun f => f.id = food }.setWorm worm.grown).fed worm.grown
      rations = w.fed worm (food :: rations) := by
  have hworms : replaceWorm (Worm.grown^[rations.length] worm.grown)
      (replaceWorm worm.grown w.worms) =
      replaceWorm (Worm.grown^[(food :: rations).length] worm) w.worms :=
    replaceWorm_replaceWorm _ (Worm.same_iterate_grown worm.grown _).1
  have hfood : (w.food.filter fun f => f.id ≠ food).filter (fun f => f.id ∉ rations) =
      w.food.filter fun f => f.id ∉ food :: rations := by
    rw [List.filter_filter]
    refine List.filter_congr fun f _ => ?_
    by_cases hf : f.id = food <;> simp [hf]
  simp only [fed, setWorm, eraseP_eq_filter h, hworms, hfood]

end World

omit [Scalar α] in
/-- What was listed can be terminated. -/
theorem Body.terminate_detach {b : Body α} {world : WorldId} (h : b.membership = .member world) :
    b.detach.terminate = .ok { b with membership := .terminated } := by
  simp [detach, terminate, h]

namespace Command

variable {s : Simulation α} {worm : Worm α} {rations : List EntityId}

private theorem ends_eatEach (hworm : s.world.worm? worm.id = some worm)
    (hnodup : (s.world.food.map Food.id).Nodup)
    (hmember : ∀ food ∈ s.world.food, food.body.membership = .member s.world.id)
    (hrations : rations.Nodup) (hfood : ∀ id ∈ rations, id ∈ s.world.food.map Food.id) :
    (eatEach worm.id rations).Ends s
      (fun _ s' => ¬worm.Chokes rations.length ∧
        s' = { s with world := s.world.fed worm rations })
      (fun _ s' => worm.Chokes rations.length ∧ s'.world.food.length < s.world.food.length ∧
        s.world.SameWorms s'.world) := by
  induction rations generalizing s worm with
  | nil =>
    refine ends_pure.mpr ⟨Worm.not_chokes_zero, ?_⟩
    have hsame : s.world.fed worm [] = s.world := by
      rw [World.fed]
      simpa using World.setWorm_self hworm
    rw [hsame]
  | cons food rations ih =>
    obtain ⟨hnew, hrations⟩ := List.nodup_cons.mp hrations
    obtain ⟨hhere, hfood⟩ := List.forall_mem_cons.mp hfood
    have hfewer : (s.world.food.eraseP fun f => f.id = food).length < s.world.food.length := by
      obtain ⟨f, hf, hid⟩ := List.mem_map.mp hhere
      have hpos := List.length_pos_of_mem hf
      rw [List.length_eraseP_of_mem hf (by simpa using hid)]
      omega
    simp only [eatEach, ends_bind, ends_removeFood, ends_requireWorm, ends_lift, ends_setWorm]
    refine ⟨fun f hf => ⟨fun _ _ => ⟨fun worm' hworm' => ⟨fun large hlarge => ?_, fun e he => ?_⟩,
      fun hnone => ?_⟩, fun e he => ?_⟩,
      fun hnone => absurd hhere (World.food?_eq_none_iff.mp hnone)⟩
    · cases hworm.symm.trans hworm'
      obtain ⟨hgrow, rfl⟩ := Worm.grow_eq_ok_iff.mp hlarge
      have hlisted : ({ s.world with food := s.world.food.eraseP fun f => f.id = food }.setWorm
          worm.grown).worm? worm.grown.id = some worm.grown := World.worm?_setWorm_self hworm
      have hleft : ∀ id ∈ rations,
          id ∈ (s.world.food.eraseP fun f => f.id = food).map Food.id := by
        intro id hid
        obtain ⟨g, hg, rfl⟩ := List.mem_map.mp (hfood id hid)
        have hne : g.id ≠ food := fun heq => hnew (heq ▸ hid)
        rw [World.eraseP_eq_filter hnodup]
        exact List.mem_map_of_mem (List.mem_filter.mpr ⟨hg, by simpa using hne⟩)
      -- The other rations are still there, and the worm is listed with its new radius.
      refine (ih (s := { s with world := World.setWorm _ worm.grown }) hlisted
        (hnodup.sublist (List.eraseP_sublist.map _))
        (fun g hg => hmember g (List.mem_of_mem_eraseP hg)) hrations hleft).mono ?_ ?_
      · rintro _ s' ⟨hchokes, rfl⟩
        refine ⟨fun h => ?_, ?_⟩
        · exact (Worm.chokes_succ_iff.mp h).elim (fun h => h hgrow) hchokes
        · exact congrArg (fun w => { s with world := w }) (World.fed_cons hnodup food)
      · rintro _ s' ⟨hchokes, hless, hsame⟩
        refine ⟨Worm.chokes_succ_iff.mpr (.inr hchokes), Nat.lt_trans hless hfewer, ?_⟩
        have hgrown : s.world.SameWorms (s.world.setWorm worm.grown) := .setWorm hworm rfl
        exact ⟨hsame.id, hsame.state, hsame.worms.trans hgrown.worms⟩
    · cases hworm.symm.trans hworm'
      have hstuck : ¬worm.CanGrow := fun hgrow => by
        rw [Worm.grow_eq_ok_iff.mpr ⟨hgrow, rfl⟩] at he
        cases he
      exact ⟨Worm.chokes_succ_iff.mpr (.inl hstuck), hfewer, ⟨rfl, rfl, rfl⟩⟩
    · cases hworm.symm.trans hnone
    · rw [Body.terminate_detach (hmember f (List.mem_of_find?_eq_some hf))] at he
      cases he

/-- **Eating** is refused exactly if the worm chokes, and then something has been eaten. -/
theorem ends_eat (hs : s.world.Sound) (hworm : s.world.worm? worm.id = some worm) :
    (eat worm.id).Ends s
      (fun n s' => ¬s.world.Chokes worm ∧ n = (s.world.rationsAt worm).length ∧
        s' = { s with world := s.world.fed worm (s.world.rationsAt worm) })
      (fun _ s' => s.world.Chokes worm ∧ s'.world.food.length < s.world.food.length ∧
        s.world.SameWorms s'.world) := by
  simp only [eat, ends_bind, ends_requireWorm, ends_world, ends_pure]
  refine ⟨fun worm' hworm' => ?_, fun hnone => ?_⟩
  · cases hworm.symm.trans hworm'
    have hsub : (s.world.rationsAt worm).Sublist (s.world.food.map Food.id) :=
      List.filter_sublist.map Food.id
    refine (ends_eatEach hworm hs.foodNodup hs.foodMember (hs.foodNodup.sublist hsub)
      fun id hid => hsub.subset hid).mono ?_ fun _ _ h => h
    rintro _ s' ⟨hchokes, rfl⟩
    exact ⟨hchokes, rfl, rfl⟩
  · cases hworm.symm.trans hnone

end Command

end WormBattle
