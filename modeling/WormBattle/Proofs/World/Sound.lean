import Mathlib.Data.List.Nodup
import WormBattle.Proofs.World.Change
import WormBattle.Proofs.World.Lookup
import WormBattle.World.Turn

/-!
# Sound worlds

What holds of a world at all times (`World.Sound`): its entities have come about by their own
operations and are listed by it, no two worms and no two rations have the same number, and the turn
is at a place of the turn order, or at its end if the worm that had the turn was the last one and
has left. Every change keeps a world sound, and so does every turn.
-/

namespace WormBattle

variable {α : Type} [Scalar α]

namespace Turn

/-- The turn is at a place of a turn order of that length, or its worm has left. -/
def Within (turn : Turn) (count : Nat) : Prop :=
  turn.index ≤ count ∧ (turn.currentRemoved = false → turn.index < count)

variable {turn : Turn} {count index : Nat}

private theorem Within.add (h : turn.Within count) : turn.Within (count + 1) :=
  ⟨Nat.le_succ_of_le h.1, fun hcurrent => Nat.lt_succ_of_lt (h.2 hcurrent)⟩

/-- The turn stays at a place when a worm leaves. -/
theorem Within.removed (h : turn.Within count) (hindex : index < count) :
    (turn.removed index).Within (count - 1) := by
  obtain ⟨hle, hlt⟩ := h
  rw [Turn.removed]
  split
  · refine ⟨?_, fun hcurrent => ?_⟩
    · show turn.index - 1 ≤ count - 1
      omega
    · show turn.index - 1 < count - 1
      have := hlt hcurrent
      omega
  · split
    · refine ⟨?_, nofun⟩
      show turn.index ≤ count - 1
      omega
    · refine ⟨by omega, fun hcurrent => ?_⟩
      have := hlt hcurrent
      omega

end Turn

namespace World

/-- What holds of a world at all times. -/
structure Sound (w : World α) : Prop where
  config : w.config.check = .ok ()
  made : ∀ worm ∈ w.worms, worm.Made
  member : ∀ worm ∈ w.worms, worm.body.membership = .member w.id
  nodup : (w.worms.map Worm.id).Nodup
  foodMember : ∀ food ∈ w.food, food.body.membership = .member w.id
  foodNodup : (w.food.map Food.id).Nodup
  projectileMember : ∀ p, w.projectile = some p → p.body.membership = .member w.id
  turn : ∀ turn, w.state = .inProgress turn → turn.Within w.worms.length

variable {traffic : Traffic} {w w' : World α} {worm worm' : Worm α} {id : EntityId}

/-! ### Worms -/

omit [Scalar α] in
/-- The worm that is found is listed. -/
theorem mem_of_worm? (h : w.worm? id = some worm) : worm ∈ w.worms :=
  List.mem_of_find?_eq_some h

omit [Scalar α] in
/-- The numbers of the worms stay when one is replaced. -/
theorem length_replaceWorm (worms : List (Worm α)) (worm : Worm α) :
    (replaceWorm worm worms).length = worms.length := by
  simpa using congrArg List.length (map_id_replaceWorm worms worm)

omit [Scalar α] in
/-- After a worm is written back, every worm is that one or was listed before. -/
theorem eq_or_mem_of_mem_replaceWorm {worms : List (Worm α)} (h : worm' ∈ replaceWorm worm worms) :
    worm' = worm ∨ worm' ∈ worms := by
  induction worms with
  | nil => cases h
  | cons w worms ih =>
    rw [replaceWorm] at h
    split at h
    · exact (List.mem_cons.mp h).imp_right (List.mem_cons_of_mem w)
    · rcases List.mem_cons.mp h with rfl | h
      · exact .inr List.mem_cons_self
      · exact (ih h).imp_right (List.mem_cons_of_mem w)

omit [Scalar α] in
/-- No worm is found under a number if no listed worm has it. -/
theorem worm?_eq_none_iff : w.worm? id = none ↔ id ∉ w.worms.map Worm.id := by
  simp [worm?]

omit [Scalar α] in
/-- A worm is found under a number if a listed worm has it. -/
theorem isSome_worm?_iff : (w.worm? id).isSome ↔ id ∈ w.worms.map Worm.id := by
  rw [Option.isSome_iff_ne_none, ne_eq, worm?_eq_none_iff, not_not]

/-- A listed worm is found by its number. -/
theorem Sound.worm?_of_mem (h : w.Sound) (hmem : worm ∈ w.worms) :
    w.worm? worm.id = some worm := by
  obtain ⟨other, hother⟩ : ∃ other, w.worm? worm.id = some other := by
    rw [← Option.isSome_iff_exists, isSome_worm?_iff]
    exact List.mem_map_of_mem hmem
  have heq : other = worm :=
    List.inj_on_of_nodup_map h.nodup (mem_of_worm? hother) hmem
      (by simpa using List.find?_some hother)
  rw [hother, heq]

/-! ### Rations -/

omit [Scalar α] in
/-- A ration that is put in comes to the others. -/
theorem insertFood_perm (food : Food α) (rations : List (Food α)) :
    (insertFood food rations).Perm (food :: rations) := by
  induction rations with
  | nil => exact .refl _
  | cons f rations ih =>
    rw [insertFood]
    split
    · exact .refl _
    · exact (ih.cons f).trans (.swap food f rations)

omit [Scalar α] in
/-- No ration is found under a number if no listed ration has it. -/
theorem food?_eq_none_iff : w.food? id = none ↔ id ∉ w.food.map Food.id := by
  simp [food?]

/-! ### Changes -/

/-- A listed worm may change. -/
theorem Sound.setWorm (h : w.Sound) (hworm : w.worm? worm.id = some worm)
    (hchange : worm.Change worm') : (w.setWorm worm').Sound := by
  have hmem := mem_of_worm? hworm
  refine { h with made := ?_, member := ?_, nodup := ?_, turn := ?_ }
  · intro x hx
    rcases eq_or_mem_of_mem_replaceWorm hx with rfl | hx
    · exact (h.made worm hmem).change hchange
    · exact h.made x hx
  · intro x hx
    rcases eq_or_mem_of_mem_replaceWorm hx with rfl | hx
    · rw [hchange.membership_eq]
      exact h.member worm hmem
    · exact h.member x hx
  · show ((replaceWorm worm' w.worms).map Worm.id).Nodup
    rw [map_id_replaceWorm]
    exact h.nodup
  · intro turn hturn
    show turn.Within (replaceWorm worm' w.worms).length
    rw [length_replaceWorm]
    exact h.turn turn hturn

/-- A worm that is new to the world may enter at the end of the turn order. -/
theorem Sound.append (h : w.Sound) (hmade : worm.Made)
    (hmember : worm.body.membership = .member w.id) (hnew : w.worm? worm.id = none) :
    { w with worms := w.worms ++ [worm] }.Sound := by
  refine { h with made := ?_, member := ?_, nodup := ?_, turn := ?_ }
  · intro x hx
    rcases List.mem_append.mp hx with hx | hx
    · exact h.made x hx
    · rw [List.mem_singleton.mp hx]
      exact hmade
  · intro x hx
    rcases List.mem_append.mp hx with hx | hx
    · exact h.member x hx
    · rw [List.mem_singleton.mp hx]
      exact hmember
  · show ((w.worms ++ [worm]).map Worm.id).Nodup
    rw [List.map_append, List.nodup_append]
    refine ⟨h.nodup, List.nodup_singleton _, ?_⟩
    intro a ha b hb hab
    rw [List.map_singleton, List.mem_singleton] at hb
    exact worm?_eq_none_iff.mp hnew (hb ▸ hab ▸ ha)
  · intro turn hturn
    show turn.Within (w.worms ++ [worm]).length
    rw [List.length_append]
    exact (h.turn turn hturn).add

/-- A worm may leave. -/
theorem Sound.eraseIdx (h : w.Sound) {index : Nat} (hindex : index < w.worms.length) :
    { w with worms := w.worms.eraseIdx index, state := w.stateWithout index }.Sound := by
  refine { h with made := ?_, member := ?_, nodup := ?_, turn := ?_ }
  · exact fun x hx => h.made x (List.mem_of_mem_eraseIdx hx)
  · exact fun x hx => h.member x (List.mem_of_mem_eraseIdx hx)
  · exact h.nodup.sublist ((List.eraseIdx_sublist _ _).map _)
  · intro turn hturn
    show turn.Within (w.worms.eraseIdx index).length
    rw [List.length_eraseIdx_of_lt hindex]
    have hstate : w.stateWithout index = .inProgress turn := hturn
    rw [stateWithout] at hstate
    split at hstate
    · rename_i before hbefore
      cases hstate
      exact (h.turn before hbefore).removed hindex
    · rename_i hnone
      exact absurd hstate (hnone turn)

/-- No other worm of its number comes to light when a worm leaves. -/
theorem Sound.worm?_eraseIdx (h : w.Sound) {index : Nat}
    (hindex : w.worms.findIdx? (fun worm => worm.id = id) = some index) :
    { w with worms := w.worms.eraseIdx index, state := w.stateWithout index }.worm? id = none := by
  obtain ⟨hlt, hid, -⟩ := List.findIdx?_eq_some_iff_getElem.mp hindex
  refine worm?_eq_none_iff.mpr fun hmem => ?_
  obtain ⟨other, hother, hotherId⟩ := List.mem_map.mp hmem
  obtain ⟨i, hi, hne, rfl⟩ := List.mem_eraseIdx_iff_getElem.mp hother
  have hsame : w.worms[i] = w.worms[index] :=
    List.inj_on_of_nodup_map h.nodup (List.getElem_mem hi) (List.getElem_mem hlt)
      (hotherId.trans (of_decide_eq_true hid).symm)
  exact hne (h.nodup.of_map.getElem_inj_iff.mp hsame)

omit [Scalar α] in
/-- What holds of the ration that is put in and of the others holds of all. -/
theorem forall_mem_insertFood {P : Food α → Prop} {food : Food α} {rations : List (Food α)}
    (hfood : P food) (h : ∀ f ∈ rations, P f) : ∀ f ∈ insertFood food rations, P f := by
  intro f hf
  rcases List.mem_cons.mp ((insertFood_perm food rations).mem_iff.mp hf) with rfl | hf
  · exact hfood
  · exact h f hf

/-- A ration that is new to the world may enter. -/
theorem Sound.insertFood (h : w.Sound) (food : Food α)
    (hmember : food.body.membership = .member w.id) (hnew : w.food? food.id = none) :
    { w with food := World.insertFood food w.food }.Sound := by
  refine { h with foodMember := forall_mem_insertFood hmember h.foodMember, foodNodup := ?_ }
  show ((World.insertFood food w.food).map Food.id).Nodup
  rw [((insertFood_perm food w.food).map Food.id).nodup_iff, List.map_cons, List.nodup_cons]
  exact ⟨food?_eq_none_iff.mp hnew, h.foodNodup⟩

/-- **Every change keeps a world sound.** -/
theorem Sound.change (h : w.Sound) (hchange : w.Change traffic w') : w'.Sound := by
  cases hchange with
  | worm hworm hchange _ => exact h.setWorm hworm hchange
  | join hworm _ => exact h.setWorm hworm (.join _)
  | addWorm _ hmade hopen _ hbody =>
    obtain ⟨-, rfl⟩ := Body.attach_eq_ok_iff.mp hbody
    obtain ⟨-, -, hnew⟩ := checkRegistrable_eq_ok_iff.mp hopen
    exact h.append (hmade.setMembership _) rfl (contains_eq_false_iff.mp hnew).1
  | removeWorm _ hindex =>
    obtain ⟨hlt, -, -⟩ := List.findIdx?_eq_some_iff_getElem.mp hindex
    exact h.eraseIdx hlt
  | @addFood food body hopen hbody =>
    obtain ⟨-, rfl⟩ := Body.attach_eq_ok_iff.mp hbody
    obtain ⟨-, -, hnew⟩ := checkRegistrable_eq_ok_iff.mp hopen
    exact h.insertFood { food with body := { food.body with membership := _ } } rfl
      (contains_eq_false_iff.mp hnew).2.1
  | removeFood _ =>
    refine { h with foodMember := ?_, foodNodup := ?_ }
    · exact fun x hx => h.foodMember x (List.mem_of_mem_eraseP hx)
    · exact h.foodNodup.sublist (List.eraseP_sublist.map _)
  | launch _ _ hbody =>
    obtain ⟨-, rfl⟩ := Body.attach_eq_ok_iff.mp hbody
    exact { h with projectileMember := fun p hp => by cases hp; rfl }
  | land => exact { h with projectileMember := by simp }
  | addTeam _ _ _ => exact { h with }
  | draw => exact { h with }

/-- Changes keep a world sound. -/
theorem Sound.changes (h : w.Sound) (hchanges : w.Changes traffic w') : w'.Sound :=
  hchanges.keeps (fun _ _ => Sound.change) h

/-- A listed worm may change twice. -/
theorem Sound.setWorm_twice {worm'' : Worm α} (h : w.Sound) (hworm : w.worm? worm.id = some worm)
    (hchange : worm.Change worm') (hchange' : worm'.Change worm'') : (w.setWorm worm'').Sound := by
  rw [← setWorm_setWorm w hchange'.id_eq]
  exact (h.setWorm hworm hchange).setWorm (worm?_setWorm_change hworm hchange) hchange'

/-! ### Turns -/

omit [Scalar α] in
/-- The search for a living worm stays within the turn order. -/
theorem livingFrom_lt (w : World α) (steps : Nat) {index : Nat} (h : index < w.worms.length) :
    w.livingFrom steps index < w.worms.length := by
  induction steps generalizing index with
  | zero => exact h
  | succ steps ih =>
    rw [livingFrom]
    split
    · split
      · exact h
      · exact ih (Nat.mod_lt _ (Nat.zero_lt_of_lt h))
    · exact h

omit [Scalar α] in
/-- The next turn is at a place of the turn order. -/
theorem nextIndex_lt (w : World α) (turn : Turn) (h : w.worms ≠ []) :
    w.nextIndex turn < w.worms.length := by
  refine w.livingFrom_lt _ ?_
  have hpos := List.length_pos_iff.mpr h
  split
  · exact Nat.mod_lt _ hpos
  · exact Nat.mod_lt _ hpos

omit [Scalar α] in
/-- A game that goes on has worms. -/
theorem worms_ne_nil_of_isGameOver (h : w.isGameOver = false) : w.worms ≠ [] := by
  intro hnil
  simp [isGameOver, factions, hnil] at h

/-- A word holds the hit points that the worm at a place has and those that it gets back. -/
def RegainsAt (w : World α) (index : Nat) : Prop :=
  ∀ worm, w.worms[index]? = some worm → worm.regained ≤ Scalar.maxPoints

/-- The world at the start of a turn. -/
def withTurn (w : World α) (index number : Nat) : World α :=
  { w with
    worms := w.worms.modify index Worm.rested
    state := .inProgress { index, number, currentRemoved := false } }

omit [Scalar α] in
/-- The worm at an index can be rested if its sum of hit points fits. -/
theorem regainsAt_iff {index : Nat} (h : w.worms[index]? = some worm) :
    w.RegainsAt index ↔ worm.regained ≤ Scalar.maxPoints := by
  simp only [RegainsAt, h, Option.some.injEq, forall_eq']

omit [Scalar α] in
/-- The worm at an index cannot be rested only if there is one and its sum of hit points
overflows. -/
theorem not_regainsAt_iff {index : Nat} : ¬w.RegainsAt index ↔
    ∃ worm, w.worms[index]? = some worm ∧ Scalar.maxPoints < worm.regained := by
  simp only [RegainsAt, not_forall, exists_prop, Nat.not_le]

/-- **What handing the turn to the worm at a place comes to**: it is a crash exactly if no word
holds what the worm regains. -/
theorem handTurn_eq (w : World α) (index number : Nat) :
    w.RegainsAt index ∧ w.handTurn index number = .ok (w.withTurn index number) ∨
      ¬w.RegainsAt index ∧ w.handTurn index number = .error .overflow := by
  rw [handTurn, replenishAt, withTurn]
  cases hworm : w.worms[index]? with
  | none =>
    refine .inl ⟨fun worm h => ?_, ?_⟩
    · cases hworm.symm.trans h
    · rw [List.modify_eq_self (List.getElem?_eq_none_iff.mp hworm)]
      rfl
  | some worm =>
    rw [regainsAt_iff hworm]
    rcases Nat.lt_or_ge Scalar.maxPoints worm.regained with hless | hfits
    · have hcrash : worm.replenish = .error .overflow := if_pos hless
      refine .inr ⟨Nat.not_le.mpr hless, ?_⟩
      simp only [hcrash, error_bind]
    · have hrests : worm.replenish = .ok worm.rested := if_neg (Nat.not_lt.mpr hfits)
      refine .inl ⟨hfits, ?_⟩
      rw [List.modify_eq_set_getElem?, hworm]
      simp only [hrests, ok_bind]
      rfl

/-- Resting a worm keeps what resting leaves alone in each worm. -/
theorem map_modify_rested {β : Type} {f : Worm α → β} (hf : ∀ worm, f worm.rested = f worm)
    (worms : List (Worm α)) (index : Nat) :
    (worms.modify index Worm.rested).map f = worms.map f := by
  induction worms generalizing index with
  | nil => simp
  | cons w worms ih =>
    cases index with
    | zero => simp [hf]
    | succ index => simp [ih]

/-- After a worm is rested, every worm was listed before, rested or not. -/
theorem mem_modify_rested {worms : List (Worm α)} {index : Nat}
    (h : worm ∈ worms.modify index Worm.rested) :
    worm ∈ worms ∨ ∃ old, worms[index]? = some old ∧ worm = old.rested := by
  obtain ⟨i, hi, rfl⟩ := List.mem_iff_getElem.mp h
  rw [List.length_modify] at hi
  rw [List.getElem_modify]
  by_cases heq : index = i
  · subst heq
    rw [if_pos rfl]
    exact .inr ⟨worms[index], List.getElem?_eq_getElem hi, rfl⟩
  · rw [if_neg heq]
    exact .inl (List.getElem_mem hi)

/-- A world at the start of a turn. -/
theorem Sound.withTurn (h : w.Sound) {index : Nat} (number : Nat)
    (hindex : index < w.worms.length) (hfits : w.RegainsAt index) :
    (w.withTurn index number).Sound := by
  refine { h with made := ?_, member := ?_, nodup := ?_, turn := ?_ }
  · intro worm hworm
    obtain hold | ⟨old, hold, rfl⟩ := mem_modify_rested hworm
    · exact h.made _ hold
    · exact (h.made _ (List.mem_of_getElem? hold)).replenish
        (Worm.replenish_eq_ok_iff.mpr ⟨hfits _ hold, rfl⟩)
  · intro worm hworm
    obtain hold | ⟨old, hold, rfl⟩ := mem_modify_rested hworm
    · exact h.member _ hold
    · exact h.member old (List.mem_of_getElem? hold)
  · show ((w.worms.modify index Worm.rested).map Worm.id).Nodup
    rw [map_modify_rested fun _ => rfl]
    exact h.nodup
  · intro turn hturn
    cases hturn
    show Turn.Within _ (w.worms.modify index Worm.rested).length
    rw [List.length_modify]
    exact ⟨Nat.le_of_lt hindex, fun _ => hindex⟩

/-- A world without entities in which nobody has the turn. -/
theorem Sound.of_empty (hconfig : w.config.check = .ok ()) (hworms : w.worms = [])
    (hfood : w.food = []) (hprojectile : w.projectile = none)
    (hstate : ∀ turn, w.state ≠ .inProgress turn) : w.Sound where
  config := hconfig
  made := by simp [hworms]
  member := by simp [hworms]
  nodup := by simp [hworms]
  foodMember := by simp [hfood]
  foodNodup := by simp [hfood]
  projectileMember := by simp [hprojectile]
  turn := fun turn h => absurd h (hstate turn)

/-- A new world. -/
def fresh (id : WorldId) (grid : TerrainGrid α) (config : GameConfig α) : World α where
  id := id
  grid := grid.withContactInflation config.terrain.contactInflation
  config := config
  worms := []
  food := []
  projectile := none
  teams := []
  random := .ofSeed config.seed
  state := .notStarted

/-- A world is made on every grid if its settings pass their check. -/
theorem onGrid_eq_ok_iff {id : WorldId} {grid : TerrainGrid α} {config : GameConfig α} :
    onGrid id grid config = .ok w ↔ config.check = .ok () ∧ w = fresh id grid config := by
  rw [onGrid, bind_eq_ok_iff]
  constructor
  · rintro ⟨⟨⟩, hconfig, hw⟩
    cases hw
    exact ⟨hconfig, rfl⟩
  · rintro ⟨hconfig, rfl⟩
    exact ⟨(), hconfig, rfl⟩

/-- A new world is sound. -/
theorem Sound.onGrid {id : WorldId} {grid : TerrainGrid α} {config : GameConfig α}
    (h : World.onGrid id grid config = .ok w) : w.Sound := by
  obtain ⟨hconfig, rfl⟩ := onGrid_eq_ok_iff.mp h
  exact .of_empty hconfig rfl rfl rfl (by simp [fresh])

end World

end WormBattle
