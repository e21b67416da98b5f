import WormBattle.Proofs.Entity.Worm
import WormBattle.World.Registry

/-!
# Looking worms up

Looking up, replacing and removing worms by their numbers, and what a world checks before it lets an
entity in.
-/

namespace WormBattle

variable {α β : Type}

namespace World

variable {w : World α} {worm worm' : Worm α} {id : EntityId}

/-- The worm that is found has the number that was looked for. -/
theorem id_of_worm? (h : w.worm? id = some worm) : worm.id = id := by
  simpa using List.find?_some h

/-- A worm that is found is found under its own number. -/
theorem worm?_self (h : w.worm? id = some worm) : w.worm? worm.id = some worm :=
  (id_of_worm? h).symm ▸ h

/-- Looking for a worm after one was written back. -/
theorem find?_replaceWorm (worms : List (Worm α)) (worm : Worm α) (id : EntityId) :
    (replaceWorm worm worms).find? (fun w => w.id = id) =
      if worm.id = id then (worms.find? fun w => w.id = id).map fun _ => worm
      else worms.find? fun w => w.id = id := by
  induction worms with
  | nil => simp [replaceWorm]
  | cons w worms ih =>
    rw [replaceWorm]
    by_cases hw : w.id = worm.id
    · by_cases hid : worm.id = id
      · simp [hw, hid]
      · simp [hw, hid]
    · by_cases hid : worm.id = id
      · have hne : w.id ≠ id := fun h => hw (h.trans hid.symm)
        simpa [hw, hid, hne] using ih
      · by_cases hwid : w.id = id
        · have hne : id ≠ worm.id := fun h => hid h.symm
          simp [hwid, hne, hid]
        · simpa [hw, hid, hwid] using ih

/-- Looking a worm up after one has been replaced. -/
theorem worm?_setWorm (w : World α) (worm : Worm α) (id : EntityId) :
    (w.setWorm worm).worm? id =
      if worm.id = id then (w.worm? id).map fun _ => worm else w.worm? id :=
  find?_replaceWorm w.worms worm id

/-- A worm that was written back is found. -/
theorem worm?_setWorm_self (h : w.worm? worm'.id = some worm) :
    (w.setWorm worm').worm? worm'.id = some worm' := by
  rw [worm?_setWorm, if_pos rfl, h]
  rfl

/-- Of two worms written back under one number the second one stays. -/
theorem replaceWorm_replaceWorm (worms : List (Worm α)) (h : worm'.id = worm.id) :
    replaceWorm worm' (replaceWorm worm worms) = replaceWorm worm' worms := by
  induction worms with
  | nil => rfl
  | cons w worms ih =>
    by_cases hw : w.id = worm.id
    · simp [replaceWorm, hw, h]
    · simp [replaceWorm, hw, h, ih]

/-- Of two replacements of a worm the second stays. -/
theorem setWorm_setWorm (w : World α) (h : worm'.id = worm.id) :
    (w.setWorm worm).setWorm worm' = w.setWorm worm' := by
  rw [setWorm, setWorm, setWorm, replaceWorm_replaceWorm _ h]

/-- A replacement shows only in what the two worms differ in. -/
theorem map_replaceWorm {worms : List (Worm α)} (f : Worm α → β)
    (h : ∀ worm, worms.find? (fun w => w.id = worm'.id) = some worm → f worm' = f worm) :
    (replaceWorm worm' worms).map f = worms.map f := by
  induction worms with
  | nil => rfl
  | cons w worms ih =>
    rw [replaceWorm]
    by_cases hw : w.id = worm'.id
    · rw [List.find?_cons_of_pos (by simpa using hw)] at h
      rw [if_pos hw, List.map_cons, List.map_cons, h w rfl]
    · rw [List.find?_cons_of_neg (by simpa using hw)] at h
      rw [if_neg hw, List.map_cons, List.map_cons, ih h]

/-- Writing back a worm keeps the numbers and their order. -/
theorem map_id_replaceWorm (worms : List (Worm α)) (worm : Worm α) :
    (replaceWorm worm worms).map Worm.id = worms.map Worm.id := by
  refine map_replaceWorm Worm.id fun found hfound => ?_
  have hid : found.id = worm.id := by simpa using List.find?_some hfound
  exact hid.symm

private theorem replaceWorm_self {worms : List (Worm α)}
    (h : worms.find? (fun w => w.id = worm.id) = some worm) : replaceWorm worm worms = worms := by
  have hsame := map_replaceWorm (fun w => w) fun _ hfound => Option.some.inj (h.symm.trans hfound)
  rwa [List.map_id', List.map_id'] at hsame

/-- Replacing a worm by itself changes nothing. -/
theorem setWorm_self (h : w.worm? worm.id = some worm) : w.setWorm worm = w := by
  rw [setWorm, replaceWorm_self h]

/-- A worm that has a place is listed. -/
theorem worm?_of_findIdx? {index : Nat}
    (h : w.worms.findIdx? (fun worm => worm.id = id) = some index) :
    ∃ worm, w.worm? id = some worm := by
  obtain ⟨hlt, hid, -⟩ := List.findIdx?_eq_some_iff_getElem.mp h
  rw [← Option.isSome_iff_exists, worm?, List.find?_isSome]
  exact ⟨_, List.getElem_mem hlt, hid⟩

/-! ### Entering -/

/-- A world is open until it is terminated. -/
theorem checkOpen_eq_ok_iff : w.checkOpen = .ok () ↔ w.isTerminated = false := by
  rw [checkOpen]
  cases w.isTerminated <;> simp

/-- A body can be listed in an open world if it has not ended and its number is free. -/
theorem checkRegistrable_eq_ok_iff {body : Body α} : w.checkRegistrable body = .ok () ↔
    w.isTerminated = false ∧ body.isTerminated = false ∧ w.contains body.id = false := by
  rw [checkRegistrable, checkOpen]
  cases w.isTerminated <;> cases body.isTerminated <;> cases w.contains body.id <;>
    simp [bind, Except.bind]

/-- A number is free if no worm, no ration and no projectile has it. -/
theorem contains_eq_false_iff : w.contains id = false ↔ w.worm? id = none ∧ w.food? id = none ∧
    ∀ p, w.projectile = some p → p.id ≠ id := by
  rw [contains]
  cases w.projectile <;> simp [and_assoc]

end World

end WormBattle
