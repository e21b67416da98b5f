import WormBattle.Proofs.World.Reachable
import WormBattle.Proofs.World.TurnOrder

/-!
# Points

A worm has at most the points that its present radius allows, it is at a finite place, and its
radius is finite and not below the least one of its settings (`Worm.InBounds`). Eating changes the
radius, and with it what is allowed. That no bound is broken does not rest on how masses are
computed: the points are cut down to the new maxima, whichever these are.

A worm gains points only at the start of its turn. Whatever happens between turns, the points of a
worm that is there before and after can only have gone down (`World.Changes.fate`), and at the start
of a turn only the worm that gets it is touched (`World.Sound.eq_or_current_withTurn`).
`Simulation.Reachable.points_from_turns` says this of every step of a game.
-/

namespace WormBattle

open Scalar

variable {α : Type} [Scalar α]

/-! ### Worms -/

namespace Worm

/-- What holds of a worm at all times. -/
structure InBounds (worm : Worm α) : Prop where
  actionPoints_le : worm.actionPoints ≤ worm.maxActionPoints
  hitPoints_le : worm.hitPoints ≤ worm.maxHitPoints
  finite_position : worm.position.isFinite = true
  finite_radius : isFinite worm.radius = true
  minRadius_eq : worm.body.minRadius = worm.config.minRadius
  not_radius_lt : ¬worm.radius < worm.config.minRadius

/-- A worm has become another one without gaining points. -/
structure NoGain (worm worm' : Worm α) : Prop where
  actionPoints_le : worm'.actionPoints ≤ worm.actionPoints
  hitPoints_le : worm'.hitPoints ≤ worm.hitPoints

variable {worm worm' worm'' : Worm α}

omit [Scalar α] in
/-- A worm that stays as it is gains nothing. -/
@[refl] theorem NoGain.refl (worm : Worm α) : worm.NoGain worm :=
  ⟨Nat.le_refl _, Nat.le_refl _⟩

omit [Scalar α] in
/-- Of two changes without a gain, both in a row are without a gain. -/
theorem NoGain.trans (h : worm.NoGain worm') (h' : worm'.NoGain worm'') : worm.NoGain worm'' :=
  ⟨Nat.le_trans h'.actionPoints_le h.actionPoints_le,
    Nat.le_trans h'.hitPoints_le h.hitPoints_le⟩

/-- **No change gives points.** -/
theorem Change.noGain (h : worm.Change worm') : worm.NoGain worm' := by
  cases h with
  | turn h =>
    obtain ⟨cost, -, -, rfl⟩ := turn_eq_ok_iff.mp h
    exact ⟨Nat.sub_le _ _, Nat.le_refl _⟩
  | setPosition h =>
    obtain ⟨-, rfl⟩ := setPosition_eq_ok_iff.mp h
    exact ⟨Nat.le_refl _, Nat.le_refl _⟩
  | grow h =>
    obtain ⟨-, rfl⟩ := grow_eq_ok_iff.mp h
    exact ⟨Nat.min_le_left _ _, Nat.min_le_left _ _⟩
  | spend h =>
    obtain ⟨-, rfl⟩ := spend_eq_ok_iff.mp h
    exact ⟨Nat.sub_le _ _, Nat.le_refl _⟩
  | drain => exact ⟨Nat.zero_le _, Nat.le_refl _⟩
  | damage amount => exact ⟨Nat.le_refl _, Nat.sub_le _ _⟩
  | selectNextWeapon | join | setProgram => exact ⟨Nat.le_refl _, Nat.le_refl _⟩

/-- A worm stays in its bounds while its body and its settings stay and it gains no points. -/
theorem InBounds.of_noGain (h : worm.InBounds) (hgain : worm.NoGain worm')
    (hbody : worm'.body = worm.body) (hconfig : worm'.config = worm.config) : worm'.InBounds := by
  have hradius : worm'.radius = worm.radius := congrArg Body.radius hbody
  have hmass : worm'.mass = worm.mass := by rw [mass, mass, hconfig, hradius]
  have hmax : worm'.maxActionPoints = worm.maxActionPoints := by
    rw [maxActionPoints, maxActionPoints, hmass]
  refine ⟨?_, ?_, ?_, ?_, ?_, ?_⟩
  · exact (hgain.actionPoints_le.trans h.actionPoints_le).trans_eq hmax.symm
  · exact (hgain.hitPoints_le.trans h.hitPoints_le).trans_eq hmax.symm
  · rw [position, hbody]
    exact h.finite_position
  · rw [hradius]
    exact h.finite_radius
  · rw [hbody, hconfig]
    exact h.minRadius_eq
  · rw [hradius, hconfig]
    exact h.not_radius_lt

/-- Every change keeps a worm in its bounds. -/
theorem InBounds.change (h : worm.InBounds) (hchange : worm.Change worm') : worm'.InBounds := by
  have hgain := hchange.noGain
  cases hchange with
  | turn hturn =>
    obtain ⟨cost, -, -, rfl⟩ := turn_eq_ok_iff.mp hturn
    exact h.of_noGain hgain rfl rfl
  | spend hspend =>
    obtain ⟨-, rfl⟩ := spend_eq_ok_iff.mp hspend
    exact h.of_noGain hgain rfl rfl
  | selectNextWeapon | drain | damage | join | setProgram => exact h.of_noGain hgain rfl rfl
  | setPosition hposition =>
    obtain ⟨hfinite, rfl⟩ := setPosition_eq_ok_iff.mp hposition
    exact { h with finite_position := hfinite }
  | grow hgrow =>
    -- The maxima are those of the new radius, and nothing is known about them.
    obtain ⟨⟨hfinite, hmin⟩, rfl⟩ := grow_eq_ok_iff.mp hgrow
    exact
      { h with
        actionPoints_le := Nat.min_le_right _ _
        hitPoints_le := Nat.min_le_right _ _
        finite_radius := hfinite
        not_radius_lt := fun hlt => hmin (h.minRadius_eq ▸ hlt) }

/-- **Every worm that can be made is in its bounds.** -/
theorem Made.inBounds (h : worm.Made) : worm.InBounds := by
  induction h with
  | make h =>
    obtain ⟨-, -, ⟨hposition, hradius, hmin⟩, rfl⟩ := make_eq_ok_iff.mp h
    exact ⟨Nat.le_refl _, Nat.le_refl _, hposition, hradius, rfl, hmin⟩
  | change _ h ih => exact ih.change h
  | rename _ h ih =>
    obtain ⟨-, rfl⟩ := rename_eq_ok_iff.mp h
    exact ih.of_noGain ⟨Nat.le_refl _, Nat.le_refl _⟩ rfl rfl
  | setDirection _ h ih =>
    obtain ⟨-, rfl⟩ := setDirection_eq_ok_iff.mp h
    exact ih.of_noGain ⟨Nat.le_refl _, Nat.le_refl _⟩ rfl rfl
  | replenish _ h ih =>
    obtain ⟨-, rfl⟩ := replenish_eq_ok_iff.mp h
    exact { ih with actionPoints_le := Nat.le_refl _, hitPoints_le := Nat.min_le_right _ _ }
  | setMembership _ _ ih => exact { ih with }

end Worm

/-! ### Worlds -/

namespace World

/-- What can become of the worm of a number between two turns. Where worms only enter or only leave,
the worm that is there at the end is the one that was there at the beginning. -/
inductive Fate (traffic : Traffic) : Option (Worm α) → Option (Worm α) → Prop where
  /-- It stays, and gains no points. -/
  | stays {worm worm' : Worm α} : worm.NoGain worm' → Fate traffic (some worm) (some worm')
  /-- It has not been there before. -/
  | enters (there : Option (Worm α)) : traffic = .entering → Fate traffic none there
  /-- It is not there any longer. -/
  | leaves (before : Option (Worm α)) : traffic = .leaving → Fate traffic before none

variable {traffic : Traffic} {w w' : World α} {worm worm' : Worm α} {id : EntityId}

section Fate

variable {before after later : Option (Worm α)}

omit [Scalar α] in
private theorem Fate.refl (before : Option (Worm α)) : Fate traffic before before := by
  cases before with
  | some worm => exact .stays (.refl worm)
  | none =>
    cases traffic with
    | entering => exact .enters none rfl
    | leaving => exact .leaves none rfl

omit [Scalar α] in
/-- While worms only enter, what is there stays. -/
theorem Fate.of_entering (h : ∀ worm, before = some worm → after = some worm) :
    Fate .entering before after := by
  cases before with
  | none => exact .enters after rfl
  | some worm =>
    rw [h worm rfl]
    exact .refl _

omit [Scalar α] in
/-- While worms only leave, what is there has been there before. -/
theorem Fate.of_leaving (h : ∀ worm, after = some worm → before = some worm) :
    Fate .leaving before after := by
  cases after with
  | none => exact .leaves before rfl
  | some worm =>
    rw [h worm rfl]
    exact .refl _

omit [Scalar α] in
private theorem Fate.trans (h : Fate traffic before after) (h' : Fate traffic after later) :
    Fate traffic before later := by
  cases h with
  | enters _ hentering => exact .enters later hentering
  | stays hgain =>
    cases h' with
    | stays hgain' => exact .stays (hgain.trans hgain')
    | leaves _ hleaving => exact .leaves _ hleaving
  | leaves _ hleaving =>
    cases h' with
    | enters _ hentering => cases hleaving.symm.trans hentering
    | leaves => exact .leaves before hleaving

omit [Scalar α] in
/-- A worm that is there before and after has gained no points. -/
theorem Fate.noGain (h : Fate traffic (some worm) (some worm')) : worm.NoGain worm' := by
  cases h with
  | stays hgain => exact hgain

end Fate

/-- What becomes of the worms while one of them changes. -/
theorem fate_setWorm (hworm : w.worm? worm.id = some worm) (hchange : worm.Change worm')
    (id : EntityId) : Fate traffic (w.worm? id) ((w.setWorm worm').worm? id) := by
  rw [worm?_setWorm]
  by_cases hid : worm'.id = id
  · have hsame : w.worm? id = some worm := by
      rw [← hid, hchange.id_eq]
      exact hworm
    rw [if_pos hid, hsame]
    exact .stays hchange.noGain
  · rw [if_neg hid]
    exact .refl _

/-- A change of a world gives no points. -/
theorem Change.fate (h : w.Change traffic w') (hs : w.Sound) (id : EntityId) :
    Fate traffic (w.worm? id) (w'.worm? id) := by
  cases h with
  | worm hworm hchange _ => exact fate_setWorm hworm hchange id
  | join hworm _ => exact fate_setWorm hworm (.join _) id
  | addWorm hentering _ _ _ _ =>
    subst hentering
    refine .of_entering fun worm hworm => ?_
    have hfirst : w.worms.find? (fun worm => worm.id = id) = some worm := hworm
    rw [worm?, List.find?_append, hfirst, Option.some_or]
  | removeWorm hleaving _ =>
    subst hleaving
    refine .of_leaving fun worm hworm => ?_
    -- No other worm of the number comes to light: there was only one.
    have hmem : worm ∈ w.worms := List.mem_of_mem_eraseIdx (mem_of_worm? hworm)
    rw [← id_of_worm? hworm]
    exact hs.worm?_of_mem hmem
  | addFood | removeFood | launch | land | addTeam | draw => exact .refl _

/-- **Between two turns nobody gains points.** -/
theorem Changes.fate (h : w.Changes traffic w') (hs : w.Sound) (id : EntityId) :
    Fate traffic (w.worm? id) (w'.worm? id) := by
  induction h with
  | refl => exact .refl _
  | tail hchanges hchange ih => exact ih.trans (hchange.fate (hs.changes hchanges) id)

/-- **At the start of a turn only the worm that gets it is touched.** -/
theorem Sound.eq_or_current_withTurn (hs : w.Sound) {index : Nat} (number : Nat)
    (h : w.worm? id = some worm) (h' : (w.withTurn index number).worm? id = some worm') :
    worm' = worm ∨ (w.withTurn index number).currentWorm? = some worm' := by
  have hmem : worm' ∈ w.worms.modify index Worm.rested := mem_of_worm? h'
  obtain ⟨i, hi, hworm'⟩ := List.mem_iff_getElem.mp hmem
  by_cases hindex : index = i
  · subst hindex
    have hcurrent : (w.worms.modify index Worm.rested)[index]? = some worm' := by
      rw [List.getElem?_eq_getElem hi, hworm']
    exact .inr hcurrent
  · rw [List.getElem_modify, if_neg hindex] at hworm'
    have hold : worm' ∈ w.worms := List.mem_of_getElem hworm'
    have hsame : w.worm? id = some worm' := by
      rw [← id_of_worm? h']
      exact hs.worm?_of_mem hold
    exact .inl (Option.some.inj (hsame.symm.trans h))

end World

/-! ### Games -/

namespace Simulation

open World

variable {s s' : Simulation α} {op : Option (Operation α)} {worm worm' : Worm α} {id : EntityId}

/-- **A step of a game gives points only to the worm whose turn it begins.** -/
theorem Step.noGain_or_current (h : s.Step op s') (hs : s.world.Sound)
    (hworm : s.world.worm? id = some worm) (hworm' : s'.world.worm? id = some worm') :
    worm.NoGain worm' ∨
      (op = some .start ∨ op = some .startNextTurn) ∧ s'.world.currentWorm? = some worm' := by
  have hcourse := h.course hs
  generalize s'.world = w' at hcourse hworm' ⊢
  have hturn : ∀ {index number : Nat},
      (s.world.withTurn index number).worm? id = some worm' →
        worm.NoGain worm' ∨ (s.world.withTurn index number).currentWorm? = some worm' := by
    intro index number hfound
    refine (hs.eq_or_current_withTurn number hworm hfound).imp_left ?_
    rintro rfl
    exact .refl worm'
  cases hcourse with
  | within traffic _ hchanges =>
    have hfate := hchanges.fate hs id
    rw [hworm, hworm'] at hfate
    exact .inl hfate.noGain
  | staysEmpty | isOver =>
    cases hworm.symm.trans hworm'
    exact .inl (.refl worm)
  | opens => exact (hturn hworm').imp_right fun hcurrent => ⟨.inl rfl, hcurrent⟩
  | handsOn => exact (hturn hworm').imp_right fun hcurrent => ⟨.inr rfl, hcurrent⟩
  | terminates => cases hworm'

/-- **Points come only from the start of a turn**, and never go beyond what a worm may have. -/
theorem Reachable.points_from_turns (hs : s.Reachable) :
    (∀ worm ∈ s.world.worms, worm.InBounds) ∧
      ∀ op s', s.Step op s' → ∀ id worm worm', s.world.worm? id = some worm →
        s'.world.worm? id = some worm' →
          worm.NoGain worm' ∨ (op = some .start ∨ op = some .startNextTurn) ∧
            s'.world.currentWorm? = some worm' := by
  refine ⟨fun worm hworm => (hs.sound.made worm hworm).inBounds, ?_⟩
  intro op s' hstep id worm worm' hworm hworm'
  exact hstep.noGain_or_current hs.sound hworm hworm'

/-- A worm that has turned before the game began gets its points back when it begins. -/
theorem points_from_turns_trio : ∃ worm worm',
    (trio.after [.turn ⟨1⟩ 1]).world.worm? ⟨1⟩ = some worm ∧
    (trio.after [.turn ⟨1⟩ 1, .start]).world.worm? ⟨1⟩ = some worm' ∧
    worm.InBounds ∧ worm.actionPoints < worm'.actionPoints ∧
    (trio.after [.turn ⟨1⟩ 1, .start]).world.currentWorm? = some worm' := by
  have hs : (trio.after [.turn ⟨1⟩ 1]).Reachable := reachable_trio.after ⟨trivial, trivial⟩
  have hstep : (trio.after [.turn ⟨1⟩ 1]).Step (some .start) (trio.after [.turn ⟨1⟩ 1, .start]) :=
    .operate .start trivial
  have hany : ((trio.after [.turn ⟨1⟩ 1]).world.worm? ⟨1⟩).any (fun worm =>
      ((trio.after [.turn ⟨1⟩ 1, .start]).world.worm? ⟨1⟩).any fun worm' =>
        decide (worm.actionPoints < worm'.actionPoints)) = true := by decide +kernel
  obtain ⟨worm, hworm, hany⟩ := (Option.any_eq_true _ _).mp hany
  obtain ⟨worm', hworm', hless⟩ := (Option.any_eq_true _ _).mp hany
  have hless : worm.actionPoints < worm'.actionPoints := of_decide_eq_true hless
  obtain ⟨hbounds, hpoints⟩ := hs.points_from_turns
  refine ⟨worm, worm', hworm, hworm', hbounds worm (mem_of_worm? hworm), hless, ?_⟩
  rcases hpoints _ _ hstep ⟨1⟩ worm worm' hworm hworm' with hgain | ⟨-, hcurrent⟩
  · exact absurd hgain.actionPoints_le (Nat.not_le.mpr hless)
  · exact hcurrent

end Simulation

end WormBattle
