import WormBattle.Proofs.World.Eating
import WormBattle.Proofs.World.Reachable
import WormBattle.Proofs.World.Spots

/-!
# Getting stuck

A refused action should leave the world as it was. Most do, for they look before they act. An action
gets **stuck** if it is refused when it has already altered the world:

* **eating** gets stuck if the worm chokes;
* **falling** gets stuck if the worm chokes on what it meets where it lands (`World.FallStuck`);
* a **move** gets stuck if the worm chokes, and if it falls afterwards and that fall gets stuck or
  cannot be followed to its end (`World.MoveStuck`);
* a **jump** gets stuck if the worm chokes where it lands, and if it ends at a spot that is not
  finite (`World.JumpStuck`).

These are the four of which that is shown here, and in each case the condition is exact
(`Command.TornIff`).
-/

namespace WormBattle

variable {α β : Type}

/-! ### Torn commands -/

namespace Command

/-- Refusals of the command keep the worms, and they alter the world exactly on a condition. -/
def TornIff (c : Command α β) (s : Simulation α) (stuck : Prop) : Prop :=
  c.Ends s (fun _ _ => ¬stuck)
    fun _ s' => s.world.SameWorms s'.world ∧ (s'.world ≠ s.world ↔ stuck)

variable {c : Command α β} {s s' : Simulation α} {stuck : Prop}

/-- Whether a refusal of the command has altered the world. -/
theorem TornIff.iff (h : c.TornIff s stuck) :
    (∃ e s', c.carryOut s = (.error e, s') ∧ s'.world ≠ s.world) ↔ stuck := by
  constructor
  · rintro ⟨e, s', hc, hne⟩
    exact (h.of_error hc).2.mp hne
  · intro hstuck
    rcases hc : c.carryOut s with ⟨e | b, s'⟩
    · exact ⟨e, s', rfl, (h.of_error hc).2.mpr hstuck⟩
    · exact absurd hstuck (h.of_ok hc)

/-- A refusal that leaves no trace. -/
theorem untouched (hworld : s'.world = s.world) (hstuck : ¬stuck) :
    s.world.SameWorms s'.world ∧ (s'.world ≠ s.world ↔ stuck) :=
  ⟨hworld ▸ .refl _, fun hne => absurd hworld hne, fun h => absurd h hstuck⟩

/-- A refusal after something has been eaten. -/
theorem touched (hsame : s.world.SameWorms s'.world)
    (hfewer : s'.world.food.length < s.world.food.length) (hstuck : stuck) :
    s.world.SameWorms s'.world ∧ (s'.world ≠ s.world ↔ stuck) :=
  ⟨hsame, fun _ => hstuck, fun _ heq => Nat.lt_irrefl _ (heq ▸ hfewer)⟩

end Command

/-! ### When actions get stuck -/

variable [Scalar α]

namespace Worm

/-- The worm at another spot. -/
def placed (worm : Worm α) (target : Position α) : Worm α :=
  { worm with body := { worm.body with position := target } }

/-- The worm after a fall. -/
def fallen (worm : Worm α) (landed : Position α) : Worm α :=
  (worm.placed landed).damage (worm.fallDamage (worm.position.y - landed.y))

/-- The worm after it has paid. -/
def paid (worm : Worm α) (cost : Nat) : Worm α :=
  { worm with actionPoints := worm.actionPoints - cost }

variable {worm worm' : Worm α} {target : Position α} {cost : Nat}

private theorem setPosition_eq_ok (h : target.isFinite = true) :
    worm.setPosition target = .ok (worm.placed target) :=
  setPosition_eq_ok_iff.mpr ⟨h, rfl⟩

omit [Scalar α] in
/-- A worm pays what it can afford. -/
theorem spend_eq_ok (h : cost ≤ worm.actionPoints) : worm.spend cost = .ok (worm.paid cost) :=
  spend_eq_ok_iff.mpr ⟨h, rfl⟩

end Worm

namespace World

/-- The worm would fall, but its fall cannot be followed to its end. -/
def FallRefused (w : World α) (id : EntityId) : Prop :=
  w.canFall id = true ∧ ∃ worm e, w.worm? id = some worm ∧ w.landing worm = .error e

/-- The worm falls, survives and chokes on what it meets. -/
def FallStuck (w : World α) (id : EntityId) : Prop :=
  w.canFall id = true ∧ ∃ worm landed, w.worm? id = some worm ∧
    w.landing worm = .ok (some landed) ∧ (worm.fallen landed).isAlive = true ∧
      w.Chokes (worm.fallen landed)

/-- What a fall comes to that is not refused: the worm has died, or it lies where its fall leads and
has eaten what it meets there. -/
def Fallen (w w' : World α) (id : EntityId) : Prop :=
  w'.worm? id = none ∨ ∃ worm landed, w.worm? id = some worm ∧ w.canFall id = true ∧
    w.landing worm = .ok (some landed) ∧
    w' = w.fed (worm.fallen landed) (w.rationsAt (worm.fallen landed))

/-- The worm moves within the world. Then it chokes, or what it meets is gone and its fall comes to
nothing: the fall gets stuck, or it is refused in a world that is another one by then. -/
def MoveStuck (w : World α) (id : EntityId) : Prop :=
  ∃ worm target cost samples, w.worm? id = some worm ∧ w.planMove id = .ok (target, cost) ∧
    sampleCount (Scalar.maxNum target.y 0.0) (worm.radius * worm.config.searchStepFraction) =
      .ok samples ∧
    cost ≤ worm.actionPoints ∧ w.grid.isInside target worm.radius = true ∧
    let moved := (worm.paid cost).placed target
    let fed := w.fed moved (w.rationsAt moved)
    w.Chokes moved ∨ ¬w.Chokes moved ∧ (fed.FallStuck id ∨ fed.FallRefused id ∧ fed ≠ w)

/-- The worm jumps, and it cannot be put where the jump ends or chokes on what it meets there. -/
def JumpStuck (w : World α) (id : EntityId) (timeStep : α) : Prop :=
  ∃ worm landing, w.worm? id = some worm ∧ w.jumpTarget? id timeStep = some landing ∧
    (landing.position.isFinite = false ∨ landing.position.isFinite = true ∧
      ∃ position time, landing = .ground position time ∧ w.Chokes (worm.drain.placed position))

variable {w : World α} {id : EntityId} {worm : Worm α} {target landed : Position α}

private theorem FallRefused.not_stuck (h : w.FallRefused id) : ¬w.FallStuck id := by
  obtain ⟨-, worm, e, hworm, he⟩ := h
  rintro ⟨-, worm', landed, hworm', hlanded, -, -⟩
  cases hworm.symm.trans hworm'
  cases hlanded.symm.trans he

/-- A fall whose landing is known. -/
theorem fallStuck_iff (hworm : w.worm? id = some worm) (hfall : w.canFall id = true)
    (hlanding : w.landing worm = .ok (some landed)) :
    w.FallStuck id ↔ (worm.fallen landed).isAlive = true ∧ w.Chokes (worm.fallen landed) := by
  constructor
  · rintro ⟨-, worm', landed', hworm', hlanding', halive, hchokes⟩
    cases hworm.symm.trans hworm'
    cases hlanding.symm.trans hlanding'
    exact ⟨halive, hchokes⟩
  · rintro ⟨halive, hchokes⟩
    exact ⟨hfall, worm, landed, hworm, hlanding, halive, hchokes⟩

/-- A move that is planned and can be paid. -/
theorem moveStuck_iff {cost samples : Nat} (hworm : w.worm? id = some worm)
    (hplan : w.planMove id = .ok (target, cost))
    (hsamples : sampleCount (Scalar.maxNum target.y 0.0)
      (worm.radius * worm.config.searchStepFraction) = .ok samples)
    (hpay : cost ≤ worm.actionPoints) :
    w.MoveStuck id ↔ w.grid.isInside target worm.radius = true ∧
      let moved := (worm.paid cost).placed target
      let fed := w.fed moved (w.rationsAt moved)
      w.Chokes moved ∨ ¬w.Chokes moved ∧ (fed.FallStuck id ∨ fed.FallRefused id ∧ fed ≠ w) := by
  constructor
  · rintro ⟨worm', target', cost', -, hworm', hplan', -, -, hinside, h⟩
    cases hworm.symm.trans hworm'
    cases hplan.symm.trans hplan'
    exact ⟨hinside, h⟩
  · rintro ⟨hinside, h⟩
    exact ⟨worm, target, cost, samples, hworm, hplan, hsamples, hpay, hinside, h⟩

/-- A jump whose end is known. -/
theorem jumpStuck_iff {timeStep : α} {landing : Landing α} (hworm : w.worm? id = some worm)
    (htarget : w.jumpTarget? id timeStep = some landing) :
    w.JumpStuck id timeStep ↔
      landing.position.isFinite = false ∨ landing.position.isFinite = true ∧
        ∃ position time, landing = .ground position time ∧
          w.Chokes (worm.drain.placed position) := by
  constructor
  · rintro ⟨worm', landing', hworm', htarget', h⟩
    cases hworm.symm.trans hworm'
    cases htarget.symm.trans htarget'
    exact h
  · exact fun h => ⟨worm, landing, hworm, htarget, h⟩

end World

namespace Command

variable {s : Simulation α} {worm : Worm α} {id : EntityId}

/-! ### Worms that die -/

/-- A listed worm can be taken out, and then no worm of its number is left. -/
theorem ends_killWorm (hs : s.world.Sound) (hworm : s.world.worm? id = some worm) :
    (killWorm id).Ends s
      (fun _ s' => s'.world.worm? id = none ∧ s'.world.projectile = s.world.projectile)
      fun _ _ => False := by
  simp only [killWorm, ends_bind, ends_removeWorm, ends_pure]
  refine ⟨fun worm' index hworm' hindex => ⟨fun _ _ => ⟨hs.worm?_eraseIdx hindex, trivial⟩,
    fun e he => ?_⟩, fun hnone => ?_⟩
  · rw [Body.terminate_detach (hs.member worm' (World.mem_of_worm? hworm'))] at he
    cases he
  · cases hworm.symm.trans hnone

/-! ### Eating and falling -/

/-- Eating is torn if the worm chokes. -/
theorem torn_eat (hs : s.world.Sound) (id : EntityId) :
    (eat id).TornIff s (∃ worm, s.world.worm? id = some worm ∧ s.world.Chokes worm) := by
  cases hworm : s.world.worm? id with
  | none =>
    have hstuck : ¬∃ worm, none = some worm ∧ s.world.Chokes worm := by simp
    simp only [TornIff, eat, ends_bind, ends_requireWorm, hworm]
    exact ⟨fun _ h => (by cases h), fun _ => untouched rfl hstuck⟩
  | some worm =>
    obtain rfl := World.id_of_worm? hworm
    refine (ends_eat hs hworm).mono ?_ ?_
    · rintro _ s' ⟨hchokes, -, -⟩ ⟨worm', hworm', hstuck⟩
      cases hworm'
      exact hchokes hstuck
    · rintro _ s' ⟨hchokes, hfewer, hsame⟩
      exact touched hsame hfewer ⟨worm, rfl, hchokes⟩

/-- **Falling** is refused for three reasons: the worm does not hang in the air, its fall has no
end, or it gets stuck. Only then something has been done. Otherwise the worm has died of its fall,
or it has landed and eaten. -/
theorem ends_fall (hs : s.world.Sound) (id : EntityId) :
    (fall id).Ends s
      (fun _ s' => ¬s.world.FallStuck id ∧ ¬s.world.FallRefused id ∧ s.world.Fallen s'.world id)
      fun _ s' => ((s.world.canFall id = false ∨ s.world.FallRefused id) ∧ s' = s) ∨
        (s.world.FallStuck id ∧ s'.world.food.length < s.world.food.length ∧
          s.world.SameWorms s'.world) := by
  simp only [fall, ends_bind, ends_world, ends_ite, ends_throw, ends_requireWorm, ends_lift]
  refine ⟨fun hnot => .inl ⟨.inl (by simpa using hnot), trivial⟩, fun hfall => ?_⟩
  have hfall : s.world.canFall id = true := by simpa using hfall
  refine ⟨fun worm hworm => ⟨fun landing hlanding => ?_, fun e he => ?_⟩, fun hnone => ?_⟩
  · -- The landing is known, so the two conditions speak of this worm and of this landing.
    have hends : ¬s.world.FallRefused id := by
      rintro ⟨-, worm', e, hworm', he⟩
      cases hworm.symm.trans hworm'
      cases hlanding.symm.trans he
    cases landing with
    | none =>
      refine (ends_killWorm hs hworm).mono (fun _ _ h => ⟨?_, hends, .inl h.1⟩) fun _ _ h => h.elim
      rintro ⟨-, worm', landed, hworm', hlanded, -, -⟩
      cases hworm.symm.trans hworm'
      cases hlanding.symm.trans hlanded
    | some landed =>
      have hstuck := World.fallStuck_iff hworm hfall hlanding
      have hfinite := (World.hasRoom_of_landing hworm hfall hlanding).isFinite
      have hplaced : worm.setPosition landed = .ok (worm.placed landed) :=
        Worm.setPosition_eq_ok hfinite
      obtain rfl := World.id_of_worm? hworm
      let s₁ : Simulation α := { s with world := s.world.setWorm (worm.fallen landed) }
      have hfallen : s₁.world.worm? (worm.fallen landed).id = some (worm.fallen landed) :=
        World.worm?_setWorm_self hworm
      have hs₁ : s₁.world.Sound :=
        hs.setWorm_twice hworm (.setPosition hplaced) (.damage _)
      have hsame : s.world.SameWorms s₁.world := .setWorm hworm rfl
      simp only [ends_bind, ends_lift, ends_setWorm, ends_ite, ends_pure, hplaced]
      refine ⟨?_, fun e he => by cases he⟩
      rintro _ ⟨⟩
      refine ⟨fun halive => ?_, fun hdead => ?_⟩
      · refine (ends_eat hs₁ hfallen).mono ?_ ?_
        · rintro _ s' ⟨hchokes, -, rfl⟩
          have hfed : s₁.world.fed (worm.fallen landed) (s₁.world.rationsAt (worm.fallen landed)) =
              s.world.fed (worm.fallen landed) (s.world.rationsAt (worm.fallen landed)) :=
            World.fed_setWorm _ _ _
          exact ⟨fun h => hchokes (hstuck.mp h).2, hends,
            .inr ⟨worm, landed, hworm, hfall, hlanding, hfed⟩⟩
        · rintro _ s' ⟨hchokes, hfewer, hkept⟩
          exact .inr ⟨hstuck.mpr ⟨halive, hchokes⟩, hfewer, hsame.trans hkept⟩
      · refine (ends_killWorm hs₁ hfallen).mono (fun _ _ h => ⟨?_, hends, .inl h.1⟩)
          fun _ _ h => h.elim
        exact fun h => hdead (hstuck.mp h).1
  · exact .inl ⟨.inr ⟨hfall, worm, e, hworm, he⟩, trivial⟩
  · simp [World.canFall, hnone] at hfall

/-- Falling is torn if the worm chokes on what it meets where it lands. -/
theorem torn_fall (hs : s.world.Sound) (id : EntityId) :
    (fall id).TornIff s (s.world.FallStuck id) := by
  refine (ends_fall hs id).mono (fun _ _ h => h.1) ?_
  rintro _ s' (⟨hearly, rfl⟩ | ⟨hstuck, hfewer, hsame⟩)
  · refine untouched rfl fun hstuck => ?_
    rcases hearly with hnot | hrefused
    · exact absurd hstuck.1 (by simpa using hnot)
    · exact hrefused.not_stuck hstuck
  · exact touched hsame hfewer hstuck

/-! ### Moving -/

/-- What comes after a step: the worm eats what it has met, and falls if it has lost its ground. -/
theorem ends_eat_fall (hs : s.world.Sound) (hworm : s.world.worm? worm.id = some worm) :
    let fed := s.world.fed worm (s.world.rationsAt worm)
    (do
      let _ ← eat worm.id
      if (← world).canFall worm.id then fall worm.id : Command α Unit).Ends s
      (fun _ _ => ¬s.world.Chokes worm ∧ ¬fed.FallStuck worm.id ∧ ¬fed.FallRefused worm.id)
      fun _ s' => s.world.SameWorms s'.world ∧
        ((s.world.Chokes worm ∨ ¬s.world.Chokes worm ∧ fed.FallStuck worm.id) ∧
            s'.world.food.length < s.world.food.length ∨
          ¬s.world.Chokes worm ∧ fed.FallRefused worm.id ∧ ¬fed.FallStuck worm.id ∧
            s'.world = fed) := by
  intro fed
  simp only [ends_bind, ends_world, ends_ite, ends_pure]
  have halters : (eat (α := α) worm.id).Alters .leaving := (does_eat worm.id).alters
  refine ((ends_eat hs hworm).and (halters s)).mono ?_ ?_
  · rintro _ _ ⟨⟨hchokes, -, rfl⟩, hchanges⟩
    have hfed : fed.Sound := hs.changes hchanges
    have hsame : s.world.SameWorms fed := .fed hworm
    have hless : fed.food.length ≤ s.world.food.length := List.length_filter_le _ _
    refine ⟨fun hfall => ?_, fun hnot => ⟨hchokes, fun h => hnot h.1, fun h => hnot h.1⟩⟩
    refine (ends_fall (s := { s with world := fed }) hfed worm.id).mono
      (fun _ _ h => ⟨hchokes, h.1, h.2.1⟩) ?_
    rintro _ s' (⟨hnot | hrefused, rfl⟩ | ⟨hstuck, hfewer, hkept⟩)
    · exact absurd hfall (by simpa using hnot)
    · exact ⟨hsame, .inr ⟨hchokes, hrefused, hrefused.not_stuck, rfl⟩⟩
    · exact ⟨hsame.trans hkept, .inl ⟨.inr ⟨hchokes, hstuck⟩, Nat.lt_of_lt_of_le hfewer hless⟩⟩
  · rintro _ s' ⟨⟨hchokes, hfewer, hsame⟩, -⟩
    exact ⟨hsame, .inl ⟨.inl hchokes, hfewer⟩⟩

/-- The same, seen from the world before the step. -/
theorem ends_arrive (hs : s.world.Sound) (hworm : s.world.worm? worm.id = some worm)
    {target : Position α} {cost : Nat} (hpay : cost ≤ worm.actionPoints)
    (hfinite : target.isFinite = true) :
    let moved := (worm.paid cost).placed target
    let fed := s.world.fed moved (s.world.rationsAt moved)
    let stuck := s.world.Chokes moved ∨ ¬s.world.Chokes moved ∧
      (fed.FallStuck worm.id ∨ fed.FallRefused worm.id ∧ fed ≠ s.world)
    (do
      let _ ← eat worm.id
      if (← world).canFall worm.id then fall worm.id : Command α Unit).Ends
      { s with world := s.world.setWorm moved } (fun _ _ => ¬stuck)
      fun _ s' => s.world.SameWorms s'.world ∧ (s'.world ≠ s.world ↔ stuck) := by
  intro moved fed stuck
  let s₁ : Simulation α := { s with world := s.world.setWorm moved }
  have hmoved : s₁.world.worm? moved.id = some moved := World.worm?_setWorm_self hworm
  have hs₁ : s₁.world.Sound := hs.setWorm_twice hworm (.spend (Worm.spend_eq_ok hpay))
    (.setPosition (Worm.setPosition_eq_ok hfinite))
  have hsame : s.world.SameWorms s₁.world := .setWorm hworm rfl
  have hfed : s₁.world.fed moved (s₁.world.rationsAt moved) = fed := World.fed_setWorm _ _ _
  refine (ends_eat_fall hs₁ hmoved).mono ?_ ?_
  · rintro _ s' ⟨hchokes, hfall, hrefused⟩ h
    rw [hfed] at hfall hrefused
    rcases h with h | ⟨-, h | ⟨h, -⟩⟩
    · exact hchokes h
    · exact hfall h
    · exact hrefused h
  · rintro _ s' ⟨hkept, ⟨h, hfewer⟩ | ⟨hchokes, hrefused, hno, hs'⟩⟩
    · rw [hfed] at h
      exact touched (hsame.trans hkept) hfewer (h.imp_right fun h => ⟨h.1, .inl h.2⟩)
    · rw [hfed] at hrefused hno hs'
      rw [hs'] at hkept ⊢
      refine ⟨hsame.trans hkept, fun hne => .inr ⟨hchokes, .inr ⟨hrefused, hne⟩⟩, ?_⟩
      rintro (h | ⟨-, h | ⟨-, hne⟩⟩)
      · exact absurd h hchokes
      · exact absurd h hno
      · exact hne

/-- A move is torn if the worm chokes, or if it falls afterwards and that fall gets stuck or cannot
be followed to its end. -/
theorem torn_move (hs : s.world.Sound) (id : EntityId) :
    (move id).TornIff s (s.world.MoveStuck id) := by
  simp only [TornIff, move, ends_bind, ends_world, ends_lift, ends_requireWorm, ends_setWorm]
  -- Whatever is refused before the worm pays is refused in the world as it was.
  refine ⟨?_, fun e he => untouched rfl ?_⟩
  · rintro ⟨target, cost⟩ hplan
    refine ⟨fun worm hworm => ⟨fun samples hsamples => ⟨fun paid hpaid => ?_, fun e he =>
      untouched rfl ?_⟩, fun e he => untouched rfl ?_⟩, fun hnone => untouched rfl ?_⟩
    · obtain ⟨hpay, rfl⟩ := Worm.spend_eq_ok_iff.mp hpaid
      obtain rfl := World.id_of_worm? hworm
      let moved := (worm.paid cost).placed target
      have hfinite := (World.hasRoom_of_planMove hworm hplan).isFinite
      have hplaced : (worm.paid cost).setPosition target = .ok moved :=
        Worm.setPosition_eq_ok hfinite
      refine ⟨fun placed hplaced' => ?_, fun e he => by cases hplaced.symm.trans he⟩
      cases hplaced.symm.trans hplaced'
      have htwice : (s.world.setWorm (worm.paid cost)).setWorm moved = s.world.setWorm moved :=
        World.setWorm_setWorm _ rfl
      rw [World.moveStuck_iff hworm hplan hsamples hpay]
      show Ends _ { s with world := (s.world.setWorm (worm.paid cost)).setWorm moved } _ _
      rw [htwice, ends_ite]
      refine ⟨fun hinside => ?_, fun houtside => ?_⟩
      · have hinside : s.world.grid.isInside target worm.radius = true := hinside
        simp only [hinside, true_and]
        exact ends_arrive hs hworm hpay hfinite
      · let s₁ : Simulation α := { s with world := s.world.setWorm moved }
        have hmoved : s₁.world.worm? moved.id = some moved := World.worm?_setWorm_self hworm
        have hs₁ : s₁.world.Sound :=
          hs.setWorm_twice hworm (.spend (Worm.spend_eq_ok hpay)) (.setPosition hplaced)
        exact (ends_killWorm hs₁ hmoved).mono (fun _ _ _ h => houtside h.1) fun _ _ h => h.elim
    · rintro ⟨worm', target', cost', -, hworm', hplan', -, hpay, -⟩
      cases hworm.symm.trans hworm'
      cases hplan.symm.trans hplan'
      cases he.symm.trans (Worm.spend_eq_ok hpay)
    · rintro ⟨worm', target', cost', samples, hworm', hplan', hsamples, -⟩
      cases hworm.symm.trans hworm'
      cases hplan.symm.trans hplan'
      cases he.symm.trans hsamples
    · rintro ⟨worm', -, -, -, hworm', -⟩
      cases hnone.symm.trans hworm'
  · rintro ⟨-, target, cost, -, -, hplan, -⟩
    cases he.symm.trans hplan

/-! ### Jumping -/

/-- **Jumping** is refused for two reasons: the jump has no end, or it gets stuck. Only then
something has been done. A worm that jumps out of the world is gone, and one that lands eats what it
meets. -/
theorem ends_jumpWith (hs : s.world.Sound) (id : EntityId) (timeStep : α) :
    (jumpWith id timeStep).Ends s
      (fun _ s' => ∃ worm landing, s.world.worm? id = some worm ∧
        s.world.jumpTarget? id timeStep = some landing ∧ landing.position.isFinite = true ∧
        (∀ spot time, landing = .exit spot time → s'.world.worm? id = none) ∧
        ∀ spot time, landing = .ground spot time →
          let landed := worm.drain.placed spot
          ¬s.world.Chokes landed ∧
            s' = { s with world := s.world.fed landed (s.world.rationsAt landed) })
      fun _ s' => s.world.jumpTarget? id timeStep = none ∧ s' = s ∨
        s.world.JumpStuck id timeStep ∧ s.world.SameWorms s'.world ∧ s'.world ≠ s.world := by
  simp only [jumpWith, ends_bind, ends_world, ends_lift]
  refine ⟨fun _ _ => ?_, fun e he => .inl ⟨?_, trivial⟩⟩
  · split
    · rename_i landing htarget
      obtain ⟨-, worm, hworm, hpoints, -⟩ := World.jumpTarget?_eq_some htarget
      obtain rfl := World.id_of_worm? hworm
      have hstuck := World.jumpStuck_iff hworm htarget
      simp only [ends_bind, ends_requireWorm, ends_setWorm, ends_lift, hworm, hstuck]
      simp only [Option.some.injEq, forall_eq', reduceCtorEq, false_implies, and_true]
      refine ⟨fun placed hplaced => ?_, fun e he => ?_⟩
      · have hfinite := (Worm.setPosition_eq_ok_iff.mp hplaced).1
        cases hplaced.symm.trans (Worm.setPosition_eq_ok hfinite)
        let jumped := worm.drain.placed landing.position
        let s₁ : Simulation α := { s with world := s.world.setWorm jumped }
        have hjumped : s₁.world.worm? jumped.id = some jumped := World.worm?_setWorm_self hworm
        have hs₁ : s₁.world.Sound := hs.setWorm_twice hworm .drain (.setPosition hplaced)
        have hsame : s.world.SameWorms s₁.world := .setWorm hworm rfl
        have htwice : (s.world.setWorm worm.drain).setWorm jumped = s₁.world :=
          World.setWorm_setWorm _ rfl
        show Ends _ { s with world := (s.world.setWorm worm.drain).setWorm jumped } _ _
        rw [htwice]
        cases landing with
        | exit spot time =>
          refine (ends_killWorm hs₁ hjumped).mono (fun _ _ hgone => ?_) fun _ _ h => h.elim
          refine ⟨worm, _, rfl, htarget, hfinite, fun _ _ _ => hgone.1, ?_⟩
          rintro _ _ ⟨⟩
        | ground spot time =>
          simp only [ends_bind, ends_pure]
          have hfed : s₁.world.fed jumped (s₁.world.rationsAt jumped) =
              s.world.fed jumped (s.world.rationsAt jumped) := World.fed_setWorm _ _ _
          refine (ends_eat hs₁ hjumped).mono ?_ ?_
          · rintro _ _ ⟨hchokes, -, rfl⟩
            refine ⟨worm, _, rfl, htarget, hfinite, ?_, ?_⟩
            · rintro _ _ ⟨⟩
            · rintro _ _ ⟨⟩
              exact ⟨hchokes, congrArg (fun w => { s with world := w }) hfed⟩
          · rintro _ s' ⟨hchokes, hfewer, hkept⟩
            refine .inr ⟨.inr ⟨hfinite, spot, time, rfl, hchokes⟩, hsame.trans hkept, ?_⟩
            exact fun heq => Nat.lt_irrefl _ (heq ▸ hfewer)
      · -- The points are gone by now, and the worm is where it was.
        have hinfinite : landing.position.isFinite = false := by
          rw [← Bool.not_eq_true]
          intro hfinite
          cases he.symm.trans (Worm.setPosition_eq_ok hfinite)
        refine .inr ⟨.inl hinfinite, .setWorm hworm rfl, fun heq => hpoints ?_⟩
        have hdrained : (s.world.setWorm worm.drain).worm? worm.id = some worm.drain :=
          World.worm?_setWorm_self hworm
        rw [heq] at hdrained
        exact congrArg Worm.actionPoints (Option.some.inj (hworm.symm.trans hdrained))
    · rename_i hnone
      exact .inl ⟨Option.eq_none_iff_forall_ne_some.mpr hnone, rfl⟩
  · refine Option.eq_none_iff_forall_ne_some.mpr fun landing htarget => ?_
    cases he.symm.trans (World.jumpTarget?_eq_some htarget).1

/-- A jump is torn if the worm chokes where it lands, or if it ends at a spot that is not finite.
-/
theorem torn_jumpWith (hs : s.world.Sound) (id : EntityId) (timeStep : α) :
    (jumpWith id timeStep).TornIff s (s.world.JumpStuck id timeStep) := by
  refine (ends_jumpWith hs id timeStep).mono ?_ ?_
  · rintro _ s' ⟨worm, landing, hworm, htarget, hfinite, -, hground⟩ hstuck
    rcases (World.jumpStuck_iff hworm htarget).mp hstuck with hinfinite | ⟨-, spot, time, rfl, h⟩
    · exact absurd hfinite (by simpa using hinfinite)
    · exact (hground spot time rfl).1 h
  · rintro _ s' (⟨hnone, rfl⟩ | ⟨hstuck, hsame, hne⟩)
    · refine untouched rfl ?_
      rintro ⟨worm, landing, -, htarget, -⟩
      cases hnone.symm.trans htarget
    · exact ⟨hsame, iff_of_true hne hstuck⟩

/-- A jump is torn if the worm chokes where it lands, or if it ends at a spot that is not finite.
-/
theorem torn_jump (hs : s.world.Sound) (id : EntityId) :
    (jump id).TornIff s (s.world.JumpStuck id s.world.config.timeStep) := by
  rw [TornIff, jump, ends_bind, ends_world]
  exact torn_jumpWith hs id s.world.config.timeStep

end Command

end WormBattle
