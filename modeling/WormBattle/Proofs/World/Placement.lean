import WormBattle.Proofs.Scalar.Truncation
import WormBattle.Proofs.World.Numbers

/-!
# Random placement

A spot for a disc is searched from random points of the world. The walks from these points are tried
one after the other, and every point is made of two random numbers, so the numbers that have been
drawn tell how many points were tried (`Command.carryOut_spotAfter`). A walk looks for the first of
its samples where the disc touches terrain, and the number of samples is bounded
(`World.walk_bounded`).

The spot that is found is where an entity is put. The entity gets the next number, which nothing in
the world can have (`Simulation.Numbered.next_notMem`), so once it has been made the world cannot
refuse it. What can be refused is the search, and it has then only drawn random numbers
(`Simulation.OnlyDraws`).
-/

namespace WormBattle

open Scalar

/-- The candidates from the next number on are the candidates of the shifted search. -/
theorem firstSome?_succ {ε β : Type} (f : Nat → Except ε (Option β)) (start count : Nat) :
    firstSome? f (start + 1) count = firstSome? (fun i => f (i + 1)) start count := by
  induction count generalizing start with
  | zero => rfl
  | succ count ih => rw [firstSome?, firstSome?, ih]

variable {α : Type}

/-- The simulation after so many random numbers have been drawn. -/
def Simulation.drawing (s : Simulation α) (count : Nat) : Simulation α :=
  let random := { s.world.random with drawn := s.world.random.drawn + count }
  { s with world := { s.world with random } }

private theorem Simulation.drawing_drawing (s : Simulation α) (m n : Nat) :
    (s.drawing m).drawing n = s.drawing (m + n) := by
  simp only [drawing, Nat.add_assoc]

variable [Scalar α]

namespace World

/-- The point at which an attempt starts, made of the two random numbers that are its turn. -/
def startAt (w : World α) (attempt : Nat) : Position α :=
  ⟨w.random.number (w.random.drawn + 2 * attempt) * w.grid.width,
    w.random.number (w.random.drawn + 2 * attempt + 1) * w.grid.height⟩

/-- A disc lies inside the world and in contact with terrain. -/
def Touches (w : World α) (spot : Position α) (radius : α) : Prop :=
  w.grid.isInside spot radius = true ∧ w.grid.classify spot radius = .ok .contact

variable {w : World α} {radius step distance bearing : α} {start spot : Position α}

private theorem touches_of_foothold? {k : Nat}
    (h : w.foothold? radius step distance bearing start k = .ok (some spot)) :
    w.Touches spot radius := by
  simp only [foothold?] at h
  split at h
  · cases h
  · rename_i hinside
    rw [bind_eq_ok_iff] at h
    obtain ⟨location, hlocation, h⟩ := h
    split at h
    · rename_i hcontact
      cases h
      exact ⟨by simpa using hinside, hcontact ▸ hlocation⟩
    · cases h

private theorem touches_of_walk (h : w.walk radius step start = .ok (some spot)) :
    w.Touches spot radius := by
  simp only [walk, bind_eq_ok_iff] at h
  obtain ⟨samples, -, hfound⟩ := h
  obtain ⟨k, -, hk, -⟩ := firstSome?_eq_some_iff.mp hfound
  exact touches_of_foothold? hk

/-- A walk is refused at once, or it looks for a foothold among a bounded number of samples. -/
theorem walk_bounded [Truncates α] (w : World α) (radius step : α) (start : Position α) :
    (∃ e, w.walk radius step start = .error e) ∨ ∃ samples ≤ maxSamples,
      w.walk radius step start = firstSome? (w.foothold? radius step (start.distance w.centre)
        (start.bearingTo w.centre) start) 0 samples := by
  rw [walk]
  cases hsamples : sampleCount (start.distance w.centre) step with
  | error e => exact .inl ⟨e, rfl⟩
  | ok samples =>
    refine .inr ⟨samples, ?_, rfl⟩
    simp only [sampleCount] at hsamples
    split at hsamples
    · cases hsamples
    · split at hsamples
      · cases hsamples
      · split at hsamples
        · cases hsamples
        · rename_i hfew
          cases hsamples
          exact Truncates.toNat_le hfew

private theorem startAt_drawing (s : Simulation α) (attempt : Nat) :
    (s.drawing 2).world.startAt attempt = s.world.startAt (attempt + 1) := by
  have hplace : s.world.random.drawn + 2 + 2 * attempt =
      s.world.random.drawn + 2 * (attempt + 1) := by omega
  simp only [startAt, Simulation.drawing, hplace]

end World

namespace Command

variable {s : Simulation α} {radius step : α}

private theorem carryOut_spotAfter_succ (s : Simulation α) (radius step : α) (attempts : Nat) :
    (spotAfter radius step (attempts + 1)).carryOut s =
      match s.world.walk radius step (s.world.startAt 0) with
      | .ok (some spot) => (.ok (some spot), s.drawing 2)
      | .ok none => (spotAfter radius step attempts).carryOut (s.drawing 2)
      | .error e => (.error e, s.drawing 2) := by
  have hworld : (world : Command α (World α)).carryOut s = (.ok s.world, s) := rfl
  have hdraw : ∀ s : Simulation α, draw.carryOut s =
    (.ok (s.world.random.number s.world.random.drawn), s.drawing 1) := fun _ => rfl
  have hstart : (⟨s.world.random.number s.world.random.drawn * s.world.grid.width,
      (s.drawing 1).world.random.number (s.drawing 1).world.random.drawn *
        s.world.grid.height⟩ : Position α) = s.world.startAt 0 := rfl
  simp only [spotAfter, carryOut_bind, carryOut_lift, hworld, hdraw, hstart,
    Simulation.drawing_drawing]
  rcases s.world.walk radius step (s.world.startAt 0) with e | _ | spot <;> rfl

/-- **The search for a spot** is a search among the walks from the starting points. It draws two
numbers for each point that it tries. -/
theorem carryOut_spotAfter (s : Simulation α) (radius step : α) (attempts : Nat) :
    ∃ tried ≤ attempts, (spotAfter radius step attempts).carryOut s =
      (firstSome? (fun attempt => s.world.walk radius step (s.world.startAt attempt)) 0 attempts,
        s.drawing (2 * tried)) := by
  induction attempts generalizing s with
  | zero => exact ⟨0, Nat.le_refl 0, rfl⟩
  | succ attempts ih =>
    rw [carryOut_spotAfter_succ, firstSome?]
    cases hwalk : s.world.walk radius step (s.world.startAt 0) with
    | error e => exact ⟨1, by omega, rfl⟩
    | ok spot? =>
      cases spot? with
      | some spot => exact ⟨1, by omega, rfl⟩
      | none =>
        obtain ⟨tried, hle, hrest⟩ := ih (s.drawing 2)
        refine ⟨tried + 1, by omega, ?_⟩
        rw [hrest, Simulation.drawing_drawing, firstSome?_succ, Nat.mul_add, Nat.add_comm]
        simp only [World.startAt_drawing]
        rfl

/-- A spot that is found is one where the disc touches terrain. -/
theorem ends_findSpot (s : Simulation α) (radius : α) :
    (findSpot radius).Ends s
      (fun spot s' => s.world.Touches spot radius ∧
        ∃ tried ≤ s.world.config.spawn.attempts, s' = s.drawing (2 * tried))
      (fun _ s' => ∃ tried ≤ s.world.config.spawn.attempts, s' = s.drawing (2 * tried)) := by
  obtain ⟨tried, hle, hsearch⟩ := carryOut_spotAfter s radius
    (radius * s.world.config.worm.searchStepFraction) s.world.config.spawn.attempts
  simp only [findSpot, ends_bind, ends_world]
  rw [Ends, hsearch]
  cases hresult : firstSome? (fun attempt => s.world.walk radius
      (radius * s.world.config.worm.searchStepFraction) (s.world.startAt attempt)) 0
      s.world.config.spawn.attempts with
  | error e => exact ⟨tried, hle, rfl⟩
  | ok spot? =>
    cases spot? with
    | none => exact ends_throw.mpr ⟨tried, hle, rfl⟩
    | some spot =>
      obtain ⟨attempt, -, hwalk, -⟩ := firstSome?_eq_some_iff.mp hresult
      exact ends_pure.mpr ⟨World.touches_of_walk hwalk, tried, hle, rfl⟩

end Command

/-! ### Entering -/

/-- Nothing but the random stream has moved on. -/
def Simulation.OnlyDraws (s s' : Simulation α) : Prop :=
  ∃ count ≤ 2 * s.world.config.spawn.attempts + 1, s' = s.drawing count

/-- An entity has entered the world at a spot where it touches terrain. -/
structure Simulation.Places (s s' : Simulation α) (e : Entity α) (enter : World α → World α) :
    Prop where
  /-- Nothing else is different but the random stream and the supply of numbers. -/
  added : ∃ drawn, s.OnlyDraws drawn ∧
    s' = { drawn with world := enter drawn.world, ids := ⟨s.ids.next + 1⟩ }
  /-- It is the one entity that is listed in addition. -/
  listed : s'.world.listed.Perm (e :: s.world.listed)
  /-- It was not listed before. -/
  new : e.id ∉ s.world.ids
  /-- It is a member of the world. -/
  member : e.body.membership = .member s.world.id
  /-- It lies inside the world, in contact with terrain. -/
  touches : s.world.Touches e.body.position e.body.radius

omit [Scalar α] in
/-- The next number is not in use. -/
theorem Simulation.Numbered.next_notMem {s : Simulation α} (h : s.Numbered) :
    (⟨s.ids.next⟩ : EntityId) ∉ s.world.ids :=
  fun hmem => Nat.lt_irrefl _ (h _ hmem)

/-- The worm as a world lists it. -/
def Worm.listedBy (worm : Worm α) (world : WorldId) : Worm α :=
  { worm with body := { worm.body with membership := .member world } }

/-- The ration as a world lists it. -/
def Food.listedBy (food : Food α) (world : WorldId) : Food α :=
  { food with body := { food.body with membership := .member world } }

omit [Scalar α] in
/-- What is new and detached can enter an open world. -/
theorem World.admits_new {w : World α} {body : Body α} (hopen : w.isTerminated = false)
    (hnew : body.id ∉ w.ids) (hdetached : body.membership = .detached) :
    w.checkRegistrable body = .ok () ∧
      body.attach w.id = .ok { body with membership := .member w.id } := by
  have hlives : body.isTerminated = false := by
    rw [Body.isTerminated, hdetached]
    rfl
  exact ⟨checkRegistrable_eq_ok_iff.mpr ⟨hopen, hlives, contains_eq_false_iff_ids.mpr hnew⟩,
    Body.attach_eq_ok_iff.mpr ⟨hdetached, rfl⟩⟩

namespace Command

variable {s : Simulation α}

omit [Scalar α] in
/-- A new worm without a team enters an open world. -/
theorem carryOut_addWorm {worm : Worm α} (hopen : s.world.isTerminated = false)
    (hnew : worm.id ∉ s.world.ids) (hdetached : worm.body.membership = .detached)
    (hteam : worm.team = none) :
    (addWorm worm).carryOut s = (.ok worm.id, { s with world :=
      { s.world with worms := s.world.worms ++ [worm.listedBy s.world.id] } }) := by
  obtain ⟨hregistrable, hattach⟩ := World.admits_new hopen hnew hdetached
  have hworld : (world : Command α (World α)).carryOut s = (.ok s.world, s) := rfl
  simp only [addWorm, carryOut_bind, hworld, carryOut_lift, hregistrable, hattach, hteam,
    Worm.listedBy]
  rfl

omit [Scalar α] in
/-- A new ration enters an open world. -/
theorem carryOut_addFood {food : Food α} (hopen : s.world.isTerminated = false)
    (hnew : food.id ∉ s.world.ids) (hdetached : food.body.membership = .detached) :
    (addFood food).carryOut s = (.ok food.id, { s with world :=
      { s.world with food := World.insertFood (food.listedBy s.world.id) s.world.food } }) := by
  obtain ⟨hregistrable, hattach⟩ := World.admits_new hopen hnew hdetached
  have hworld : (world : Command α (World α)).carryOut s = (.ok s.world, s) := rfl
  simp only [addFood, carryOut_bind, hworld, carryOut_lift, hregistrable, hattach]
  rfl

omit [Scalar α] in
private theorem ends_draw {done : α → Simulation α → Prop}
    {refused : Error α → Simulation α → Prop} :
    draw.Ends s done refused ↔ done (s.world.random.number s.world.random.drawn) (s.drawing 1) :=
  Iff.rfl

section Placed

variable {drawn : Simulation α}

/-- A worm of the next number enters after some random numbers have been drawn. -/
theorem ends_addWorm_drawn (hnumbered : s.Numbered) (hdraws : s.OnlyDraws drawn)
    (hopen : s.world.isTerminated = false) {worm : Worm α} (hid : worm.id = ⟨s.ids.next⟩)
    (hdetached : worm.body.membership = .detached) (hteam : worm.team = none)
    (htouches : s.world.Touches worm.position worm.radius) :
    let placed := worm.listedBy s.world.id
    (addWorm worm).Ends { drawn with ids := ⟨s.ids.next + 1⟩ }
      (fun id s' => id = worm.id ∧
        s.Places s' (.worm placed) fun w => { w with worms := w.worms ++ [placed] })
      fun _ _ => False := by
  intro placed
  obtain ⟨count, hle, rfl⟩ := hdraws
  have hnew : worm.id ∉ s.world.ids := hid ▸ hnumbered.next_notMem
  have hperm : { s.world with worms := s.world.worms ++ [placed] }.listed.Perm
      (.worm placed :: s.world.listed) := by
    simp only [World.listed, List.map_append, List.append_assoc]
    exact List.perm_middle
  rw [Ends, carryOut_addWorm (s := { s.drawing count with ids := _ }) hopen hnew hdetached hteam]
  exact ⟨rfl, ⟨_, ⟨count, hle, rfl⟩, rfl⟩, hperm, hnew, rfl, htouches⟩

/-- A ration of the next number enters after some random numbers have been drawn. -/
theorem ends_addFood_drawn (hnumbered : s.Numbered) (hdraws : s.OnlyDraws drawn)
    (hopen : s.world.isTerminated = false) {food : Food α} (hid : food.id = ⟨s.ids.next⟩)
    (hdetached : food.body.membership = .detached)
    (htouches : s.world.Touches food.body.position food.body.radius) :
    let placed := food.listedBy s.world.id
    (addFood food).Ends { drawn with ids := ⟨s.ids.next + 1⟩ }
      (fun id s' => id = food.id ∧
        s.Places s' (.food placed) fun w => { w with food := World.insertFood placed w.food })
      fun _ _ => False := by
  intro placed
  obtain ⟨count, hle, rfl⟩ := hdraws
  have hnew : food.id ∉ s.world.ids := hid ▸ hnumbered.next_notMem
  have hperm : { s.world with food := World.insertFood placed s.world.food }.listed.Perm
      (.food placed :: s.world.listed) := by
    have hfood := (World.insertFood_perm placed s.world.food).map Entity.food
    exact ((hfood.append_left _).append_right _).trans (List.perm_middle.append_right _)
  rw [Ends, carryOut_addFood (s := { s.drawing count with ids := _ }) hopen hnew hdetached]
  exact ⟨rfl, ⟨_, ⟨count, hle, rfl⟩, rfl⟩, hperm, hnew, rfl, htouches⟩

end Placed

/-- A worm that is placed at random touches terrain where it is put, and if none is placed, only
random numbers have been drawn. -/
theorem ends_addNewWorm (hnumbered : s.Numbered) (program : Option (ProgramInstance α)) :
    (addNewWorm program).Ends s
      (fun id s' => ∃ worm : Worm α,
        s.Places s' (.worm worm) (fun w => { w with worms := w.worms ++ [worm] }) ∧
          worm.id = id ∧ worm.radius = s.world.config.worm.spawnRadius ∧
            Text.isWormName worm.name = true ∧ worm.program = program.map (·.bind id))
      (fun _ s' => s.OnlyDraws s') := by
  simp only [addNewWorm, ends_bind, ends_world, ends_lift]
  refine ⟨fun _ hopen => ?_, fun _ _ => ⟨0, Nat.zero_le _, rfl⟩⟩
  have hopen := World.checkOpen_eq_ok_iff.mp hopen
  refine (ends_findSpot s _).mono ?done ?refused
  case refused =>
    rintro _ _ ⟨tried, hle, rfl⟩
    exact ⟨2 * tried, by omega, rfl⟩
  rintro spot _ ⟨htouches, tried, hle, rfl⟩
  simp only [ends_draw, ends_mint, Simulation.drawing_drawing]
  have hdraws : s.OnlyDraws (s.drawing (2 * tried + 1)) := ⟨_, by omega, rfl⟩
  refine ⟨fun worm hworm => ?_, fun _ _ => hdraws⟩
  obtain ⟨hname, -, -, rfl⟩ := Worm.make_eq_ok_iff.mp hworm
  -- With and without a program the same worm is listed, but for the program.
  cases program
  all_goals
    refine Ends.mono (ends_addWorm_drawn hnumbered hdraws hopen ?_ ?_ ?_ htouches) ?_
      fun _ _ => False.elim
    iterate 3 rfl
    rintro _ s' ⟨rfl, hplaces⟩
    exact ⟨_, hplaces, rfl, rfl, hname, rfl⟩

/-- A ration that is placed at random touches terrain where it is put, and if none is placed, only
random numbers have been drawn. -/
theorem ends_addNewFood (hnumbered : s.Numbered) :
    addNewFood.Ends s
      (fun id s' => ∃ food : Food α,
        s.Places s' (.food food) (fun w => { w with food := World.insertFood food w.food }) ∧
          food.id = id ∧ food.body.radius = s.world.config.food.radius)
      (fun _ s' => s.OnlyDraws s') := by
  simp only [addNewFood, ends_bind, ends_world, ends_lift]
  refine ⟨fun _ hopen => ?_, fun _ _ => ⟨0, Nat.zero_le _, rfl⟩⟩
  have hopen := World.checkOpen_eq_ok_iff.mp hopen
  refine (ends_findSpot s _).mono ?done ?refused
  case refused =>
    rintro _ _ ⟨tried, hle, rfl⟩
    exact ⟨2 * tried, by omega, rfl⟩
  rintro spot _ ⟨htouches, tried, hle, rfl⟩
  rw [ends_mint]
  have hdraws : s.OnlyDraws (s.drawing (2 * tried)) := ⟨_, by omega, rfl⟩
  refine ⟨fun food hfood => ?_, fun _ _ => hdraws⟩
  obtain ⟨body, hbody, ⟨⟩⟩ := bind_eq_ok_iff.mp hfood
  obtain ⟨-, -, -, rfl⟩ := Body.make_eq_ok_iff.mp hbody
  refine Ends.mono (ends_addFood_drawn hnumbered hdraws hopen rfl rfl htouches) ?_
    fun _ _ => False.elim
  rintro _ s' ⟨rfl, hplaces⟩
  exact ⟨_, hplaces, rfl, rfl⟩

end Command

namespace Simulation

variable {s : Simulation α}

/-- **Random placement is sound**, whatever the random numbers are. A worm or a ration that is
placed is the only one that is new, the worm at the end of the turn order; its disc lies inside the
world in contact with terrain, and a worm has a legal name and carries the program that it was
given, bound to it. If nothing is placed, only random numbers have been drawn. The search draws two
numbers for each point that it tries and tries no more points than it may, and from each of them it
looks at no more than `maxSamples` samples. -/
theorem Reachable.random_placement [Truncates α] (h : s.Reachable) (random : RandomStream α) :
    let s₀ : Simulation α := { s with world := { s.world with random } }
    (∀ program, (Command.addNewWorm program).Ends s₀
      (fun id s' => ∃ worm : Worm α,
        s₀.Places s' (.worm worm) (fun w => { w with worms := w.worms ++ [worm] }) ∧
          worm.id = id ∧ worm.radius = s.world.config.worm.spawnRadius ∧
            Text.isWormName worm.name = true ∧ worm.program = program.map (·.bind id))
      fun _ s' => s₀.OnlyDraws s') ∧
    Command.addNewFood.Ends s₀
      (fun id s' => ∃ food : Food α,
        s₀.Places s' (.food food) (fun w => { w with food := World.insertFood food w.food }) ∧
          food.id = id ∧ food.body.radius = s.world.config.food.radius)
      (fun _ s' => s₀.OnlyDraws s') ∧
    (∀ radius step attempts, ∃ tried ≤ attempts,
      (Command.spotAfter radius step attempts).carryOut s₀ =
        (firstSome? (fun attempt => s₀.world.walk radius step (s₀.world.startAt attempt)) 0
          attempts, s₀.drawing (2 * tried))) ∧
    ∀ radius step start, (∃ e, s₀.world.walk radius step start = .error e) ∨
      ∃ samples ≤ maxSamples, s₀.world.walk radius step start =
        firstSome? (s₀.world.foothold? radius step (start.distance s₀.world.centre)
          (start.bearingTo s₀.world.centre) start) 0 samples := by
  intro s₀
  have hnumbered : s₀.Numbered := h.numbered
  exact ⟨fun program => Command.ends_addNewWorm hnumbered program,
    Command.ends_addNewFood hnumbered, Command.carryOut_spotAfter s₀, s₀.world.walk_bounded⟩

omit [Scalar α] in
/-- A world whose lower third is terrain, with nothing in it. -/
def ledge : Simulation Rat :=
  let ground : TerrainGrid Rat :=
    { TerrainGrid.empty 9 9 with
      rows := 3
      cols := 1
      cells := #[true, true, false]
      size_cells := rfl }
  { world := .fresh ⟨1⟩ ground default, ids := ⟨1⟩ }

private theorem reachable_ledge : ledge.Reachable :=
  .onGrid ⟨1⟩ (World.onGrid_eq_ok_iff.mpr ⟨by decide +kernel, rfl⟩)

/-- A worm is placed on the ledge at the first point that is tried. -/
theorem random_placement_ledge :
    let random : RandomStream Rat := { number := fun _ => 0.39 }
    let s : Simulation Rat := { ledge with world := { ledge.world with random } }
    ∃ id s' worm, (Command.addNewWorm none).carryOut s = (.ok id, s') ∧
      s.Places s' (.worm worm) (fun w => { w with worms := w.worms ++ [worm] }) ∧
        worm.position = ⟨3.51, 3.51⟩ := by
  intro random s
  obtain ⟨hworm, -⟩ := reachable_ledge.random_placement random
  obtain ⟨id, hdone⟩ : ∃ id, (Command.addNewWorm none).carryOut s =
      (.ok id, ((Command.addNewWorm none).carryOut s).2) :=
    Command.exists_of_isOk (by decide +kernel)
  obtain ⟨worm, hplaces, -⟩ := (hworm none).of_ok hdone
  have hworms : ((Command.addNewWorm none).carryOut s).2.world.worms.map Worm.position =
      [⟨3.51, 3.51⟩] := by
    decide +kernel
  obtain ⟨_, ⟨count, -, rfl⟩, hadded⟩ := hplaces.added
  rw [hadded] at hworms
  exact ⟨id, _, worm, hdone, hplaces, (List.cons.inj hworms).1⟩

end Simulation

end WormBattle
