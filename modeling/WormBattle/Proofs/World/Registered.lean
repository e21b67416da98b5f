import WormBattle.Proofs.Scalar.Rational
import WormBattle.Proofs.World.Eating
import WormBattle.Proofs.World.Reachable

/-!
# The registry is in order

What a world lists, and what it keeps in its registry about it, fits together in every reachable
simulation (`World.Registered`): nothing is listed twice, everything listed is a member and stands
where it belongs, the worms' teams are known and not too many, programs run for the worms that carry
them, and a terminated world is empty for good.

The registry changes by small steps: an entity enters or some leave, a ration is filed, a team is
added (`World.RegistryStep`). Every change of a world is such a step, and so is the start of a turn.
-/

namespace WormBattle

variable {α : Type}

namespace World

/-- All that a world lists: the worms in turn order, the rations by their numbers, and the
projectile. -/
def listed (w : World α) : List (Entity α) :=
  w.worms.map Entity.worm ++ w.food.map Entity.food ++ (w.projectile.map Entity.projectile).toList

/-- The numbers of all that a world lists. -/
def ids (w : World α) : List EntityId :=
  w.listed.map Entity.id

/-- The rations are in the order of their numbers. -/
def FoodOrdered (rations : List (Food α)) : Prop :=
  rations.Pairwise fun f g => f.id.value < g.id.value

/-- A registry in order. -/
structure Registered (w : World α) : Prop where
  /-- No number is listed twice. -/
  nodup : w.ids.Nodup
  /-- What is listed is a member. -/
  member : ∀ e ∈ w.listed, e.body.membership = .member w.id
  /-- Every ration is found under its own number. -/
  filed : ∀ food ∈ w.food, w.food? food.id = some food
  /-- The rations are in order. -/
  ordered : FoodOrdered w.food
  /-- The teams of the worms are teams of the world. -/
  team : ∀ worm ∈ w.worms, ∀ name, worm.team = some name → ∃ team ∈ w.teams, team.name = name
  /-- No name of a team is used twice. -/
  teamNodup : (w.teams.map Team.name).Nodup
  /-- There are no more teams than may be. -/
  teamRoom : w.teams.length ≤ w.config.spawn.maxTeams
  /-- Programs run for the worms that carry them. -/
  bound : ∀ worm ∈ w.worms, ∀ i, worm.program = some i → i.worm = some worm.id
  /-- A terminated world lists nothing. -/
  closed : w.isTerminated = true → w.listed = [] ∧ w.teams = []

variable {w w' : World α} {id : EntityId}

/-! ### What is listed -/

/-- The numbers of the worms, the rations and the projectile, in this order. -/
theorem ids_eq (w : World α) : w.ids =
    w.worms.map Worm.id ++ w.food.map Food.id ++ (w.projectile.map Projectile.id).toList := by
  rw [ids, listed, List.map_append, List.map_append, List.map_map, List.map_map]
  cases w.projectile <;> rfl

/-- No entity is listed if no number is. -/
theorem listed_eq_nil_iff : w.listed = [] ↔ w.ids = [] :=
  List.map_eq_nil_iff.symm

private theorem forall_mem_listed {P : Entity α → Prop} : (∀ e ∈ w.listed, P e) ↔
    (∀ worm ∈ w.worms, P (.worm worm)) ∧ (∀ food ∈ w.food, P (.food food)) ∧
      ∀ p, w.projectile = some p → P (.projectile p) := by
  simp [listed, or_imp, forall_and]

/-- The free numbers are those that are not listed. -/
theorem contains_eq_false_iff_ids : w.contains id = false ↔ id ∉ w.ids := by
  have hprojectile : (∀ p, w.projectile = some p → p.id ≠ id) ↔
      id ∉ (w.projectile.map Projectile.id).toList := by
    simp [eq_comm]
  rw [contains_eq_false_iff, worm?_eq_none_iff, food?_eq_none_iff, hprojectile, ids_eq,
    List.mem_append, List.mem_append, not_or, not_or, and_assoc]

/-- Rations with different numbers are found under their numbers. -/
theorem food?_of_mem {food : Food α} (hnodup : (w.food.map Food.id).Nodup) (hmem : food ∈ w.food) :
    w.food? food.id = some food := by
  obtain ⟨other, hother⟩ : ∃ other, w.food? food.id = some other := by
    rw [← Option.isSome_iff_exists, food?, List.find?_isSome]
    exact ⟨food, hmem, by simp⟩
  have hid : other.id = food.id := by simpa using List.find?_some hother
  have heq : other = food :=
    List.inj_on_of_nodup_map hnodup (List.mem_of_find?_eq_some hother) hmem hid
  rw [hother, heq]

/-- A ration goes to the place that its number gives it. -/
theorem FoodOrdered.insertFood {food : Food α} {rations : List (Food α)} (h : FoodOrdered rations)
    (hnew : food.id ∉ rations.map Food.id) : FoodOrdered (insertFood food rations) := by
  induction rations with
  | nil => exact List.pairwise_singleton _ _
  | cons f rations ih =>
    obtain ⟨hfirst, hrest⟩ := List.pairwise_cons.mp h
    rw [List.map_cons, List.mem_cons, not_or] at hnew
    rw [World.insertFood]
    split
    · rename_i hless
      refine List.pairwise_cons.mpr ⟨fun g hg => ?_, h⟩
      rcases List.mem_cons.mp hg with rfl | hg
      · exact hless
      · exact hless.trans (hfirst g hg)
    · rename_i hless
      refine List.pairwise_cons.mpr ⟨forall_mem_insertFood ?_ hfirst, ih hrest hnew.2⟩
      have hne : food.id.value ≠ f.id.value := fun heq => hnew.1 (congrArg EntityId.mk heq)
      omega

variable [Scalar α]

/-! ### Steps of the registry -/

/-- One step of the registry: an entity enters or some leave, a team is added. -/
structure RegistryStep (w w' : World α) : Prop where
  /-- What enters is new to an open world. -/
  ids : w'.ids.Sublist w.ids ∨
    w.isTerminated = false ∧ ∃ id, id ∉ w.ids ∧ w'.ids.Perm (id :: w.ids)
  /-- A ration that enters goes to its place. -/
  food : w'.food.Sublist w.food ∨
    ∃ food, food.id ∉ w.food.map Food.id ∧ w'.food = insertFood food w.food
  /-- A worm is in the team of some worm before, or in a known one. -/
  worms : ∀ worm' ∈ w'.worms, worm'.team = none ∨ (∃ worm ∈ w.worms, worm'.team = worm.team) ∨
    ∃ name, worm'.team = some name ∧ (w.team? name).isSome
  /-- A team that is added is new to an open world with room for it. -/
  teams : w'.teams = w.teams ∨
    w.isTerminated = false ∧ ∃ team, w.team? team.name = none ∧
      w.teams.length < w.config.spawn.maxTeams ∧ w'.teams = w.teams ++ [team]
  /-- The settings stay. -/
  config : w'.config = w.config
  /-- The world is open if it was. -/
  isTerminated : w'.isTerminated = w.isTerminated

/-- A step of the registry keeps it in order. -/
theorem Registered.step (h : w.Registered) (hs : w'.Sound) (hstep : w.RegistryStep w') :
    w'.Registered where
  nodup := by
    rcases hstep.ids with hsub | ⟨-, id, hnew, hperm⟩
    · exact h.nodup.sublist hsub
    · exact hperm.nodup_iff.mpr (List.nodup_cons.mpr ⟨hnew, h.nodup⟩)
  member := forall_mem_listed.mpr ⟨hs.member, hs.foodMember, hs.projectileMember⟩
  filed := fun food hfood => food?_of_mem hs.foodNodup hfood
  ordered := by
    rcases hstep.food with hsub | ⟨food, hnew, hfood⟩
    · exact h.ordered.sublist hsub
    · rw [hfood]
      exact h.ordered.insertFood hnew
  team := by
    intro worm' hworm' name hname
    have hknown : ∃ team ∈ w.teams, team.name = name := by
      rcases hstep.worms worm' hworm' with hnone | ⟨worm, hworm, hsame⟩ | ⟨known, hteam, hknown⟩
      · cases hnone.symm.trans hname
      · exact h.team worm hworm name (hsame.symm.trans hname)
      · cases hteam.symm.trans hname
        simpa [team?, List.find?_isSome] using hknown
    obtain ⟨team, hmem, hteam⟩ := hknown
    refine ⟨team, ?_, hteam⟩
    rcases hstep.teams with heq | ⟨-, added, -, -, heq⟩
    · rwa [heq]
    · rw [heq]
      exact List.mem_append_left _ hmem
  teamNodup := by
    rcases hstep.teams with heq | ⟨-, team, hnew, -, heq⟩
    · rw [heq]
      exact h.teamNodup
    · have hnew : team.name ∉ w.teams.map Team.name := by
        simpa [team?] using hnew
      rw [heq, List.map_append, List.map_singleton, ← List.concat_eq_append]
      exact h.teamNodup.concat hnew
  teamRoom := by
    rw [hstep.config]
    rcases hstep.teams with heq | ⟨-, team, -, hroom, heq⟩
    · rw [heq]
      exact h.teamRoom
    · rw [heq, List.length_append]
      exact hroom
  bound := fun worm hworm i hi => ((hs.made worm hworm).program hi).2
  closed := by
    rw [hstep.isTerminated]
    intro hterminated
    obtain ⟨hlisted, hteams⟩ := h.closed hterminated
    refine ⟨?_, ?_⟩
    · rcases hstep.ids with hsub | ⟨hopen, -⟩
      · rw [listed_eq_nil_iff.mp hlisted] at hsub
        exact listed_eq_nil_iff.mpr (List.sublist_nil.mp hsub)
      · cases hopen.symm.trans hterminated
    · rcases hstep.teams with heq | ⟨hopen, -⟩
      · exact heq.trans hteams
      · cases hopen.symm.trans hterminated

omit [Scalar α] in
/-- Writing back a worm keeps the listed numbers. -/
theorem ids_setWorm (w : World α) (worm : Worm α) : (w.setWorm worm).ids = w.ids := by
  rw [ids_eq, ids_eq, setWorm, map_id_replaceWorm]

omit [Scalar α] in
/-- A listed worm is replaced by one of the same team, or by one of a known team. -/
theorem RegistryStep.setWorm {worm worm' : Worm α} (h : w.worm? id = some worm)
    (hteam : worm'.team = worm.team ∨ ∃ name, worm'.team = some name ∧ (w.team? name).isSome) :
    w.RegistryStep (w.setWorm worm') where
  ids := .inl (by rw [ids_setWorm])
  food := .inl (.refl _)
  worms := by
    intro x hx
    rcases eq_or_mem_of_mem_replaceWorm hx with rfl | hx
    · exact .inr (hteam.imp_left fun hsame => ⟨worm, mem_of_worm? h, hsame⟩)
    · exact .inr (.inl ⟨x, hx, rfl⟩)
  teams := .inl rfl
  config := rfl
  isTerminated := rfl

omit [Scalar α] in
/-- A step in which nothing enters and no worm changes its team. -/
theorem RegistryStep.of_sublist (hids : w'.ids.Sublist w.ids) (hfood : w'.food.Sublist w.food)
    (hworms : ∀ worm' ∈ w'.worms, ∃ worm ∈ w.worms, worm'.team = worm.team)
    (hteams : w'.teams = w.teams) (hconfig : w'.config = w.config)
    (hstate : w'.isTerminated = w.isTerminated) : w.RegistryStep w' where
  ids := .inl hids
  food := .inl hfood
  worms := fun worm' hworm' => .inr (.inl (hworms worm' hworm'))
  teams := .inl hteams
  config := hconfig
  isTerminated := hstate

omit [Scalar α] in
private theorem isTerminated_stateWithout (w : World α) (index : Nat) :
    (w.stateWithout index == .terminated) = w.isTerminated := by
  rw [stateWithout, isTerminated]
  cases w.state <;> rfl

/-- **Every change of a world is a step of its registry.** -/
theorem Change.registryStep (h : w.Change traffic w') : w.RegistryStep w' := by
  have hsame : ∀ worm' ∈ w.worms, ∃ worm ∈ w.worms, worm'.team = worm.team :=
    fun worm hworm => ⟨worm, hworm, rfl⟩
  cases h with
  | worm hworm _ hteam => exact .setWorm hworm (.inl hteam)
  | join hworm hknown => exact .setWorm hworm (.inr ⟨_, rfl, hknown⟩)
  | @addWorm worm body _ _ hopen hteam hbody =>
    obtain ⟨-, rfl⟩ := Body.attach_eq_ok_iff.mp hbody
    obtain ⟨hopen, -, hnew⟩ := checkRegistrable_eq_ok_iff.mp hopen
    refine ⟨.inr ⟨hopen, worm.id, contains_eq_false_iff_ids.mp hnew, ?_⟩, .inl (.refl _), ?_,
      .inl rfl, rfl, rfl⟩
    · rw [ids_eq, ids_eq, List.map_append, List.append_assoc, List.append_assoc, List.append_assoc]
      exact List.perm_middle
    · intro x hx
      rcases List.mem_append.mp hx with hx | hx
      · exact .inr (.inl ⟨x, hx, rfl⟩)
      · rw [List.mem_singleton.mp hx]
        cases hname : worm.team with
        | none => exact .inl rfl
        | some name => exact .inr (.inr ⟨name, rfl, hteam name hname⟩)
  | @removeWorm id index _ _ =>
    refine .of_sublist ?_ (.refl _) (fun x hx => hsame x (List.mem_of_mem_eraseIdx hx)) rfl rfl
      (isTerminated_stateWithout w index)
    rw [ids_eq, ids_eq]
    exact (((List.eraseIdx_sublist _ _).map _).append (.refl _)).append (.refl _)
  | @addFood food body hopen hbody =>
    obtain ⟨-, rfl⟩ := Body.attach_eq_ok_iff.mp hbody
    obtain ⟨hopen, -, hnew⟩ := checkRegistrable_eq_ok_iff.mp hopen
    have hfood : food.id ∉ w.food.map Food.id :=
      food?_eq_none_iff.mp (contains_eq_false_iff.mp hnew).2.1
    let listed : Food α := { food with body := { food.body with membership := .member w.id } }
    refine ⟨.inr ⟨hopen, food.id, contains_eq_false_iff_ids.mp hnew, ?_⟩, .inr ⟨listed, hfood, rfl⟩,
      fun worm hworm => .inr (.inl (hsame worm hworm)), .inl rfl, rfl, rfl⟩
    have hperm := (insertFood_perm listed w.food).map Food.id
    rw [ids_eq, ids_eq]
    exact ((hperm.append_left _).append_right _).trans (List.perm_middle.append_right _)
  | removeFood _ =>
    refine .of_sublist ?_ List.eraseP_sublist hsame rfl rfl rfl
    rw [ids_eq, ids_eq]
    exact ((List.Sublist.refl _).append (List.eraseP_sublist.map _)).append (.refl _)
  | @launch projectile body hempty hopen hbody =>
    obtain ⟨-, rfl⟩ := Body.attach_eq_ok_iff.mp hbody
    obtain ⟨hopen, -, hnew⟩ := checkRegistrable_eq_ok_iff.mp hopen
    refine ⟨.inr ⟨hopen, projectile.id, contains_eq_false_iff_ids.mp hnew, ?_⟩, .inl (.refl _),
      fun worm hworm => .inr (.inl (hsame worm hworm)), .inl rfl, rfl, rfl⟩
    rw [ids_eq, ids_eq, hempty, Option.map_none, Option.toList_none, List.append_nil]
    exact List.perm_append_singleton _ _
  | land =>
    refine .of_sublist ?_ (.refl _) hsame rfl rfl rfl
    rw [ids_eq, ids_eq]
    exact (List.Sublist.refl _).append (List.nil_sublist _)
  | addTeam hopen hnew hroom =>
    exact ⟨.inl (.refl _), .inl (.refl _), fun worm hworm => .inr (.inl (hsame worm hworm)),
      .inr ⟨hopen, _, hnew, hroom, rfl⟩, rfl, rfl⟩
  | draw => exact .of_sublist (.refl _) (.refl _) hsame rfl rfl rfl

/-- Changes keep the registry in order. -/
theorem Registered.changes (h : w.Registered) (hs : w.Sound) (hchanges : w.Changes traffic w') :
    w'.Registered := by
  have hboth : w'.Sound ∧ w'.Registered := by
    refine hchanges.keeps (P := fun w => w.Sound ∧ w.Registered) ?_ ⟨hs, h⟩
    intro before after ⟨hs, h⟩ hchange
    exact ⟨hs.change hchange, h.step (hs.change hchange) hchange.registryStep⟩
  exact hboth.2

/-- The start of a turn is a step of the registry of an open world. -/
theorem RegistryStep.withTurn (index number : Nat) (hopen : w.isTerminated = false) :
    w.RegistryStep (w.withTurn index number) := by
  refine .of_sublist ?_ (.refl _) ?_ rfl rfl hopen.symm
  · rw [ids_eq, ids_eq, World.withTurn, map_modify_rested fun _ => rfl]
  · intro worm hworm
    obtain hold | ⟨old, hold, rfl⟩ := mem_modify_rested hworm
    · exact ⟨_, hold, rfl⟩
    · exact ⟨old, List.mem_of_getElem? hold, rfl⟩

omit [Scalar α] in
/-- The end of a game is a step of the registry of an open world. -/
theorem RegistryStep.finish (hopen : w.isTerminated = false) :
    w.RegistryStep { w with state := .finished } :=
  .of_sublist (.refl _) (.refl _) (fun worm hworm => ⟨worm, hworm, rfl⟩) rfl rfl hopen.symm

omit [Scalar α] in
/-- The registry of a world that lists nothing. -/
theorem Registered.of_empty (hlisted : w.listed = []) (hteams : w.teams = []) : w.Registered := by
  have hempty : w.worms = [] ∧ w.food = [] := by
    simp only [listed, List.append_eq_nil_iff, List.map_eq_nil_iff] at hlisted
    exact hlisted.1
  obtain ⟨hworms, hfood⟩ := hempty
  refine ⟨?_, ?_, ?_, ?_, ?_, ?_, ?_, ?_, fun _ => ⟨hlisted, hteams⟩⟩
  all_goals simp [ids, FoodOrdered, hlisted, hworms, hfood, hteams]

end World

/-- What an operation hands back when it is done. -/
inductive Operation.HandsBack (s : Simulation α) : Operation α → Entity α → Prop where
  /-- A worm is handed back when it is taken out. -/
  | worm {id : EntityId} {worm : Worm α} {s' : Simulation α} :
      (Command.removeWorm id).carryOut s = (.ok worm, s') →
      HandsBack s (.removeWorm id) (.worm worm)
  /-- A ration is handed back when it is taken out. -/
  | food {id : EntityId} {food : Food α} {s' : Simulation α} :
      (Command.removeFood id).carryOut s = (.ok food, s') →
      HandsBack s (.removeFood id) (.food food)
  /-- The projectile is handed back when it is taken out. -/
  | projectile {projectile : Projectile α} {s' : Simulation α} :
      Command.removeProjectile.carryOut s = (.ok projectile, s') →
      HandsBack s .removeProjectile (.projectile projectile)
  /-- All that the world listed is handed back when it ends. -/
  | terminate {held : List (Entity α)} {e : Entity α} {s' : Simulation α} :
      Command.terminate.carryOut s = (.ok held, s') → e ∈ held → HandsBack s .terminate e

namespace Simulation

variable [Scalar α] {s s' : Simulation α} {op : Option (Operation α)}

/-- What a step of a game can do to the registry: it is changed, it takes a step at the start of a
turn, or the world ends. -/
theorem Step.registry (h : s.Step op s') (hs : s.world.Sound) :
    (∃ traffic, s.world.Changes traffic s'.world) ∨ s.world.RegistryStep s'.world ∨
      s'.world.listed = [] ∧ s'.world.teams = [] ∧ s'.world.isTerminated = true := by
  have hcourse := h.course hs
  generalize s'.world = w' at hcourse ⊢
  have hopen : s.world.state ≠ .terminated → s.world.isTerminated = false := fun hstate => by
    simpa [World.isTerminated] using hstate
  cases hcourse with
  | within traffic _ hchanges => exact .inl ⟨traffic, hchanges⟩
  | staysEmpty hstate | isOver hstate => exact .inr (.inl (.finish (hopen (by simp [hstate]))))
  | opens hstate | handsOn hstate =>
    exact .inr (.inl (.withTurn _ _ (hopen (by simp [hstate]))))
  | terminates => exact .inr (.inr ⟨rfl, rfl, rfl⟩)

/-- Every step of a game keeps the registry of its world in order. -/
theorem Step.registered (h : s.Step op s') (hs : s.world.Sound) (hr : s.world.Registered) :
    s'.world.Registered := by
  rcases h.registry hs with ⟨traffic, hchanges⟩ | hstep | ⟨hlisted, hteams, -⟩
  · exact hr.changes hs hchanges
  · exact hr.step (h.sound hs) hstep
  · exact .of_empty hlisted hteams

/-- A terminated world stays terminated. -/
theorem Step.isTerminated (h : s.Step op s') (hs : s.world.Sound)
    (hterminated : s.world.isTerminated = true) : s'.world.isTerminated = true := by
  rcases h.registry hs with ⟨traffic, hchanges⟩ | hstep | ⟨-, -, hend⟩
  · refine hchanges.keeps (P := fun w => w.isTerminated = true) ?_ hterminated
    intro before after hbefore hchange
    rw [hchange.registryStep.isTerminated]
    exact hbefore
  · rw [hstep.isTerminated]
    exact hterminated
  · exact hend

/-- What a step of a game leads to, and the steps after it. -/
def Later : Simulation α → Simulation α → Prop :=
  Relation.ReflTransGen fun s s' => ∃ op, s.Step op s'

/-- What comes later in a game comes up in a game. -/
theorem Later.reachable (h : s.Later s') (hs : s.Reachable) : s'.Reachable := by
  induction h with
  | refl => exact hs
  | tail _ hstep ih =>
    obtain ⟨op, hstep⟩ := hstep
    exact ih.step hstep

/-- A terminated world stays terminated. -/
theorem Later.isTerminated (h : s.Later s') (hs : s.Reachable)
    (hterminated : s.world.isTerminated = true) : s'.world.isTerminated = true := by
  induction h with
  | refl => exact hterminated
  | tail hbefore hstep ih =>
    obtain ⟨op, hstep⟩ := hstep
    exact hstep.isTerminated (Later.reachable hbefore hs).sound ih

end Simulation

/-! ### Handing back -/

/-- What a world lets go of has been terminated. -/
theorem Body.membership_of_terminate_detach {b b' : Body α} {world : WorldId}
    (h : b.membership = .member world) (hb' : b.detach.terminate = .ok b') :
    b'.membership = .terminated := by
  rw [terminate_detach h] at hb'
  cases hb'
  rfl

private theorem Command.membership_released {e : Entity α} {world : WorldId}
    (h : e.body.membership = .member world) : (released e).body.membership = .terminated := by
  rw [released, Body.terminate_detach h]
  cases e <;> rfl

namespace Operation

variable [Scalar α] {s : Simulation α} {op : Operation α} {e : Entity α}

open Command

private theorem HandsBack.terminated (h : op.HandsBack s e) (hs : s.world.Sound) :
    e.body.membership = .terminated := by
  have hlisted : ∀ e ∈ s.world.listed, e.body.membership = .member s.world.id :=
    World.forall_mem_listed.mpr ⟨hs.member, hs.foodMember, hs.projectileMember⟩
  cases h with
  | @worm id worm s' h =>
    have hends : (Command.removeWorm id).Ends s
        (fun worm _ => worm.body.membership = .terminated) fun _ _ => True := by
      refine ends_removeWorm.mpr ⟨fun worm _ hworm _ => ⟨fun body hbody => ?_, ?_⟩, ?_⟩
      · exact Body.membership_of_terminate_detach (hs.member worm (World.mem_of_worm? hworm)) hbody
      all_goals simp
    exact hends.of_ok h
  | @food id food s' h =>
    have hends : (Command.removeFood id).Ends s
        (fun food _ => food.body.membership = .terminated) fun _ _ => True := by
      refine ends_removeFood.mpr ⟨fun food hfood => ⟨fun body hbody => ?_, ?_⟩, ?_⟩
      · have hmem := List.mem_of_find?_eq_some hfood
        exact Body.membership_of_terminate_detach (hs.foodMember food hmem) hbody
      all_goals simp
    exact hends.of_ok h
  | @projectile p s' h =>
    have hends : Command.removeProjectile.Ends s
        (fun p _ => p.body.membership = .terminated) fun _ _ => True := by
      refine ends_removeProjectile.mpr ⟨fun p hp => ⟨fun body hbody => ?_, ?_⟩, ?_⟩
      · exact Body.membership_of_terminate_detach (hs.projectileMember p hp) hbody
      all_goals simp
    exact hends.of_ok h
  | @terminate held e s' h he =>
    have hends : Command.terminate.Ends s
        (fun held _ => ∀ e ∈ held, e.body.membership = .terminated) fun _ _ => True := by
      refine ends_terminate.mpr ⟨by simp, fun _ => ?_⟩
      rw [List.forall_mem_map]
      exact fun e he => membership_released (hlisted e he)
    exact hends.of_ok h e he

end Operation

namespace Simulation

variable [Scalar α] {s : Simulation α}

/-- In every game the world keeps its registry. -/
theorem Reachable.registered (h : s.Reachable) : s.world.Registered := by
  induction h with
  | onGrid ids h =>
    obtain ⟨-, rfl⟩ := World.onGrid_eq_ok_iff.mp h
    exact .of_empty rfl rfl
  | step hs hstep ih => exact hstep.registered hs.sound ih

/-- **The registry of a reachable simulation is in order.** Whatever is handed back has been
terminated, and a terminated world stays so for good. -/
theorem Reachable.registry_in_order (h : s.Reachable) : s.world.Registered ∧
    (∀ op e, Operation.HandsBack s op e → e.body.membership = .terminated) ∧
    (s.world.isTerminated = true → ∀ s', s.Later s' → s'.world.isTerminated = true) := by
  refine ⟨?_, fun op e hback => hback.terminated h.sound, fun hterminated s' hlater => ?_⟩
  · exact h.registered
  · exact hlater.isTerminated h hterminated

/-- A worm in a team, a ration, which is added twice, and a projectile. -/
def crowded : Simulation Rat :=
  let ration : Food Rat := ⟨⟨⟨2⟩, ⟨8, 8⟩, 0.2, leastRadius, .detached⟩⟩
  let shot : Projectile Rat :=
    { body := ⟨⟨3⟩, ⟨2, 2⟩, 0.1, leastRadius, .detached⟩
      direction := 0
      density := 1
      weapon := .rifle
      yieldPercent := 0
      force := 1
      owner := none }
  let start : Simulation Rat := { world := .fresh ⟨1⟩ (.empty 100 100) default, ids := ⟨4⟩ }
  start.after [.addTeam ⟨"Red"⟩, .addWorm (.fresh "Ann" ⟨5, 5⟩ 0 0.5 default ⟨1⟩),
    .joinTeam ⟨1⟩ "Red", .addFood ration, .addFood ration, .setProjectile shot]

/-- The crowded world comes up in a game. -/
theorem reachable_crowded : crowded.Reachable := by
  have hmade : (Worm.fresh "Ann" ⟨5, 5⟩ 0 0.5 default ⟨1⟩ : Worm Rat).Made := by
    refine .make (Worm.make_eq_ok_iff.mpr ⟨?_, ?_, ?_, rfl⟩)
    all_goals decide +kernel
  have hlate : ∀ n < 4, n < crowded.ids.next := by decide +kernel
  refine (Reachable.onGrid ⟨4⟩ (World.onGrid_eq_ok_iff.mpr ⟨by decide +kernel, rfl⟩)).after
    ⟨trivial, ⟨hmade, hlate 1 ?_⟩, trivial, hlate 2 ?_, hlate 2 ?_, hlate 3 ?_, trivial⟩
  all_goals omega

/-- The three entities of the crowded world are registered, and the ration that is handed back has
ended. -/
theorem registered_crowded : crowded.world.ids = [⟨1⟩, ⟨2⟩, ⟨3⟩] ∧ crowded.world.Registered ∧
    ∃ e, Operation.HandsBack crowded (.removeFood ⟨2⟩) e ∧ e.body.membership = .terminated := by
  obtain ⟨hregistered, hback, -⟩ := reachable_crowded.registry_in_order
  have hdone : ((Command.removeFood ⟨2⟩).carryOut crowded).1.isOk = true := by decide +kernel
  refine ⟨by decide +kernel, hregistered, ?_⟩
  rcases hc : (Command.removeFood ⟨2⟩).carryOut crowded with ⟨_ | food, s'⟩
  · rw [hc] at hdone
    cases hdone
  · exact ⟨_, .food hc, hback _ _ (.food hc)⟩

end Simulation

end WormBattle
