import WormBattle.Proofs.Scalar.Order
import WormBattle.Proofs.World.Registered

/-!
# What a worm sees

A search goes through the worms and the rations of a world and keeps the nearest that its ray has
hit so far (`View.Closest`). A later one has to be nearer to take the place, so among the entities
at the least distance the first one is found, in the order in which the view shows them. In a
reachable world this order is the turn order of the worms and then the order of the rations' numbers
(`World.Precedes`), everything shown has a body, and nothing but the worm itself is passed over; so
what is found is the nearest of all others (`World.Nearest`).
-/

namespace WormBattle

open Scalar

variable {α : Type} [Scalar α]

/-- A distance that is reported is a number. -/
theorem Ray.isUndefined_hit? [Compares α] {origin centre : Position α} {angle radius distance : α}
    (h : hit? origin angle centre radius = some distance) : isUndefined distance = false := by
  simp only [hit?, hitAlong?] at h
  split_ifs at h
  cases h
  exact isUndefined_maxNum_zero _

namespace View

/-- The distance at which a ray enters the disc of an entity. -/
def distance? (view : View α) (origin : Position α) (angle : α) (id : EntityId) : Option α :=
  match view.positionOf id, view.radiusOf id with
  | some centre, some radius => Ray.hit? origin angle centre radius
  | _, _ => none

/-- What is kept of the candidates: nothing if none is at any distance, and otherwise one at the
least distance, with all before it farther. -/
inductive Closest (distance? : EntityId → Option α) (ids : List EntityId) :
    Option (α × EntityId) → Prop where
  /-- All candidates are out of reach. -/
  | none : (∀ id ∈ ids, distance? id = none) → Closest distance? ids none
  /-- One candidate is at the least distance. -/
  | some {before after : List EntityId} {id : EntityId} {distance : α} :
      ids = before ++ id :: after → distance? id = some distance →
      (∀ i ∈ before, ∀ d, distance? i = some d → distance < d) →
      (∀ i ∈ after, ∀ d, distance? i = some d → ¬d < distance) →
      Closest distance? ids (some (distance, id))

section Closest

variable {view : View α} {origin : Position α} {angle : α} {ids seen : List EntityId}
  {best : Option (α × EntityId)} {id : EntityId} {distance : α}

/-- The next candidate takes the place if it is hit and nearer. -/
theorem nearer_eq (view : View α) (origin : Position α) (angle : α)
    (best : Option (α × EntityId)) (id : EntityId) :
    view.nearer origin angle best id = match view.distance? origin angle id, best with
      | some distance, some (least, found) =>
        if distance < least then some (distance, id) else some (least, found)
      | some distance, none => some (distance, id)
      | none, best => best := by
  cases hcentre : view.positionOf id with
  | none => simp only [nearer, distance?, hcentre]
  | some centre =>
    cases hradius : view.radiusOf id with
    | none => simp only [nearer, distance?, hcentre, hradius]
    | some radius =>
      cases hhit : Ray.hit? origin angle centre radius <;> cases best <;>
        simp only [nearer, distance?, hcentre, hradius, hhit]

/-- A candidate that is not nearer leaves the choice as it is. -/
theorem Closest.pass {least : α} {found : EntityId}
    (h : Closest (view.distance? origin angle) seen (Option.some (least, found)))
    (hid : ∀ d, view.distance? origin angle id = Option.some d → ¬d < least) :
    Closest (view.distance? origin angle) (seen ++ [id])
      (Option.some (least, found)) := by
  cases h with
  | some hids hfound hbefore hafter =>
    refine .some (by rw [hids, List.append_assoc, List.cons_append]) hfound hbefore ?_
    exact List.forall_mem_append.mpr ⟨hafter, by simpa using hid⟩

variable [Compares α]

private theorem isUndefined_distance? (h : view.distance? origin angle id = some distance) :
    isUndefined distance = false := by
  rw [distance?] at h
  split at h
  · exact Ray.isUndefined_hit? h
  · cases h

/-- One more candidate is looked at. -/
theorem Closest.nearer (h : Closest (view.distance? origin angle) seen best) (id : EntityId) :
    Closest (view.distance? origin angle) (seen ++ [id]) (view.nearer origin angle best id) := by
  cases hid : view.distance? origin angle id with
  | none =>
    rw [nearer_eq, hid]
    cases h with
    | none hall => exact .none (List.forall_mem_append.mpr ⟨hall, by simpa using hid⟩)
    | some hids hfound hbefore hafter =>
      refine pass (.some hids hfound hbefore hafter) fun d hd => ?_
      cases hid.symm.trans hd
  | some distance =>
    rw [nearer_eq, hid]
    cases h with
    | none hall =>
      refine .some rfl hid (fun i hi d hd => ?_) nofun
      cases (hall i hi).symm.trans hd
    | @some before after found least hids hfound hbefore hafter =>
      dsimp only
      split_ifs with hless
      · -- What was seen before is as far as the one found so far, and that is farther.
        refine .some rfl hid (fun i hi d hd => ?_) nofun
        rw [hids, List.mem_append, List.mem_cons] at hi
        rcases hi with hi | rfl | hi
        · exact lt_trans (isUndefined_distance? hd) hless (hbefore i hi d hd)
        · cases hfound.symm.trans hd
          exact hless
        · exact (Compares.lt_or_lt d (isUndefined_distance? hd) hless).resolve_right
            (hafter i hi d hd)
      · refine pass (.some hids hfound hbefore hafter) fun d hd => ?_
        cases hid.symm.trans hd
        exact hless

/-- **The search keeps the closest candidate.** -/
theorem Closest.foldl (h : Closest (view.distance? origin angle) seen best) (ids : List EntityId) :
    Closest (view.distance? origin angle) (seen ++ ids)
      (ids.foldl (view.nearer origin angle) best) := by
  induction ids generalizing seen best with
  | nil => rwa [List.append_nil]
  | cons id ids ih =>
    rw [List.append_cons]
    exact ih (h.nearer id)

end Closest

end View

/-- The distance at which a worm's search at an angle from its direction hits an entity. -/
def Worm.sights? (worm : Worm α) (offset : α) (e : Entity α) : Option α :=
  Ray.hit? worm.position (worm.direction + offset) e.body.position e.body.radius

namespace World

/-- The worms and the rations of a world, as its programs are shown them. -/
def shown (w : World α) : List (Entity α) :=
  w.worms.map .worm ++ w.food.map .food

/-- What is shown of a world besides one entity. -/
def others (w : World α) (id : EntityId) : List (Entity α) :=
  w.shown.filter (·.id ≠ id)

/-- Worms come in turn order, rations by their numbers, and all worms come before the rations. -/
inductive Precedes (w : World α) : Entity α → Entity α → Prop where
  /-- An earlier worm of the turn order. -/
  | turn {i j : Nat} {worm worm' : Worm α} :
      w.worms[i]? = some worm → w.worms[j]? = some worm' → i < j →
      Precedes w (.worm worm) (.worm worm')
  /-- A worm and a ration. -/
  | kind {worm : Worm α} {food : Food α} :
      worm ∈ w.worms → food ∈ w.food → Precedes w (.worm worm) (.food food)
  /-- A ration with a smaller number. -/
  | number {food food' : Food α} :
      food ∈ w.food → food' ∈ w.food → food.id.value < food'.id.value →
      Precedes w (.food food) (.food food')

/-- An entity is the nearest that a worm's search hits: any other one that is hit is farther, or it
is at no smaller distance and comes later. -/
def Nearest (w : World α) (worm : Worm α) (offset : α) (e : Entity α) : Prop :=
  e ∈ w.others worm.id ∧ ∃ distance, worm.sights? offset e = some distance ∧
    ∀ other ∈ w.others worm.id, other.id ≠ e.id → ∀ d, worm.sights? offset other = some d →
      distance < d ∨ ¬d < distance ∧ w.Precedes e other

variable {w : World α} {worm : Worm α} {id : EntityId} {e : Entity α} {offset : α}

omit [Scalar α] in
private theorem pairwise_precedes (h : FoodOrdered w.food) : w.shown.Pairwise w.Precedes := by
  refine List.pairwise_append.mpr ⟨?_, ?_, ?_⟩
  · refine List.pairwise_map.mpr (List.pairwise_iff_getElem.mpr fun i j hi hj hij => ?_)
    exact .turn (List.getElem?_eq_getElem hi) (List.getElem?_eq_getElem hj) hij
  · exact List.pairwise_map.mpr
      (List.Pairwise.imp_of_mem (fun hf hg hless => .number hf hg hless) h)
  · simp only [List.forall_mem_map]
    exact fun worm hworm food hfood => .kind hworm hfood

private theorem map_id_others (w : World α) (id : EntityId) :
    (w.others id).map Entity.id = (w.view.entities .any).filter (· ≠ id) := by
  have hshown : w.view.entities .any = w.shown.map Entity.id := by
    rw [shown, List.map_append, List.map_map, List.map_map]
    rfl
  rw [hshown, List.filter_map]
  rfl

omit [Scalar α] in
/-- A projectile is not shown. -/
theorem Registered.ne_projectile (h : w.Registered) (he : e ∈ w.shown) {p : Projectile α}
    (hp : w.projectile = some p) : e.id ≠ p.id := by
  have hids : w.ids = w.shown.map Entity.id ++ [p.id] := by
    rw [ids, listed, hp, List.map_append]
    rfl
  have hnodup := h.nodup
  rw [hids, List.nodup_append] at hnodup
  exact hnodup.2.2 _ (List.mem_map_of_mem he) _ List.mem_cons_self

/-- All that is shown has a body. -/
theorem Registered.bodyOf (h : w.Registered) (hs : w.Sound) (he : e ∈ w.shown) :
    w.bodyOf e.id = some e.body := by
  rcases List.mem_append.mp he with he | he
  · obtain ⟨worm, hworm, rfl⟩ := List.mem_map.mp he
    have hfound : w.worm? (Entity.worm worm).id = some worm := hs.worm?_of_mem hworm
    rw [World.bodyOf, hfound]
    rfl
  · obtain ⟨food, hfood, rfl⟩ := List.mem_map.mp he
    have hnone : w.worm? (Entity.food food).id = none := by
      have hnodup := h.nodup
      rw [ids_eq, List.nodup_append, List.nodup_append] at hnodup
      obtain ⟨⟨-, -, hapart⟩, -⟩ := hnodup
      exact worm?_eq_none_iff.mpr fun hmem => hapart _ hmem _ (List.mem_map_of_mem hfood) rfl
    have hfound : w.food? (Entity.food food).id = some food := h.filed food hfood
    rw [World.bodyOf, hnone, hfound]
    rfl

/-- The distance to something shown is the one that the worm's search sees. -/
theorem Registered.distance? (h : w.Registered) (hs : w.Sound) (he : e ∈ w.others id) :
    w.view.distance? worm.position (worm.direction + offset) e.id = worm.sights? offset e := by
  have hbody := h.bodyOf hs (List.mem_of_mem_filter he)
  simp only [View.distance?, view, hbody, Option.map_some, Worm.sights?]

/-- The closest of the others is the nearest entity that the search hits. -/
theorem Registered.nearest (h : w.Registered) (hs : w.Sound) {best : α × EntityId}
    (hclosest : View.Closest (w.view.distance? worm.position (worm.direction + offset))
      ((w.others worm.id).map Entity.id) (some best)) :
    ∃ e, e.id = best.2 ∧ w.Nearest worm offset e := by
  cases hclosest with
  | some hids hfound hbefore hafter =>
    obtain ⟨earlier, rest, hothers, rfl, hrest⟩ := List.map_eq_append_iff.mp hids
    obtain ⟨e, later, rfl, rfl, rfl⟩ := List.map_eq_cons_iff.mp hrest
    have hdistance : ∀ e ∈ w.others worm.id, w.view.distance? worm.position
        (worm.direction + offset) e.id = worm.sights? offset e := fun e he => h.distance? hs he
    have hprecedes : ∀ other ∈ later, w.Precedes e other := by
      have hpairwise : (w.others worm.id).Pairwise w.Precedes :=
        (pairwise_precedes h.ordered).filter _
      rw [hothers, List.pairwise_append, List.pairwise_cons] at hpairwise
      exact hpairwise.2.1.1
    rw [hothers] at hdistance
    refine ⟨e, rfl, ?_⟩
    rw [Nearest, hothers]
    refine ⟨by simp, _, (hdistance e (by simp)) ▸ hfound, fun other hother hne d hd => ?_⟩
    rw [← hdistance other hother] at hd
    rw [List.mem_append, List.mem_cons] at hother
    rcases hother with hother | rfl | hother
    · exact .inl (hbefore _ (List.mem_map_of_mem hother) d hd)
    · exact absurd rfl hne
    · exact .inr ⟨hafter _ (List.mem_map_of_mem hother) d hd, hprecedes other hother⟩

/-- A search by a listed worm looks at all others. -/
theorem search_eq (hworm : w.worm? id = some worm) (offset : α) :
    w.view.search id offset = .ok ((((w.others id).map Entity.id).foldl
      (w.view.nearer worm.position (worm.direction + offset)) none).map Prod.snd) := by
  have hbody : w.bodyOf id = some worm.body := by rw [bodyOf, hworm]
  have hposition : w.view.positionOf id = some worm.position := by
    simp only [view, hbody, Option.map_some, Worm.position]
  have hdirection : w.view.inspect id .direction = .ok worm.direction := by
    simp only [view, inspect, hworm, wormProperty]
  rw [View.search, hposition, hdirection, map_id_others]
  rfl

end World

namespace Simulation

variable {s : Simulation α} {worm : Worm α} {id : EntityId} [Compares α]

/-- **A search in a reachable world finds the nearest hit.** Once the angle has come to a number, a
listed worm's search comes to a reference: to no entity exactly when the ray hits no other worm or
ration, and otherwise to the nearest one, the first in turn order, and then by the numbers of the
rations, of those at the least distance. It is never the worm itself or a projectile. -/
theorem Reachable.eval_search (h : s.Reachable) (hworm : s.world.worm? id = some worm)
    {globals : Globals α} {angle : Expression α} {offset : α}
    (hangle : angle.eval ⟨globals, some id, some s.world.view⟩ = .ok (.double offset)) :
    ∃ found : Option (Entity α),
      (Expression.search angle).eval ⟨globals, some id, some s.world.view⟩ =
        .ok (.entity (found.map Entity.id)) ∧
      (found = none ↔ ∀ e ∈ s.world.others id, worm.sights? offset e = none) ∧
      ∀ e, found = some e → s.world.Nearest worm offset e ∧ e.id ≠ id ∧
        ∀ p, s.world.projectile = some p → e.id ≠ p.id := by
  have heval : (Expression.search angle).eval ⟨globals, some id, some s.world.view⟩ =
      (s.world.view.search id offset).map .entity := by
    simp only [Expression.eval, hangle]
    rfl
  have hclosest : View.Closest (s.world.view.distance? worm.position (worm.direction + offset))
      ((s.world.others id).map Entity.id) (((s.world.others id).map Entity.id).foldl
        (s.world.view.nearer worm.position (worm.direction + offset)) none) :=
    (View.Closest.none nofun : View.Closest _ [] none).foldl _
  rw [heval, World.search_eq hworm]
  revert hclosest
  generalize ((s.world.others id).map Entity.id).foldl _ none = best
  intro hclosest
  cases best with
  | none =>
    obtain ⟨hnone⟩ := hclosest
    refine ⟨none, rfl, ⟨fun _ e he => ?_, fun _ => rfl⟩, nofun⟩
    rw [← h.registered.distance? h.sound he]
    exact hnone e.id (List.mem_map_of_mem he)
  | some best =>
    obtain rfl := World.id_of_worm? hworm
    obtain ⟨e, hid, hnearest⟩ := h.registered.nearest h.sound hclosest
    refine ⟨some e, ?_, ?_, ?_⟩
    · rw [Option.map_some, Option.map_some, hid]
      rfl
    · refine ⟨nofun, fun hnone => ?_⟩
      obtain ⟨hmem, distance, hdistance, -⟩ := hnearest
      cases (hnone e hmem).symm.trans hdistance
    · intro e' he'
      cases he'
      obtain ⟨hshown, hother⟩ := List.mem_filter.mp hnearest.1
      exact ⟨hnearest, of_decide_eq_true hother, fun p => h.registered.ne_projectile hshown⟩

omit [Scalar α] [Compares α] in
/-- A worm looks to the right, past a projectile, at two rations at one distance. -/
def lookout : Simulation Rat :=
  let ration (id : EntityId) (y : Rat) : Food Rat := ⟨⟨id, ⟨8, y⟩, 0.2, leastRadius, .detached⟩⟩
  let shot : Projectile Rat :=
    { body := ⟨⟨4⟩, ⟨6, 5⟩, 0.1, leastRadius, .detached⟩
      direction := 0
      density := 1
      weapon := .rifle
      yieldPercent := 0
      force := 1
      owner := none }
  let start : Simulation Rat := { world := .fresh ⟨1⟩ (.empty 100 100) default, ids := ⟨5⟩ }
  start.after [.addWorm (.fresh "Ann" ⟨5, 5⟩ 0 0.5 default ⟨1⟩), .addFood (ration ⟨3⟩ 5.1),
    .addFood (ration ⟨2⟩ 4.9), .setProjectile shot]

private theorem reachable_lookout : lookout.Reachable := by
  have hmade : (Worm.fresh "Ann" ⟨5, 5⟩ 0 0.5 default ⟨1⟩ : Worm Rat).Made := by
    refine .make (Worm.make_eq_ok_iff.mpr ⟨?_, ?_, ?_, rfl⟩)
    all_goals decide +kernel
  have hlate : ∀ n < 5, n < lookout.ids.next := by decide +kernel
  refine (Reachable.onGrid ⟨5⟩ (World.onGrid_eq_ok_iff.mpr ⟨by decide +kernel, rfl⟩)).after
    ⟨⟨hmade, hlate 1 ?_⟩, hlate 3 ?_, hlate 2 ?_, hlate 4 ?_, trivial⟩
  all_goals omega

/-- Of two rations at one distance the worm sees the one with the smaller number. -/
theorem eval_search_lookout : ∃ e : Entity Rat,
    (Expression.search (.literal (.double 0))).eval ⟨.empty, some ⟨1⟩, some lookout.world.view⟩ =
      .ok (.entity (some e.id)) ∧
    e.id = ⟨2⟩ ∧ ∃ worm, lookout.world.worm? ⟨1⟩ = some worm ∧ lookout.world.Nearest worm 0 e ∧
      ∀ p, lookout.world.projectile = some p → e.id ≠ p.id := by
  obtain ⟨worm, hworm⟩ : ∃ worm, lookout.world.worm? ⟨1⟩ = some worm :=
    Option.isSome_iff_exists.mp (by decide +kernel)
  have hangle : (Expression.literal (.double 0) : Expression Rat).eval
      ⟨.empty, some ⟨1⟩, some lookout.world.view⟩ = .ok (.double 0) := rfl
  obtain ⟨found, heval, -, hfound⟩ := reachable_lookout.eval_search hworm hangle
  have hid : found.map Entity.id = some ⟨2⟩ := by
    have hsearch : ((lookout.world.view.search ⟨1⟩ 0).map Value.entity).toOption =
        (some (.entity (some ⟨2⟩)) : Option (Value Rat)) := by decide +kernel
    have hsame : (lookout.world.view.search ⟨1⟩ 0).map Value.entity =
        .ok (.entity (found.map Entity.id)) := heval
    rw [hsame] at hsearch
    simpa [Except.toOption] using hsearch
  cases found with
  | none => cases hid
  | some e =>
    obtain ⟨hnearest, -, hprojectile⟩ := hfound e rfl
    exact ⟨e, heval, Option.some.inj hid, worm, hworm, hnearest, hprojectile⟩

end Simulation

end WormBattle
