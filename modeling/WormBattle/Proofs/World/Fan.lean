import Mathlib.Data.Prod.Lex
import Mathlib.Order.Bounds.Basic
import WormBattle.Proofs.Scalar.Rational
import WormBattle.Proofs.World.Sound
import WormBattle.World.Move

/-!
# The fan of a move

The candidates of a move have places in a fan (`FanPlace`): a distance, a divergence and a side. The
places are ordered by these in turn, and a move takes the least place whose candidate is in contact
with terrain (`World.contacts`). Only if there is none, it takes the least distance at which the
candidate straight ahead is in the open air (`World.openings`). `World.BestMove` says this in one
relation, and `World.plannedMove_best` that the search has its result.
-/

namespace WormBattle

/-! ### Places -/

/-- The place of a candidate in the fan of a move. -/
structure FanPlace where
  /-- The number of the distance. -/
  distance : ℕ
  /-- The number of the divergence. -/
  divergence : ℕ
  /-- Whether the candidate is to the right of the worm's direction. -/
  right : Bool
  deriving DecidableEq

namespace FanPlace

/-- Longer steps come first, then smaller divergences, then the left side. -/
def key (place : FanPlace) : ℕ ×ₗ ℕ ×ₗ Bool :=
  toLex (place.distance, toLex (place.divergence, place.right))

private theorem key_injective : Function.Injective key := by
  rintro ⟨k, j, right⟩ ⟨k', j', right'⟩ h
  obtain ⟨rfl, h⟩ := Prod.mk.inj (toLex.injective h)
  obtain ⟨rfl, rfl⟩ := Prod.mk.inj (toLex.injective h)
  rfl

instance : LinearOrder FanPlace :=
  LinearOrder.lift' key key_injective

private theorem le_iff {place place' : FanPlace} : place ≤ place' ↔
    place.distance < place'.distance ∨ place.distance = place'.distance ∧
      (place.divergence < place'.divergence ∨ place.divergence = place'.divergence ∧
        place.right ≤ place'.right) := by
  show key place ≤ key place' ↔ _
  rw [key, key, Prod.Lex.toLex_le_toLex, Prod.Lex.toLex_le_toLex]

end FanPlace

variable {α : Type} [Scalar α]

namespace Worm

/-- The angle between a worm's direction and the candidates of a divergence on one side. -/
def turnTo (worm : Worm α) (divergence : ℕ) (right : Bool) : α :=
  if right then -worm.divergence divergence else worm.divergence divergence

/-- The candidate at a place of the fan. -/
def spotAt (worm : Worm α) (place : FanPlace) : Position α :=
  worm.candidate place.distance (worm.turnTo place.divergence place.right)

/-- The spot straight ahead at a distance of the fan. -/
def ahead (worm : Worm α) (k : ℕ) : Position α :=
  worm.position.towards worm.direction
    (worm.radius * (1.0 - (k : α) * worm.config.searchStepFraction))

end Worm

namespace World

variable (w : World α) (worm : Worm α)

/-- The places of the fan whose candidates are in contact with terrain. -/
def contacts : Set FanPlace :=
  {place | place.distance ≤ worm.lastDistance ∧ place.divergence ≤ worm.lastDivergence ∧
    w.grid.classify (worm.spotAt place) worm.radius = .ok .contact}

/-- The distances of the fan at which the spot straight ahead is in the open air. -/
def openings : Set ℕ :=
  {k | k ≤ worm.lastDistance ∧ w.grid.classify (worm.ahead k) worm.radius = .ok .passable}

/-- The best move of a worm, if it can move at all. -/
inductive BestMove : Option (Position α) → Prop where
  /-- It leads to the first candidate that is in contact with terrain. -/
  | toContact {place : FanPlace} : IsLeast (w.contacts worm) place →
      BestMove (some (worm.spotAt place))
  /-- It leads straight ahead into the open air. -/
  | ahead {k : ℕ} : w.contacts worm = ∅ → IsLeast (w.openings worm) k →
      BestMove (some (worm.ahead k))
  /-- There is no move. -/
  | nowhere : w.contacts worm = ∅ → w.openings worm = ∅ → BestMove none

variable {w worm} {location : Location} {spot found : Position α} {k j : ℕ}

omit [Scalar α] in
/-- A worm that is not missed is found. -/
theorem eq_some_of_requireWorm {id : EntityId} (h : w.requireWorm id = .ok worm) :
    w.worm? id = some worm := by
  rw [requireWorm] at h
  split at h
  · rename_i hworm
    cases h
    exact hworm
  · cases h

/-! ### Single candidates -/

private theorem spotIf_eq_some_iff : w.spotIf worm location spot = .ok (some found) ↔
    w.grid.classify spot worm.radius = .ok location ∧ found = spot := by
  rw [spotIf, bind_eq_ok_iff]
  constructor
  · rintro ⟨there, hthere, h⟩
    split at h
    · rename_i hsame
      cases h
      exact ⟨hsame ▸ hthere, rfl⟩
    · cases h
  · rintro ⟨hthere, rfl⟩
    exact ⟨location, hthere, if_pos rfl⟩

private theorem not_classify_of_spotIf (h : w.spotIf worm location spot = .ok none) :
    w.grid.classify spot worm.radius ≠ .ok location := by
  intro hthere
  have hfound := spotIf_eq_some_iff.mpr ⟨hthere, rfl⟩
  cases h.symm.trans hfound

/-- Neither candidate of a pair that is passed over is in contact. -/
theorem not_contact_of_contactPair (h : w.contactPair worm k j = .ok none) (right : Bool) :
    w.grid.classify (worm.spotAt ⟨k, j, right⟩) worm.radius ≠ .ok .contact := by
  rw [contactPair, bind_eq_ok_iff] at h
  obtain ⟨left?, hleft, h⟩ := h
  cases left? with
  | some left => cases h
  | none =>
    cases right with
    | false => exact not_classify_of_spotIf hleft
    | true => exact not_classify_of_spotIf h

/-- Of a pair of candidates the left one is taken if it can be. -/
theorem exists_of_contactPair (h : w.contactPair worm k j = .ok (some found)) :
    ∃ right, found = worm.spotAt ⟨k, j, right⟩ ∧
      w.grid.classify (worm.spotAt ⟨k, j, right⟩) worm.radius = .ok .contact ∧
      ∀ right' < right,
        w.grid.classify (worm.spotAt ⟨k, j, right'⟩) worm.radius ≠ .ok .contact := by
  rw [contactPair, bind_eq_ok_iff] at h
  obtain ⟨left?, hleft, h⟩ := h
  cases left? with
  | some left =>
    cases h
    obtain ⟨hcontact, rfl⟩ := spotIf_eq_some_iff.mp hleft
    exact ⟨false, rfl, hcontact, by simp⟩
  | none =>
    obtain ⟨hcontact, rfl⟩ := spotIf_eq_some_iff.mp h
    refine ⟨true, rfl, hcontact, ?_⟩
    rintro (_ | _) hbefore
    · exact not_classify_of_spotIf hleft
    · exact absurd hbefore (lt_irrefl true)

/-! ### The search -/

/-- The search among the candidates of the fan. -/
def firstContact (w : World α) (worm : Worm α) : Except (Error α) (Option (Position α)) :=
  firstSome? (fun k => firstSome? (w.contactPair worm k) 0 (worm.lastDivergence + 1)) 0
    (worm.lastDistance + 1)

private theorem contacts_eq_empty (h : w.firstContact worm = .ok none) : w.contacts worm = ∅ := by
  refine Set.eq_empty_of_forall_notMem ?_
  rintro ⟨k, j, right⟩ ⟨hk, hj, hcontact⟩
  have hrow := firstSome?_eq_none_iff.mp h k (Nat.lt_succ_of_le hk)
  have hpair := firstSome?_eq_none_iff.mp hrow j (Nat.lt_succ_of_le hj)
  rw [Nat.zero_add, Nat.zero_add] at hpair
  exact not_contact_of_contactPair hpair right hcontact

/-- **The candidate that is found is the first one in contact.** -/
theorem exists_isLeast_contacts (h : w.firstContact worm = .ok (some found)) :
    ∃ place, IsLeast (w.contacts worm) place ∧ found = worm.spotAt place := by
  obtain ⟨k, hk, hrow, hlonger⟩ := firstSome?_eq_some_iff.mp h
  obtain ⟨j, hj, hpair, hcloser⟩ := firstSome?_eq_some_iff.mp hrow
  simp only [Nat.zero_add] at hpair hcloser hlonger
  obtain ⟨right, rfl, hcontact, hleft⟩ := exists_of_contactPair hpair
  refine ⟨⟨k, j, right⟩, ⟨⟨Nat.le_of_lt_succ hk, Nat.le_of_lt_succ hj, hcontact⟩, ?_⟩, rfl⟩
  rintro ⟨k', j', right'⟩ ⟨hk', hj', hcontact'⟩
  rw [FanPlace.le_iff]
  -- A place before this one would be at a longer step, at a smaller divergence, or on its left.
  rcases lt_trichotomy k k' with hlt | rfl | hgt
  · exact .inl hlt
  · refine .inr ⟨rfl, ?_⟩
    rcases lt_trichotomy j j' with hlt | rfl | hgt
    · exact .inl hlt
    · exact .inr ⟨rfl, not_lt.mp fun hbefore => hleft right' hbefore hcontact'⟩
    · exact absurd hcontact' (not_contact_of_contactPair (hcloser j' hgt) right')
  · have hrow' := firstSome?_eq_none_iff.mp (hlonger k' hgt) j' (Nat.lt_succ_of_le hj')
    rw [Nat.zero_add] at hrow'
    exact absurd hcontact' (not_contact_of_contactPair hrow' right')

private theorem openings_eq_empty
    (h : firstSome? (w.openAhead worm) 0 (worm.lastDistance + 1) = .ok none) :
    w.openings worm = ∅ := by
  refine Set.eq_empty_of_forall_notMem fun k hk => ?_
  have hpassed := firstSome?_eq_none_iff.mp h k (Nat.lt_succ_of_le hk.1)
  rw [Nat.zero_add] at hpassed
  exact not_classify_of_spotIf hpassed hk.2

private theorem exists_isLeast_openings
    (h : firstSome? (w.openAhead worm) 0 (worm.lastDistance + 1) = .ok (some found)) :
    ∃ k, IsLeast (w.openings worm) k ∧ found = worm.ahead k := by
  obtain ⟨k, hk, hopen, hlonger⟩ := firstSome?_eq_some_iff.mp h
  simp only [Nat.zero_add] at hopen hlonger
  obtain ⟨hpassable, rfl⟩ := spotIf_eq_some_iff.mp hopen
  refine ⟨k, ⟨⟨Nat.le_of_lt_succ hk, hpassable⟩, fun k' hk' => ?_⟩, rfl⟩
  by_contra hlt
  exact not_classify_of_spotIf (hlonger k' (not_le.mp hlt)) hk'.2

/-- **The search for a move finds the best one.** -/
theorem bestMove_of_plannedMoveOf {target? : Option (Position α)}
    (h : w.plannedMoveOf worm = .ok target?) : w.BestMove worm target? := by
  simp only [plannedMoveOf, bind_eq_ok_iff] at h
  obtain ⟨-, -, -, -, found?, hfound, h⟩ := h
  cases found? with
  | some found =>
    cases h
    obtain ⟨place, hplace, rfl⟩ := exists_isLeast_contacts hfound
    exact .toContact hplace
  | none =>
    have hnone := contacts_eq_empty hfound
    cases target? with
    | some found =>
      obtain ⟨k, hk, rfl⟩ := exists_isLeast_openings h
      exact .ahead hnone hk
    | none => exact .nowhere hnone (openings_eq_empty h)

/-- **A move takes the best candidate of its fan.** It leads to a spot in contact with terrain
exactly if some candidate is there, and then to the one with the longest step, of these to the one
with the smallest divergence, and of two to the left one. Otherwise it leads straight ahead into the
open air with the longest step that can be taken there, and there is no move exactly if there is
neither. -/
theorem plannedMove_best {id : EntityId} {target? : Option (Position α)}
    (h : w.plannedMove id = .ok target?) : ∃ worm, w.worm? id = some worm ∧
      ((∃ spot, target? = some spot ∧ w.grid.classify spot worm.radius = .ok .contact) ↔
        (w.contacts worm).Nonempty) ∧
      ((w.contacts worm).Nonempty →
        ∃ place, IsLeast (w.contacts worm) place ∧ target? = some (worm.spotAt place)) ∧
      (w.contacts worm = ∅ → (w.openings worm).Nonempty →
        ∃ k, IsLeast (w.openings worm) k ∧ target? = some (worm.ahead k)) ∧
      (target? = none ↔ w.contacts worm = ∅ ∧ w.openings worm = ∅) := by
  rw [plannedMove, bind_eq_ok_iff] at h
  obtain ⟨worm, hworm, h⟩ := h
  refine ⟨worm, eq_some_of_requireWorm hworm, ?_⟩
  cases bestMove_of_plannedMoveOf h with
  | @toContact place hplace =>
    have hsome : (w.contacts worm).Nonempty := ⟨place, hplace.1⟩
    refine ⟨iff_of_true ⟨_, rfl, hplace.1.2.2⟩ hsome, fun _ => ⟨place, hplace, rfl⟩,
      fun hnone => absurd hnone hsome.ne_empty, ?_⟩
    simp [hsome.ne_empty]
  | @ahead k hnone hk =>
    have hsome : (w.openings worm).Nonempty := ⟨k, hk.1⟩
    refine ⟨iff_of_false ?_ (by simp [hnone]), fun hcontact => absurd hnone hcontact.ne_empty,
      fun _ _ => ⟨k, hk, rfl⟩, by simp [hsome.ne_empty]⟩
    rintro ⟨_, ⟨⟩, hcontact⟩
    cases hcontact.symm.trans hk.1.2
  | nowhere hnone hclosed => simp [hnone, hclosed]

/-- A worm in front of a wall, of which it can just pass on the left. -/
def lane : World Rat :=
  let wall : TerrainGrid Rat :=
    { TerrainGrid.empty 11.9 10 with
      rows := 2
      cols := 2
      cells := #[true, false, true, false]
      size_cells := rfl }
  let config : WormConfig Rat :=
    { (default : WormConfig Rat) with
      maxMoveDivergence := 1
      moveDivergenceStep := 0.5
      minMoveFraction := 0.5
      searchStepFraction := 0.5 }
  { World.fresh ⟨1⟩ wall { (default : GameConfig Rat) with worm := config } with
    worms := [.fresh "Ann" ⟨5, 5.5⟩ 0 0.5 config ⟨1⟩] }

/-- The way straight ahead is blocked, and the worm takes the first candidate that touches the
wall. -/
theorem plannedMove_best_lane : ∃ worm target place, lane.worm? ⟨1⟩ = some worm ∧
    lane.plannedMove ⟨1⟩ = .ok (some target) ∧ target ≠ worm.ahead 0 ∧
    IsLeast (lane.contacts worm) place ∧ target = worm.spotAt place := by
  let worm := lane.worms.head (by decide)
  let target := worm.spotAt ⟨0, 1, false⟩
  have htarget : lane.plannedMove ⟨1⟩ = .ok (some target) := by decide +kernel
  have hcontact : lane.grid.classify target worm.radius = .ok .contact := by decide +kernel
  obtain ⟨worm', hworm', htouches, hbest, -, -⟩ := plannedMove_best htarget
  obtain rfl : worm = worm' := Option.some.inj hworm'
  obtain ⟨place, hplace, hsame⟩ := hbest (htouches.mp ⟨target, rfl, hcontact⟩)
  exact ⟨worm, target, place, hworm', htarget, by decide +kernel, hplace, Option.some.inj hsame⟩

end World

end WormBattle
