import WormBattle.Proofs.Scalar.Real
import WormBattle.Physics.Ray

/-!
# Rays and discs

In exact arithmetic a ray hits a disc where it enters it: the distance that is found is the infimum
of the distances at which the ray is strictly inside the disc, and where there are none, none is
found. There is one exception. A ray that starts on the rim and leads away from the centre is
nowhere inside (`Ray.Leaves`), and it is said to hit the disc at once (`Ray.hitAlong?_exact`).

The centre and a point of the ray are as far apart as the two legs of a right-angled triangle say:
from the point to the foot of the centre on the ray's line, and from the foot to the centre
(`Ray.distance_sq_eq`). So the line is inside from half a chord before the foot to half a chord
behind it, and the ray is so where it has begun by then (`Ray.inside_eq`).
-/

namespace WormBattle.Ray

variable (origin : Position ℝ) (dx dy : ℝ) (centre : Position ℝ) (radius : ℝ)

/-- The distances along a ray at which it is strictly inside a disc. -/
def inside : Set ℝ :=
  {t | 0 ≤ t ∧ (origin.offset (t * dx) (t * dy)).distance centre < radius}

/-- How far along the line of a ray the foot of a centre is: behind the origin if it is negative. -/
def foot : ℝ :=
  (centre.x - origin.x) * dx + (centre.y - origin.y) * dy

/-- The square of the distance between a centre and its foot. -/
def offsetSq : ℝ :=
  (centre.x - origin.x) ^ 2 + (centre.y - origin.y) ^ 2 - foot origin dx dy centre ^ 2

/-- The ray starts on the rim of a disc and leads away from its centre. -/
def Leaves : Prop :=
  origin.distance centre = radius ∧ foot origin dx dy centre < 0

variable {origin dx dy centre radius} {half : ℝ}

/-! ### Inside a disc -/

/-- The line of a ray is as far from a centre as the foot, and a point of it farther. -/
theorem distance_sq_eq (hunit : dx ^ 2 + dy ^ 2 = 1) (t : ℝ) :
    (origin.x + t * dx - centre.x) ^ 2 + (origin.y + t * dy - centre.y) ^ 2 =
      (t - foot origin dx dy centre) ^ 2 + offsetSq origin dx dy centre := by
  rw [offsetSq, foot]
  linear_combination t ^ 2 * hunit

private theorem mem_inside_iff (hunit : dx ^ 2 + dy ^ 2 = 1) (hradius : 0 < radius) {t : ℝ} :
    t ∈ inside origin dx dy centre radius ↔ 0 ≤ t ∧
      (t - foot origin dx dy centre) ^ 2 < radius ^ 2 - offsetSq origin dx dy centre := by
  rw [lt_sub_iff_add_lt, ← distance_sq_eq hunit]
  exact and_congr_right fun _ => Position.distance_lt_iff hradius

/-- A ray whose line comes no nearer than the radius is nowhere inside. -/
theorem inside_eq_empty (hunit : dx ^ 2 + dy ^ 2 = 1) (hradius : 0 < radius)
    (hfar : radius ^ 2 ≤ offsetSq origin dx dy centre) :
    inside origin dx dy centre radius = ∅ := by
  refine Set.eq_empty_of_forall_notMem fun t ht => ?_
  have hsq := ((mem_inside_iff hunit hradius).mp ht).2
  linarith [sq_nonneg (t - foot origin dx dy centre)]

/-- A ray whose line comes nearer is inside from half a chord before the foot to half a chord behind
it, cut off where the ray begins. -/
theorem inside_eq (hunit : dx ^ 2 + dy ^ 2 = 1) (hradius : 0 < radius) (hhalf : 0 < half)
    (hsq : half ^ 2 = radius ^ 2 - offsetSq origin dx dy centre) :
    inside origin dx dy centre radius = Set.Ici 0 ∩
      Set.Ioo (foot origin dx dy centre - half) (foot origin dx dy centre + half) := by
  ext t
  rw [mem_inside_iff hunit hradius, ← hsq, sq_lt_sq, abs_of_pos hhalf, abs_lt]
  constructor
  · rintro ⟨ht, hlow, hhigh⟩
    exact ⟨ht, by linarith, by linarith⟩
  · rintro ⟨ht, hlow, hhigh⟩
    exact ⟨ht, by linarith, by linarith⟩

/-- The infimum of an interval that is cut off at zero. -/
theorem isGLB_Ici_inter_Ioo {low high : ℝ} (h : low < high) (hhigh : 0 < high) :
    IsGLB (Set.Ici 0 ∩ Set.Ioo low high) (max low 0) := by
  rcases lt_or_ge low 0 with hlow | hlow
  · have hcut : Set.Ici 0 ∩ Set.Ioo low high = Set.Ico 0 high := by
      ext t
      exact ⟨fun ht => ⟨ht.1, ht.2.2⟩, fun ht => ⟨ht.1, hlow.trans_le ht.1, ht.2⟩⟩
    rw [hcut, max_eq_right hlow.le]
    exact isGLB_Ico hhigh
  · have hcut : Set.Ici 0 ∩ Set.Ioo low high = Set.Ioo low high :=
      Set.inter_eq_right.mpr fun t ht => hlow.trans ht.1.le
    rw [hcut, max_eq_left hlow]
    exact isGLB_Ioo h

/-! ### On the rim -/

/-- An origin on the rim is as far from the foot as the chord reaches. -/
theorem distance_eq_iff (dx dy : ℝ) (hradius : 0 < radius) : origin.distance centre = radius ↔
    foot origin dx dy centre ^ 2 = radius ^ 2 - offsetSq origin dx dy centre := by
  have hsq : offsetSq origin dx dy centre + foot origin dx dy centre ^ 2 =
      (origin.x - centre.x) ^ 2 + (origin.y - centre.y) ^ 2 := by
    rw [offsetSq]
    ring
  rw [Position.distance_real, Real.sqrt_eq_iff_mul_self_eq_of_pos hradius, ← hsq, ← pow_two]
  constructor <;> intro h <;> linarith

/-- A ray whose line comes no nearer than the radius does not leave the disc. -/
theorem not_leaves (hradius : 0 < radius) (hfar : radius ^ 2 ≤ offsetSq origin dx dy centre) :
    ¬Leaves origin dx dy centre radius := by
  rintro ⟨hrim, hbehind⟩
  have hsq := (distance_eq_iff dx dy hradius).mp hrim
  have hpos := pow_pos (neg_pos.mpr hbehind) 2
  rw [neg_sq] at hpos
  linarith

/-- A ray leaves the disc exactly if the chord ends where the ray begins. -/
theorem leaves_iff (hradius : 0 < radius) (hhalf : 0 < half)
    (hsq : half ^ 2 = radius ^ 2 - offsetSq origin dx dy centre) :
    Leaves origin dx dy centre radius ↔ foot origin dx dy centre + half = 0 := by
  rw [Leaves, distance_eq_iff dx dy hradius, ← hsq, sq_eq_sq_iff_eq_or_eq_neg]
  constructor
  · rintro ⟨hsame | hopposite, hbehind⟩
    · linarith
    · linarith
  · intro h
    exact ⟨.inr (by linarith), by linarith⟩

/-! ### Hits -/

private theorem hitAlong?_eq : hitAlong? origin dx dy centre radius =
    let half := √(radius ^ 2 - offsetSq origin dx dy centre)
    if radius ^ 2 ≤ offsetSq origin dx dy centre then none
    else if foot origin dx dy centre + half < 0 then none
    else some (max (foot origin dx dy centre - half) 0) := by
  simp only [hitAlong?, offsetSq, foot, pow_two, Scalar.sqrt_real, Scalar.maxNum_real,
    Scalar.zero_real]

/-- **The ray test is exact, but for rays that leave from the rim.** The distance that is found is
the infimum of the distances at which the ray is inside the disc, and none is found where there are
none. Only a ray that starts on the rim and leads away from the centre is said to hit the disc, at
distance zero, although it is nowhere inside. -/
theorem hitAlong?_exact (hunit : dx ^ 2 + dy ^ 2 = 1) (hradius : 0 < radius) :
    (∀ d, hitAlong? origin dx dy centre radius = some d ↔
      IsGLB (inside origin dx dy centre radius) d ∨ Leaves origin dx dy centre radius ∧ d = 0) ∧
    (hitAlong? origin dx dy centre radius = none ↔
      inside origin dx dy centre radius = ∅ ∧ ¬Leaves origin dx dy centre radius) ∧
    (Leaves origin dx dy centre radius → inside origin dx dy centre radius = ∅) := by
  rw [hitAlong?_eq]
  rcases le_or_gt (radius ^ 2) (offsetSq origin dx dy centre) with hfar | hnear
  · have hinside := inside_eq_empty hunit hradius hfar
    have hleaves := not_leaves hradius hfar
    simp [hfar, hinside, hleaves]
  · simp only [not_le.mpr hnear, if_false]
    have hpos : 0 < radius ^ 2 - offsetSq origin dx dy centre := sub_pos.mpr hnear
    generalize hroot : √(radius ^ 2 - offsetSq origin dx dy centre) = half
    have hhalf : 0 < half := hroot ▸ Real.sqrt_pos.mpr hpos
    have hsq : half ^ 2 = radius ^ 2 - offsetSq origin dx dy centre := hroot ▸ Real.sq_sqrt hpos.le
    rw [inside_eq hunit hradius hhalf hsq, leaves_iff hradius hhalf hsq]
    generalize foot origin dx dy centre = along
    have hempty : along + half ≤ 0 → Set.Ici 0 ∩ Set.Ioo (along - half) (along + half) = ∅ :=
      fun hend => Set.eq_empty_of_forall_notMem fun t ht => by linarith [ht.1.out, ht.2.2]
    -- The chord ends behind the origin, at the origin or in front of it.
    rcases lt_trichotomy (along + half) 0 with hbehind | hrim | hfront
    · rw [hempty hbehind.le]
      simp [hbehind, hbehind.ne]
    · have hzero : max (along - half) 0 = 0 := max_eq_right (by linarith)
      rw [hempty hrim.le]
      simp [hrim, hzero, eq_comm]
    · have hglb := isGLB_Ici_inter_Ioo (by linarith : along - half < along + half) hfront
      simp only [hfront.not_gt, if_false, hfront.ne', false_and, or_false, Option.some.injEq,
        reduceCtorEq, hglb.nonempty.ne_empty, false_implies, and_true]
      exact fun d => ⟨fun h => h ▸ hglb, fun h => hglb.unique h⟩

/-- A ray that enters a disc ahead of it, and one that leaves a disc from its rim. -/
theorem hitAlong?_exact_ahead_and_behind : ((1 : ℝ) ^ 2 + 0 ^ 2 = 1 ∧ (0 : ℝ) < 5 ∧ (0 : ℝ) < 1) ∧
    (hitAlong? ⟨0, 0⟩ 1 0 ⟨5, 3⟩ 5 = some (1 : ℝ) ∧ IsGLB (inside ⟨0, 0⟩ 1 0 ⟨5, 3⟩ 5) 1) ∧
    hitAlong? ⟨0, 0⟩ 1 0 ⟨-1, 0⟩ 1 = some (0 : ℝ) ∧ inside ⟨0, 0⟩ 1 0 ⟨-1, 0⟩ 1 = ∅ := by
  have hunit : (1 : ℝ) ^ 2 + 0 ^ 2 = 1 := by norm_num
  have hfive : (0 : ℝ) < 5 := by norm_num
  have hone : (0 : ℝ) < 1 := by norm_num
  have hhit : hitAlong? ⟨0, 0⟩ 1 0 ⟨5, 3⟩ 5 = some (1 : ℝ) := by
    have hroot : √(16 : ℝ) = 4 := by
      rw [show (16 : ℝ) = 4 ^ 2 by norm_num, Real.sqrt_sq (by norm_num)]
    norm_num [hitAlong?_eq, offsetSq, foot, hroot]
  have hleaves : Leaves ⟨0, 0⟩ 1 0 ⟨-1, 0⟩ 1 := by
    rw [Leaves, distance_eq_iff 1 0 hone]
    norm_num [offsetSq, foot]
  have hglb := ((hitAlong?_exact hunit hfive).1 1).mp hhit
  refine ⟨⟨hunit, hfive, hone⟩, ⟨hhit, hglb.resolve_right fun h => one_ne_zero h.2⟩, ?_, ?_⟩
  · exact ((hitAlong?_exact hunit hone).1 0).mpr (.inr ⟨hleaves, rfl⟩)
  · exact (hitAlong?_exact hunit hone).2.2 hleaves

/-- Not every ray that is said to hit a disc comes inside it: one may leave it from its rim. -/
theorem not_always_inside : ¬∀ (origin : Position ℝ) (dx dy : ℝ) (centre : Position ℝ) (radius : ℝ),
    dx ^ 2 + dy ^ 2 = 1 → 0 < radius →
      ((hitAlong? origin dx dy centre radius).isSome ↔
        (inside origin dx dy centre radius).Nonempty) := by
  intro h
  have hunit : (1 : ℝ) ^ 2 + 0 ^ 2 = 1 := by norm_num
  have hhit : hitAlong? ⟨0, 0⟩ 1 0 ⟨-1, 0⟩ 1 = some (0 : ℝ) := by
    norm_num [hitAlong?_eq, offsetSq, foot]
  obtain ⟨t, ht⟩ := (h ⟨0, 0⟩ 1 0 ⟨-1, 0⟩ 1 hunit one_pos).mp (by rw [hhit]; rfl)
  obtain ⟨hstart, hsq⟩ := (mem_inside_iff hunit one_pos).mp ht
  have hnear : |t + 1| < 1 := by simpa [offsetSq, foot] using hsq
  linarith [(abs_lt.mp hnear).2]

end WormBattle.Ray
