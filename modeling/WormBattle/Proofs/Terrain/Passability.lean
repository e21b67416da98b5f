import WormBattle.Proofs.Scalar.Real
import WormBattle.Proofs.Entity.Worm
import WormBattle.Terrain.Grid

/-!
# Passability

In exact arithmetic the raster test is a statement about distances: a disc is passable exactly when
no impassable cell has a point inside it (`TerrainGrid.passability_exact`). A cell is here its whole
closed rectangle (`TerrainGrid.InCell`), and a disc that only touches a cell does not overlap it.

A cell is a column interval times a row interval, and an interval comes nearer to a number than some
distance exactly when it overlaps the open interval around that number (`exists_near_iff`). This is
used twice:

* For the rows it says which heights come near the centre, and these are the rows that are tested.
* Within a row the abscissae at which the disc reaches the row form the open interval of its half
  width there (`TerrainGrid.lt_halfWidth_iff`), and these are the columns that are tested.

The scalar indices of the raster are monotone (`TerrainGrid.rowOf_lt_iff` and its like), so rounding
them down at the beginning and up at the end selects exactly the cells whose intervals overlap
(`TerrainGrid.clampIndex_floor_le_iff`, `TerrainGrid.lt_clampIndex_ceil_iff`).
-/

namespace WormBattle

/-- A closed interval comes nearer to a number than some distance exactly if it overlaps the open
interval of that distance around the number. -/
theorem exists_near_iff {low high centre reach : ℝ} (h : low ≤ high) :
    (∃ z, (low ≤ z ∧ z ≤ high) ∧ |z - centre| < reach) ↔
      0 < reach ∧ centre - reach < high ∧ low < centre + reach := by
  constructor
  · rintro ⟨z, ⟨hlow, hhigh⟩, hnear⟩
    obtain ⟨hleft, hright⟩ := abs_lt.mp hnear
    exact ⟨(abs_nonneg _).trans_lt hnear, by linarith, by linarith⟩
  · rintro ⟨hreach, hhigh, hlow⟩
    -- The nearest number of the interval is the centre, held between the two ends.
    refine ⟨max low (min centre high), ⟨le_max_left _ _, max_le h (min_le_right _ _)⟩, ?_⟩
    rw [abs_lt]
    constructor
    · have hmin : centre - reach < min centre high := lt_min (by linarith) hhigh
      linarith [le_max_right low (min centre high)]
    · have hmax : max low (min centre high) < centre + reach :=
        max_lt hlow ((min_le_left _ _).trans_lt (by linarith))
      linarith

namespace TerrainGrid

/-! ### Cells and indices -/

/-- The points of the closed rectangle of a cell: columns count from the left edge of the world,
rows from its top. -/
structure InCell (g : TerrainGrid ℝ) (row col : ℕ) (p : Position ℝ) : Prop where
  left : g.width * (col / g.cols) ≤ p.x
  right : p.x ≤ g.width * ((col + 1) / g.cols)
  below : g.height * (1 - (row + 1) / g.rows) ≤ p.y
  above : p.y ≤ g.height * (1 - row / g.rows)

/-- Some impassable cell has a point nearer to a centre than a radius. -/
def Nears (g : TerrainGrid ℝ) (centre : Position ℝ) (radius : ℝ) : Prop :=
  ∃ row col p, g.cell row col = false ∧ g.InCell row col p ∧ p.distance centre < radius

/-- An index held between zero and a length. -/
theorem clampIndex_intCast (i : ℤ) (length : ℕ) :
    clampIndex (i : ℝ) length = min i.toNat length := by
  rw [clampIndex, Scalar.zero_real, Scalar.toNat_real]
  split_ifs with hneg hbig
  · have hneg : i ≤ 0 := by exact_mod_cast hneg
    omega
  · have hbig : (length : ℤ) ≤ i := by exact_mod_cast hbig
    omega
  · have hbig : i < (length : ℤ) := by exact_mod_cast not_le.mp hbig
    rw [← Int.floor_toNat, Int.floor_intCast]
    omega

variable {length index : ℕ} {value : ℝ}

private theorem clampIndex_floor_le_iff (h : index < length) :
    clampIndex (Scalar.floor value) length ≤ index ↔ value < (index : ℝ) + 1 := by
  rw [Scalar.floor_real, clampIndex_intCast, ← Int.cast_natCast index, ← Int.cast_one,
    ← Int.cast_add, ← Int.floor_lt]
  omega

private theorem lt_clampIndex_ceil_iff (h : index < length) :
    index < clampIndex (Scalar.ceil value) length ↔ (index : ℝ) < value := by
  rw [Scalar.ceil_real, clampIndex_intCast, ← Int.cast_natCast index, ← Int.lt_ceil]
  omega

/-- A test of the numbers between two clamped indices. -/
theorem allFrom_clampIndex_iff {p : ℕ → Bool} {length : ℕ} {low high : ℝ} :
    allFrom p (clampIndex (Scalar.floor low) length)
        (clampIndex (Scalar.ceil high) length - clampIndex (Scalar.floor low) length) = true ↔
      ∀ i < length, low < (i : ℝ) + 1 → (i : ℝ) < high → p i = true := by
  have hlast : clampIndex (Scalar.ceil high) length ≤ length := by
    rw [Scalar.ceil_real, clampIndex_intCast]
    exact min_le_right _ _
  rw [allFrom_iff]
  constructor
  · intro h i hi hlow hhigh
    have hfrom := (clampIndex_floor_le_iff hi).mpr hlow
    have hto := (lt_clampIndex_ceil_iff hi).mpr hhigh
    exact h i hfrom (by omega)
  · intro h i hfrom hto
    have hi : i < length := by omega
    have hceil : i < clampIndex (Scalar.ceil high) length := by omega
    exact h i hi ((clampIndex_floor_le_iff hi).mp hfrom) ((lt_clampIndex_ceil_iff hi).mp hceil)

variable {g : TerrainGrid ℝ}

/-- Only a cell of the map can be impassable. -/
theorem cell_eq_false {row col : ℕ} (h : g.cell row col = false) : row < g.rows ∧ col < g.cols := by
  by_contra hout
  rw [cell, if_neg hout] at h
  cases h

private theorem xOf_eq (col : ℝ) : g.xOf col = g.width * (col / g.cols) := by
  rw [xOf, cellWidth]
  ring

private theorem yOf_eq (row : ℝ) : g.yOf row = g.height * (1 - row / g.rows) := by
  rw [yOf, cellHeight]
  ring

/-- The edges of a cell are those of its row and of its column. -/
theorem inCell_iff {row col : ℕ} {p : Position ℝ} : g.InCell row col p ↔
    (g.xOf col ≤ p.x ∧ p.x ≤ g.xOf (col + 1)) ∧ g.yOf (row + 1) ≤ p.y ∧ p.y ≤ g.yOf row := by
  rw [xOf_eq, xOf_eq, yOf_eq, yOf_eq]
  exact ⟨fun h => ⟨⟨h.left, h.right⟩, h.below, h.above⟩, fun h => ⟨h.1.1, h.1.2, h.2.1, h.2.2⟩⟩

/-- A raster with rows and columns over a rectangle that has an extent. -/
structure Proper (g : TerrainGrid ℝ) : Prop where
  width : 0 < g.width
  height : 0 < g.height
  raster : g.isDegenerate = false

namespace Proper

variable (hg : g.Proper)
include hg

private theorem rows_pos : (0 : ℝ) < g.rows := by
  have h := hg.raster
  rw [isDegenerate, Bool.or_eq_false_iff, beq_eq_false_iff_ne] at h
  exact_mod_cast Nat.pos_of_ne_zero h.1

private theorem cols_pos : (0 : ℝ) < g.cols := by
  have h := hg.raster
  rw [isDegenerate, Bool.or_eq_false_iff, beq_eq_false_iff_ne, beq_eq_false_iff_ne] at h
  exact_mod_cast Nat.pos_of_ne_zero h.2

private theorem cellWidth_pos : 0 < g.cellWidth :=
  div_pos hg.width hg.cols_pos

private theorem cellHeight_pos : 0 < g.cellHeight :=
  div_pos hg.height hg.rows_pos

private theorem colOf_lt_iff (x col : ℝ) : g.colOf x < col ↔ x < g.xOf col := by
  rw [colOf, xOf, div_lt_iff₀' hg.cellWidth_pos]

private theorem lt_colOf_iff (x col : ℝ) : col < g.colOf x ↔ g.xOf col < x := by
  rw [colOf, xOf, lt_div_iff₀' hg.cellWidth_pos]

/-- The rows of the raster fill the height of the world. -/
theorem rows_mul_cellHeight : g.cellHeight * g.rows = g.height := by
  rw [cellHeight, div_mul_cancel₀ _ hg.rows_pos.ne']

/-- Rows grow downwards. -/
theorem rowOf_lt_iff (y row : ℝ) : g.rowOf y < row ↔ g.yOf row < y := by
  rw [rowOf, yOf, sub_lt_comm, lt_div_iff₀' hg.cellHeight_pos, mul_sub, hg.rows_mul_cellHeight]

private theorem lt_rowOf_iff (y row : ℝ) : row < g.rowOf y ↔ y < g.yOf row := by
  rw [rowOf, yOf, lt_sub_comm, div_lt_iff₀' hg.cellHeight_pos, mul_sub, hg.rows_mul_cellHeight]

private theorem xOf_le_xOf (col : ℕ) : g.xOf col ≤ g.xOf (col + 1) := by
  rw [xOf, xOf]
  nlinarith [hg.cellWidth_pos]

private theorem yOf_le_yOf (row : ℕ) : g.yOf (row + 1) ≤ g.yOf row := by
  rw [yOf, yOf]
  nlinarith [hg.cellHeight_pos]

end Proper

/-! ### Discs and rows -/

variable {radius : ℝ}

/-- A line cuts a disc at the points that are nearer to its centre than the radius. -/
theorem lt_halfChord_iff (hradius : 0 < radius) (dx dy : ℝ) :
    |dx| < halfChord radius dy ↔ dx ^ 2 + dy ^ 2 < radius ^ 2 := by
  rw [halfChord, Scalar.abs_real]
  split_ifs with hfar
  · rw [Scalar.zero_real]
    refine iff_of_false (not_lt.mpr (abs_nonneg dx)) (not_lt.mpr ?_)
    calc radius ^ 2 ≤ |dy| ^ 2 := pow_le_pow_left₀ hradius.le hfar 2
      _ = dy ^ 2 := sq_abs dy
      _ ≤ dx ^ 2 + dy ^ 2 := le_add_of_nonneg_left (sq_nonneg dx)
  · rw [Scalar.sqrt_real, Real.lt_sqrt (abs_nonneg dx), sq_abs, ← pow_two, ← pow_two,
      lt_sub_iff_add_lt]

/-- **The half width of a disc within a row** tells at which abscissae it reaches the row. -/
theorem lt_halfWidth_iff (hradius : 0 < radius) {bottom top : ℝ} (h : bottom ≤ top) (y dx : ℝ) :
    |dx| < halfWidth y radius top bottom ↔
      ∃ z, (bottom ≤ z ∧ z ≤ top) ∧ dx ^ 2 + (z - y) ^ 2 < radius ^ 2 := by
  rw [halfWidth]
  split_ifs with hwithin
  · -- The disc is at its widest at its centre's height, which lies in the row.
    rw [← abs_of_pos hradius, ← sq_lt_sq, abs_of_pos hradius]
    constructor
    · exact fun hdx => ⟨y, hwithin, by simpa using hdx⟩
    · rintro ⟨z, -, hz⟩
      linarith [sq_nonneg (z - y)]
  · rw [Scalar.maxNum_real, lt_max_iff, lt_halfChord_iff hradius, lt_halfChord_iff hradius]
    constructor
    · rintro (htop | hbottom)
      · exact ⟨top, ⟨h, le_refl top⟩, htop⟩
      · exact ⟨bottom, ⟨le_refl bottom, h⟩, hbottom⟩
    · rintro ⟨z, ⟨hbottom, htop⟩, hz⟩
      -- Of the heights of the row the edge on the side of the centre is the nearest.
      rcases lt_or_ge y bottom with hbelow | hnot
      · exact .inr (by nlinarith)
      · have habove : top < y := not_le.mp fun hle => hwithin ⟨hnot, hle⟩
        exact .inl (by nlinarith)

/-- The disc reaches into a row at all exactly if the row comes near the height of its centre. -/
theorem halfWidth_pos_iff (hradius : 0 < radius) {bottom top : ℝ} (h : bottom ≤ top) (y : ℝ) :
    0 < halfWidth y radius top bottom ↔ y - radius < top ∧ bottom < y + radius := by
  have hnear : (∃ z, (bottom ≤ z ∧ z ≤ top) ∧ |z - y| < radius) ↔
      0 < radius ∧ y - radius < top ∧ bottom < y + radius := exists_near_iff h
  rw [and_iff_right hradius] at hnear
  rw [← hnear, ← abs_zero (α := ℝ), lt_halfWidth_iff hradius h]
  simp only [zero_pow two_ne_zero, zero_add, sq_lt_sq, abs_of_pos hradius]

/-- Half the width of a disc within a row of the raster. -/
noncomputable def halfWidthIn (g : TerrainGrid ℝ) (centre : Position ℝ) (radius : ℝ) (row : ℕ) :
    ℝ :=
  halfWidth centre.y radius (g.yOf row) (g.yOf (row + 1))

/-- **A disc reaches into a cell** exactly if the indices of its borders, those of the row taken at
its half width there, lie on either side of the cell. -/
theorem Proper.exists_inCell_iff (hg : g.Proper) (hradius : 0 < radius) (centre : Position ℝ)
    (row col : ℕ) : (∃ p, g.InCell row col p ∧ p.distance centre < radius) ↔
      (g.rowOf (centre.y + radius) < row + 1 ∧ row < g.rowOf (centre.y - radius)) ∧
        g.colOf (centre.x - g.halfWidthIn centre radius row) < col + 1 ∧
        col < g.colOf (centre.x + g.halfWidthIn centre radius row) := by
  have hrow := hg.yOf_le_yOf row
  rw [halfWidthIn, hg.rowOf_lt_iff, hg.lt_rowOf_iff, hg.colOf_lt_iff, hg.lt_colOf_iff,
    and_comm (b := _ < g.yOf _), ← halfWidth_pos_iff hradius hrow,
    ← exists_near_iff (hg.xOf_le_xOf col)]
  constructor
  · rintro ⟨p, hp, hnear⟩
    obtain ⟨hx, hy⟩ := inCell_iff.mp hp
    rw [Position.distance_lt_iff hradius] at hnear
    exact ⟨p.x, hx, (lt_halfWidth_iff hradius hrow _ _).mpr ⟨p.y, hy, hnear⟩⟩
  · rintro ⟨x, hx, hnear⟩
    obtain ⟨y, hy, hnear⟩ := (lt_halfWidth_iff hradius hrow _ _).mp hnear
    exact ⟨⟨x, y⟩, inCell_iff.mpr ⟨hx, hy⟩, (Position.distance_lt_iff hradius).mpr hnear⟩

/-! ### The test -/

private theorem isRowPassable_iff (centre : Position ℝ) (radius : ℝ) (row : ℕ) :
    g.isRowPassable centre radius row = true ↔ ∀ col < g.cols,
      g.colOf (centre.x - g.halfWidthIn centre radius row) < col + 1 →
      col < g.colOf (centre.x + g.halfWidthIn centre radius row) → g.cell row col = true := by
  have hone : (1.0 : ℝ) = 1 := by norm_num
  simp only [isRowPassable, halfWidthIn, hone, allFrom_clampIndex_iff]

/-- **A disc is passable exactly when no impassable cell comes near it.** -/
theorem Proper.isPassable_eq_ok (hg : g.Proper) (hradius : 0 < radius) (centre : Position ℝ) :
    ∃ passable, g.isPassable centre radius = .ok passable ∧
      (passable = true ↔ ¬g.Nears centre radius) := by
  have hdisc : checkDisc centre radius = .ok () := by
    simp [checkDisc, hradius.le]
  simp only [isPassable, hdisc, hg.raster]
  refine ⟨_, rfl, ?_⟩
  rw [allFrom_clampIndex_iff, Nears]
  simp only [isRowPassable_iff, not_exists, not_and]
  constructor
  · intro h row col p hcell hp hnear
    obtain ⟨hrow, hcol⟩ := cell_eq_false hcell
    obtain ⟨⟨hfrom, hto⟩, hleft, hright⟩ :=
      (hg.exists_inCell_iff hradius centre row col).mp ⟨p, hp, hnear⟩
    cases hcell.symm.trans (h row hrow hfrom hto col hcol hleft hright)
  · intro h row hrow hfrom hto col hcol hleft hright
    by_contra hcell
    obtain ⟨p, hp, hnear⟩ :=
      (hg.exists_inCell_iff hradius centre row col).mpr ⟨⟨hfrom, hto⟩, hleft, hright⟩
    exact h row col p (by simpa using hcell) hp hnear

/-- What a disc comes near, a larger disc comes near. -/
theorem Nears.mono {centre : Position ℝ} {larger : ℝ} (h : g.Nears centre radius)
    (hle : radius ≤ larger) : g.Nears centre larger := by
  obtain ⟨row, col, p, hcell, hp, hnear⟩ := h
  exact ⟨row, col, p, hcell, hp, hnear.trans_le hle⟩

open Classical in
/-- How a disc lies to the terrain is decided by what comes near it. -/
theorem Proper.classify_eq (hg : g.Proper) (hinflation : 0 < g.contactInflation)
    (hradius : 0 < radius) (centre : Position ℝ) : g.classify centre radius =
      .ok (if g.Nears centre radius then .impassable
        else if g.Nears centre (radius * g.contactInflation) then .contact else .passable) := by
  obtain ⟨passable, hpassable, hnears⟩ := hg.isPassable_eq_ok hradius centre
  obtain ⟨clear, hclear, hinflated⟩ := hg.isPassable_eq_ok (mul_pos hradius hinflation) centre
  simp only [classify, hpassable, hclear]
  cases passable <;> cases clear <;> simp_all [bind, Except.bind, pure, Except.pure]

/-- A disc is blocked exactly if it comes near the ground. -/
theorem Proper.classify_eq_impassable_iff (hg : g.Proper) (hinflation : 0 < g.contactInflation)
    (hradius : 0 < radius) (centre : Position ℝ) :
    g.classify centre radius = .ok .impassable ↔ g.Nears centre radius := by
  rw [hg.classify_eq hinflation hradius]
  split_ifs <;> simp_all

/-- A disc is in the open exactly if the inflated disc does not come near the ground either. -/
theorem Proper.classify_eq_passable_iff (hg : g.Proper) (hinflation : 0 < g.contactInflation)
    (hradius : 0 < radius) (centre : Position ℝ) : g.classify centre radius = .ok .passable ↔
      ¬g.Nears centre radius ∧ ¬g.Nears centre (radius * g.contactInflation) := by
  rw [hg.classify_eq hinflation hradius]
  split_ifs <;> simp_all

/-- **Passability is exact.** A disc is impassable exactly when an impassable cell has a point
inside it, in contact exactly when none has but one has a point inside the inflated disc, and
passable otherwise. -/
theorem passability_exact (g : TerrainGrid ℝ) (hwidth : 0 < g.width) (hheight : 0 < g.height)
    (hraster : g.isDegenerate = false) (hinflation : 1 ≤ g.contactInflation)
    (centre : Position ℝ) (hradius : 0 < radius) :
    (∃ passable, g.isPassable centre radius = .ok passable ∧
      (passable = true ↔ ∀ row col p, g.cell row col = false → g.InCell row col p →
        radius ≤ p.distance centre)) ∧
    ∃ location, g.classify centre radius = .ok location ∧
      (location = .impassable ↔ g.Nears centre radius) ∧
      (location = .contact ↔
        ¬g.Nears centre radius ∧ g.Nears centre (radius * g.contactInflation)) ∧
      (location = .passable ↔
        ¬g.Nears centre radius ∧ ¬g.Nears centre (radius * g.contactInflation)) := by
  have hg : g.Proper := ⟨hwidth, hheight, hraster⟩
  have hlarger : 0 < radius * g.contactInflation := mul_pos hradius (by linarith)
  obtain ⟨passable, hpassable, hnears⟩ := hg.isPassable_eq_ok hradius centre
  obtain ⟨clear, hclear, hinflated⟩ := hg.isPassable_eq_ok hlarger centre
  refine ⟨⟨passable, hpassable, ?_⟩, ?_⟩
  · rw [hnears, Nears]
    simp only [not_exists, not_and, not_lt]
  · simp only [classify, hpassable, hclear]
    cases passable <;> cases clear <;> simp_all [bind, Except.bind, pure, Except.pure]

/-- A wall that fills the left half of a small world. -/
noncomputable def parapet : TerrainGrid ℝ :=
  { TerrainGrid.empty 1 1 with
    rows := 1
    cols := 2
    cells := #[false, true]
    size_cells := rfl }

/-- A disc that touches the wall from the right is clear of it, and in contact. -/
theorem passability_exact_parapet :
    (0 < parapet.width ∧ 0 < parapet.height ∧ parapet.isDegenerate = false ∧
      1 ≤ parapet.contactInflation ∧ (0 : ℝ) < 1 / 4) ∧
    parapet.isPassable ⟨3 / 4, 1 / 2⟩ (1 / 4) = .ok true ∧
    parapet.classify ⟨3 / 4, 1 / 2⟩ (1 / 4) = .ok .contact := by
  have hwidth : 0 < parapet.width := by norm_num [parapet, empty]
  have hheight : 0 < parapet.height := by norm_num [parapet, empty]
  have hraster : parapet.isDegenerate = false := rfl
  have hinflation : 1 ≤ parapet.contactInflation := by norm_num [parapet, empty]
  have hradius : (0 : ℝ) < 1 / 4 := by norm_num
  -- Only the left one of the two cells is impassable, and it ends at the abscissa 1 / 2.
  have hclear : ∀ row col p, parapet.cell row col = false → parapet.InCell row col p →
      1 / 4 ≤ p.distance ⟨3 / 4, 1 / 2⟩ := by
    intro row col p hcell hp
    obtain ⟨hrow, hcol⟩ := cell_eq_false hcell
    obtain rfl : row = 0 := Nat.lt_one_iff.mp hrow
    have hcol : col = 0 ∨ col = 1 := Nat.le_one_iff_eq_zero_or_eq_one.mp (Nat.le_of_lt_succ hcol)
    rcases hcol with rfl | rfl
    · have hx : p.x ≤ 1 / 2 := by
        have hright := hp.right
        norm_num [parapet, empty] at hright
        linarith
      by_contra hnear
      rw [not_le, Position.distance_lt_iff hradius] at hnear
      nlinarith [sq_nonneg (p.y - 1 / 2)]
    · cases hcell
  have htouched : parapet.Nears ⟨3 / 4, 1 / 2⟩ (1 / 4 * parapet.contactInflation) := by
    have hp : parapet.InCell 0 0 ⟨1 / 2, 1 / 2⟩ := by
      constructor <;> norm_num [parapet, empty]
    refine ⟨0, 0, ⟨1 / 2, 1 / 2⟩, rfl, hp, (Position.distance_lt_iff ?_).mpr ?_⟩ <;>
      norm_num [parapet, empty]
  obtain ⟨⟨passable, hpassable, hiff⟩, location, hlocation, -, hcontact, -⟩ :=
    passability_exact parapet hwidth hheight hraster hinflation ⟨3 / 4, 1 / 2⟩ hradius
  have hnot : ¬parapet.Nears ⟨3 / 4, 1 / 2⟩ (1 / 4) := by
    rintro ⟨row, col, p, hcell, hp, hnear⟩
    exact absurd hnear (not_lt.mpr (hclear row col p hcell hp))
  refine ⟨⟨hwidth, hheight, hraster, hinflation, hradius⟩, ?_, ?_⟩
  · rw [hpassable, hiff.mpr hclear]
  · rw [hlocation, hcontact.mpr ⟨hnot, htouched⟩]

end TerrainGrid

end WormBattle
