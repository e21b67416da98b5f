import WormBattle.Error

/-!
# Terrain

A raster of passable and impassable cells is stretched over the rectangle of the world. Row 0 holds
the topmost cells: heights grow upwards and rows downwards. Outside the raster everything is
passable.

* A disc is **passable** where no impassable cell overlaps it (`isPassable`). The cells are tested
  row by row: in each row the disc is at its widest at its centre's height, if that lies in the row,
  and else at one of the row's two edges.
* A disc is in **contact** when it is passable and a slightly inflated one is not (`classify`).
-/

namespace WormBattle

open Scalar

/-- How a disc lies to the terrain. -/
inductive Location where
  /-- Clear of it, even when inflated. -/
  | passable
  /-- Clear of it, but not when inflated. -/
  | contact
  /-- Overlapping it. -/
  | impassable
  deriving Repr, DecidableEq

/-- The written name of a location. -/
def Location.name : Location → String
  | passable => "passable"
  | contact => "contact"
  | impassable => "impassable"

/-- A raster over a rectangle. -/
structure TerrainGrid (α : Type) where
  /-- The width of the rectangle. -/
  width : α
  /-- The height of the rectangle. -/
  height : α
  /-- The number of rows. -/
  rows : Nat
  /-- The number of columns. -/
  cols : Nat
  /-- The cells row by row from the top, `true` where passable. -/
  cells : Array Bool
  /-- Every row has a cell for every column. -/
  size_cells : cells.size = rows * cols
  /-- The factor by which a disc is inflated to detect contact. -/
  contactInflation : α

namespace TerrainGrid

/-- Whether a property holds of so many numbers from a number on. -/
def allFrom (p : Nat → Bool) (start : Nat) : Nat → Bool
  | 0 => true
  | count + 1 => p start && allFrom p (start + 1) count

/-- A test of a range holds if it holds at every index of the range. -/
theorem allFrom_iff {p : Nat → Bool} {start count : Nat} :
    allFrom p start count = true ↔ ∀ i, start ≤ i → i < start + count → p i = true := by
  induction count generalizing start with
  | zero => simp only [allFrom, true_iff]; intro i h h'; omega
  | succ n ih =>
    rw [allFrom, Bool.and_eq_true, ih]
    constructor
    · rintro ⟨h₀, h⟩ i hi hi'
      rcases Nat.eq_or_lt_of_le hi with rfl | hlt
      · exact h₀
      · exact h i hlt (by omega)
    · intro h
      exact ⟨h start (Nat.le_refl _) (by omega), fun i hi hi' => h i (by omega) (by omega)⟩

/-- Rows of one length hold as many cells as their number times their length. -/
theorem length_flatten_of_forall {map : List (List Bool)} {n : Nat}
    (h : ∀ row ∈ map, row.length = n) : map.flatten.length = map.length * n := by
  induction map with
  | nil => simp
  | cons row rest ih =>
    rw [List.flatten_cons, List.length_append, h row List.mem_cons_self,
      ih fun r hr => h r (List.mem_cons_of_mem _ hr), List.length_cons, Nat.succ_mul, Nat.add_comm]

variable {α : Type} [Scalar α]

/-- A world without a raster, in which everything is passable. -/
def empty (width height : α) : TerrainGrid α :=
  { width, height, rows := 0, cols := 0, cells := #[], size_cells := rfl, contactInflation := 1.1 }

/-- The raster of a map given by rows of cells. Rows that differ in length do not make a raster, and
the world stays without one. -/
def ofRows (width height : α) (map : List (List Bool)) : Except (Error α) (TerrainGrid α) :=
  if isFinite width && decide (0.0 < width) && isFinite height && decide (0.0 < height) then
    let cols := (map.head?.map List.length).getD 0
    if h : ∀ row ∈ map, row.length = cols then
      .ok
        { width, height
          rows := map.length
          cols
          cells := map.flatten.toArray
          size_cells := by rw [List.size_toArray]; exact length_flatten_of_forall h
          contactInflation := 1.1 }
    else .ok (empty width height)
  else .error (.illegalDimensions width height)

/-- The cells that a line of a drawn map shows: only `#` is impassable. -/
def cellsOfLine (line : String) : List Bool :=
  line.toList.map (· ≠ '#')

/-- The raster of a drawn map. -/
def ofLines (width height : α) (lines : List String) : Except (Error α) (TerrainGrid α) :=
  ofRows width height (lines.map cellsOfLine)

/-- The same raster with another inflation. -/
def withContactInflation (g : TerrainGrid α) (factor : α) : TerrainGrid α :=
  { g with contactInflation := factor }

/-- Whether there is no raster. -/
def isDegenerate (g : TerrainGrid α) : Bool :=
  g.rows == 0 || g.cols == 0

/-- The width of a cell. -/
def cellWidth (g : TerrainGrid α) : α :=
  g.width / (g.cols : α)

/-- The height of a cell. -/
def cellHeight (g : TerrainGrid α) : α :=
  g.height / (g.rows : α)

/-- The column that an abscissa falls into, as a scalar. -/
def colOf (g : TerrainGrid α) (x : α) : α :=
  x / g.cellWidth

/-- The row that a height falls into, as a scalar. -/
def rowOf (g : TerrainGrid α) (y : α) : α :=
  (g.rows : α) - y / g.cellHeight

/-- The left edge of a column. -/
def xOf (g : TerrainGrid α) (col : α) : α :=
  g.cellWidth * col

/-- The upper edge of a row. -/
def yOf (g : TerrainGrid α) (row : α) : α :=
  g.height - g.cellHeight * row

/-- Whether a cell is passable. Cells off the raster are. -/
def cell (g : TerrainGrid α) (row col : Nat) : Bool :=
  if row < g.rows ∧ col < g.cols then g.cells.getD (row * g.cols + col) true else true

/-- A scalar index held between zero and a length. -/
def clampIndex (value : α) (length : Nat) : Nat :=
  if value ≤ 0.0 then 0 else if (length : α) ≤ value then length else toNat value

/-- Half the chord that a horizontal line at a distance from its centre cuts out of a disc. -/
def halfChord (radius dy : α) : α :=
  if radius ≤ Scalar.abs dy then 0.0 else sqrt (radius * radius - dy * dy)

/-- Half the width of a disc within the row between two heights. -/
def halfWidth (y radius top bottom : α) : α :=
  if bottom ≤ y ∧ y ≤ top then radius
  else maxNum (halfChord radius (top - y)) (halfChord radius (bottom - y))

/-- Whether the cells of a row that a disc overlaps are passable. -/
def isRowPassable (g : TerrainGrid α) (centre : Position α) (radius : α) (row : Nat) : Bool :=
  let top := g.yOf (row : α)
  let bottom := g.yOf ((row : α) + 1.0)
  let half := halfWidth centre.y radius top bottom
  let first := clampIndex (floor (g.colOf (centre.x - half))) g.cols
  let last := clampIndex (ceil (g.colOf (centre.x + half))) g.cols
  allFrom (g.cell row) first (last - first)

/-- A disc has a radius that is not negative and a finite position. -/
def checkDisc (centre : Position α) (radius : α) : Except (Error α) Unit :=
  if isUndefined radius || radius < 0.0 then .error (.illegalRadius radius)
  else if !centre.isFinite then .error (.illegalPosition centre)
  else .ok ()

/-- Whether all cells that a disc overlaps are passable. -/
def isPassable (g : TerrainGrid α) (centre : Position α) (radius : α) :
    Except (Error α) Bool := do
  checkDisc centre radius
  if g.isDegenerate then return true
  let first := clampIndex (floor (g.rowOf (centre.y + radius))) g.rows
  let last := clampIndex (ceil (g.rowOf (centre.y - radius))) g.rows
  return allFrom (g.isRowPassable centre radius) first (last - first)

/-- How a disc lies to the terrain. -/
def classify (g : TerrainGrid α) (centre : Position α) (radius : α) :
    Except (Error α) Location := do
  if !(← g.isPassable centre radius) then return .impassable
  if !(← g.isPassable centre (radius * g.contactInflation)) then return .contact
  return .passable

/-- Whether the square around a disc lies within the world. -/
def isInside (g : TerrainGrid α) (centre : Position α) (radius : α) : Bool :=
  decide (0.0 ≤ centre.x - radius) && decide (centre.x + radius ≤ g.width) &&
    decide (0.0 ≤ centre.y - radius) && decide (centre.y + radius ≤ g.height)

end TerrainGrid

end WormBattle
