/-!
# Searches by number

The first of so many numbered candidates that a search accepts. A candidate can also make the whole
search fail.
-/

namespace WormBattle

variable {ε β : Type}

/-- The first result among the candidates from a number on. -/
@[specialize]
def firstSome? (f : Nat → Except ε (Option β)) (start : Nat) : Nat → Except ε (Option β)
  | 0 => .ok none
  | count + 1 =>
    match f start with
    | .ok none => firstSome? f (start + 1) count
    | found => found

/-- A search finds a result exactly when some candidate has it and all candidates before are passed
over. -/
theorem firstSome?_eq_some_iff {f : Nat → Except ε (Option β)} {start count : Nat} {b : β} :
    firstSome? f start count = .ok (some b) ↔
      ∃ i, i < count ∧ f (start + i) = .ok (some b) ∧ ∀ j, j < i → f (start + j) = .ok none := by
  induction count generalizing start with
  | zero => simp [firstSome?]
  | succ n ih =>
    rw [firstSome?]
    split
    · rename_i h
      rw [ih]
      constructor
      · rintro ⟨i, hi, hf, hb⟩
        refine ⟨i + 1, by omega, by rw [← hf]; congr 1; omega, fun j hj => ?_⟩
        cases j with
        | zero => exact h
        | succ j => rw [← hb j (by omega)]; congr 1; omega
      · rintro ⟨i, hi, hf, hb⟩
        cases i with
        | zero => rw [Nat.add_zero, h] at hf; cases hf
        | succ i =>
          exact ⟨i, by omega, by rw [← hf]; congr 1; omega,
            fun j hj => by rw [← hb (j + 1) (by omega)]; congr 1; omega⟩
    · rename_i h
      constructor
      · intro hf
        exact ⟨0, by omega, hf, fun j hj => absurd hj (by omega)⟩
      · rintro ⟨i, hi, hf, hb⟩
        cases i with
        | zero => exact hf
        | succ i => exact absurd (hb 0 (by omega)) h

/-- A search finds nothing exactly when all candidates are passed over. -/
theorem firstSome?_eq_none_iff {f : Nat → Except ε (Option β)} {start count : Nat} :
    firstSome? f start count = .ok none ↔ ∀ i, i < count → f (start + i) = .ok none := by
  induction count generalizing start with
  | zero => simp [firstSome?]
  | succ n ih =>
    rw [firstSome?]
    split
    · rename_i h
      rw [ih]
      constructor
      · intro hf i hi
        cases i with
        | zero => exact h
        | succ i => rw [← hf i (by omega)]; congr 1; omega
      · intro hf i hi
        rw [← hf (i + 1) (by omega)]; congr 1; omega
    · rename_i h
      constructor
      · intro hf; exact absurd hf h
      · intro hf; exact hf 0 (by omega)

end WormBattle
