import WormBattle.Program.Syntax

/-!
# Global variables

A table from names to values. The names are pairwise distinct; they stay in the order in which they
were first given a value, and a later value takes the place of an earlier one.
-/

namespace WormBattle

/-- The global variables of a program with their values. -/
structure Globals (α : Type) where
  /-- The names and values, in the order in which the names were declared. -/
  entries : List (String × Value α)
  /-- No name occurs twice. -/
  nodup : (entries.map Prod.fst).Nodup

namespace Globals

variable {α : Type}

/-- No variables. -/
def empty : Globals α :=
  ⟨[], List.nodup_nil⟩

instance : Inhabited (Globals α) :=
  ⟨empty⟩

/-- The value of a variable in a list of names and values. -/
def lookup (name : String) : List (String × Value α) → Option (Value α)
  | [] => none
  | (n, v) :: rest => if n = name then some v else lookup name rest

/-- The value of a variable. -/
def get? (globals : Globals α) (name : String) : Option (Value α) :=
  lookup name globals.entries

/-- The declared kind of a variable is that of its value. -/
def type? (globals : Globals α) (name : String) : Option ValueType :=
  (globals.get? name).map Value.type

/-- A list of names and values in which a name has got a new value, at its old place if it has
one. -/
def put (name : String) (value : Value α) : List (String × Value α) → List (String × Value α)
  | [] => [(name, value)]
  | (n, v) :: rest => if n = name then (n, value) :: rest else (n, v) :: put name value rest

private theorem mem_map_fst_put {name n : String} {value : Value α}
    {entries : List (String × Value α)} :
    n ∈ (put name value entries).map Prod.fst ↔ n = name ∨ n ∈ entries.map Prod.fst := by
  induction entries with
  | nil => simp [put]
  | cons e rest ih =>
    obtain ⟨m, v⟩ := e
    by_cases h : m = name
    · subst h; simp [put]
    · simp only [put, h, if_false, List.map_cons, List.mem_cons, ih]
      exact or_left_comm

private theorem nodup_put {name : String} {value : Value α} {entries : List (String × Value α)}
    (h : (entries.map Prod.fst).Nodup) : ((put name value entries).map Prod.fst).Nodup := by
  induction entries with
  | nil => simp [put]
  | cons e rest ih =>
    obtain ⟨m, v⟩ := e
    rw [List.map_cons, List.nodup_cons] at h
    by_cases hm : m = name
    · rw [put, if_pos hm, List.map_cons, List.nodup_cons]
      exact h
    · rw [put, if_neg hm, List.map_cons, List.nodup_cons, mem_map_fst_put]
      exact ⟨fun hmem => hmem.elim hm h.1, ih h.2⟩

/-- The table in which a variable has got a new value. -/
def insert (globals : Globals α) (name : String) (value : Value α) : Globals α :=
  ⟨put name value globals.entries, nodup_put globals.nodup⟩

/-- The table of some declarations, of which a later one overrides an earlier one. -/
def ofList (entries : List (String × Value α)) : Globals α :=
  entries.foldl (fun globals e => globals.insert e.1 e.2) empty

/-- Looking a variable up after giving one a value. -/
theorem get?_insert (globals : Globals α) (name n : String) (value : Value α) :
    (globals.insert name value).get? n = if name = n then some value else globals.get? n := by
  show lookup n (put name value globals.entries) = _
  unfold get?
  induction globals.entries with
  | nil => simp [put, lookup]
  | cons e rest ih =>
    obtain ⟨m, v⟩ := e
    by_cases hm : m = name
    · subst hm
      by_cases hn : m = n <;> simp [put, lookup, hn]
    · by_cases hn : m = n
      · subst hn
        simp [put, lookup, hm, Ne.symm hm]
      · simp [put, lookup, hm, hn, ih]

end Globals

end WormBattle
