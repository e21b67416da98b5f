import WormBattle.Proofs.Execution.Reference

/-!
# Cursors as work

A cursor **fits** a statement when it spells a path of compound statements down from it
(`Statement.Fits`). It then stands for the work that is left of the statement: `Statement.pending`
reads it off, the innermost statement first.
-/

namespace WormBattle

variable {α : Type}

namespace Statement

/-- Induction over statements: those without parts at once, a sequence from its members. -/
@[elab_as_elim]
theorem inductionOn {P : Statement α → Prop} (s : Statement α)
    (leaf : ∀ s, s.isControlFlow = false → P s)
    (ifElse : ∀ condition then_ otherwise, P then_ → P otherwise →
      P (ifElse condition then_ otherwise))
    (whileLoop : ∀ condition body, P body → P (whileLoop condition body))
    (forEach : ∀ filter name body, P body → P (forEach filter name body))
    (sequence : ∀ statements, (∀ s ∈ statements, P s) → P (sequence statements)) : P s :=
  match s with
  | .turn angle => leaf (.turn angle) rfl
  | .move => leaf .move rfl
  | .jump => leaf .jump rfl
  | .toggleWeapon => leaf .toggleWeapon rfl
  | .fire yieldPercent => leaf (.fire yieldPercent) rfl
  | .skip => leaf .skip rfl
  | .assign name value => leaf (.assign name value) rfl
  | .print value => leaf (.print value) rfl
  | .ifElse condition then_ otherwise =>
    ifElse condition then_ otherwise
      (inductionOn then_ leaf ifElse whileLoop forEach sequence)
      (inductionOn otherwise leaf ifElse whileLoop forEach sequence)
  | .whileLoop condition body =>
    whileLoop condition body (inductionOn body leaf ifElse whileLoop forEach sequence)
  | .forEach filter name body =>
    forEach filter name body (inductionOn body leaf ifElse whileLoop forEach sequence)
  | .sequence statements =>
    sequence statements fun s _ => inductionOn s leaf ifElse whileLoop forEach sequence

mutual

/-- A cursor fits a statement: each frame is of the kind of the statement it stands for, a sequence
goes on within its length and a loop over entities on one of its entities. -/
def Fits : Statement α → List Frame → Prop
  | _, [] => True
  | ifElse _ then_ _, .ifElse true :: cursor => then_.Fits cursor
  | ifElse _ _ otherwise, .ifElse false :: cursor => otherwise.Fits cursor
  | whileLoop _ body, .whileLoop inBody :: cursor =>
    if inBody then body.Fits cursor else cursor = []
  | forEach _ _ body, .forEach items inBody :: cursor =>
    items ≠ [] ∧ if inBody then body.Fits cursor else cursor = []
  | sequence statements, .sequence index :: cursor => FitsAt statements index cursor
  | _, _ => False

/-- A cursor fits the statement of that number of a sequence. -/
def FitsAt : List (Statement α) → Nat → List Frame → Prop
  | [], _, _ => False
  | s :: _, 0, cursor => s.Fits cursor
  | _ :: rest, index + 1, cursor => FitsAt rest index cursor

end

mutual

/-- The work that is left of a statement at a cursor that fits it. -/
def pending : Statement α → List Frame → List (Work α)
  | ifElse _ then_ _, .ifElse true :: cursor => then_.pending cursor
  | ifElse _ _ otherwise, .ifElse false :: cursor => otherwise.pending cursor
  | whileLoop condition body, .whileLoop false :: _ => [.retest condition body]
  | whileLoop condition body, .whileLoop true :: cursor =>
    body.pending cursor ++ [.retest condition body]
  | forEach _ name body, .forEach items false :: _ => [.items none items name body]
  | forEach _ name body, .forEach items true :: cursor =>
    body.pending cursor ++ [.items items.head? items.tail name body]
  | sequence statements, .sequence index :: cursor => pendingFrom statements index cursor
  | s, _ => [.statement s]

/-- The work that is left of a sequence in the statement of that number. -/
def pendingFrom : List (Statement α) → Nat → List Frame → List (Work α)
  | [], _, _ => []
  | s :: rest, 0, cursor => s.pending cursor ++ rest.map .statement
  | _ :: rest, index + 1, cursor => pendingFrom rest index cursor

end

/-- The statement at which a sequence stands is one of its statements. -/
theorem mem_of_drop_eq_cons {statements rest : List (Statement α)} {s : Statement α} {index : Nat}
    (hdrop : statements.drop index = s :: rest) : s ∈ statements :=
  List.mem_of_mem_drop (hdrop ▸ List.mem_cons_self)

/-- The statements after the one at which a sequence stands. -/
theorem drop_succ_of_drop_eq_cons {statements rest : List (Statement α)} {s : Statement α}
    {index : Nat} (hdrop : statements.drop index = s :: rest) :
    statements.drop (index + 1) = rest := by
  rw [← List.drop_drop, hdrop, List.drop_one, List.tail_cons]

/-- The empty cursor fits every statement. -/
@[simp] theorem fits_nil (s : Statement α) : s.Fits [] := by
  cases s <;> simp [Fits]

/-- A statement that has not begun is all that is to be done. -/
@[simp] theorem pending_nil (s : Statement α) : s.pending [] = [.statement s] := by
  cases s <;> simp [pending]

/-- A statement that has not begun is all that is left of it, whatever has left the world. -/
theorem resume_pending_nil (view : View α) (s : Statement α) :
    Work.resume view (s.pending []) = [.statement s] := by
  rw [pending_nil]
  rfl

/-- Only the empty cursor fits a statement without parts. -/
theorem eq_nil_of_fits_of_leaf {s : Statement α} {cursor : List Frame}
    (h : s.isControlFlow = false) (hfits : s.Fits cursor) : cursor = [] := by
  cases cursor with
  | nil => rfl
  | cons frame cursor =>
    cases s with
    | ifElse | whileLoop | forEach | sequence => cases h
    | _ => simp [Fits] at hfits

end Statement

end WormBattle
