import WormBattle.Proofs.Execution.Parts
import WormBattle.Proofs.Execution.Budget

/-!
# Cursors on a stack

The executor takes a cursor apart on its way down and puts it together on its way back. Here the
frames of all statements on the way stand on one stack, as a program keeps them that runs in place:
a statement knows the depth of its own frame, pushes it when it begins, overwrites it as it gets on
and takes it off, with all that stands above, when it is done (`Statement.execOnStack`). There is
much that could go wrong with such a stack (`Slip`).

Nothing does. On a stack that holds a cursor that fits, behind the frames of the statements around,
the execution agrees with the one at the cursor (`Statement.exec_agrees`). So every run is one on
the stack that the last run has left, whatever the instance was bound to in between
(`ProgramInstance.Made.cursorSound`).
-/

namespace WormBattle

variable {α σ : Type}

/-- What can go wrong with a stack. -/
inductive Slip where
  /-- The frame that stands at the depth of a statement is of another kind than the statement. -/
  | mismatch
  /-- A frame is overwritten that is not there. -/
  | outOfRange
  /-- A loop over entities makes more rounds than there are entities. -/
  | endless
  deriving Repr, DecidableEq

/-- The end of an execution on a stack: why it stopped, the stack, and the machine. -/
abbrev StackEnd (α σ : Type) := Except Slip (Stop α × List Frame × Machine α σ)

namespace StackEnd

/-- Go on when a part is done; otherwise the whole ends with the part, and the stack is left as the
part has left it. -/
def andThen (ended : StackEnd α σ) (next : List Frame → Machine α σ → StackEnd α σ) :
    StackEnd α σ :=
  match ended with
  | .ok (.completed, stack, m) => next stack m
  | stopped => stopped

/-- Overwrite the frame at a depth, which has to be there, and go on. -/
def write (stack : List Frame) (depth : Nat) (frame : Frame) (go : List Frame → StackEnd α σ) :
    StackEnd α σ :=
  if depth < stack.length then go (stack.set depth frame) else .error .outOfRange

/-- Take the frames from a depth on off the stack. -/
def finish (depth : Nat) (stack : List Frame) (m : Machine α σ) : StackEnd α σ :=
  .ok (.completed, stack.take depth, m)

/-- Go on with one unit less; without a unit, stop with the stack as it is. -/
def charge (stack : List Frame) (m : Machine α σ) (go : Machine α σ → StackEnd α σ) :
    StackEnd α σ :=
  match m.spend? with
  | some m => go m
  | none => .ok (.suspended .budget, stack, m)

/-- Go on with a value, or fail. -/
def withValue {β : Type} (stack : List Frame) (m : Machine α σ) (value : Except (Error α) β)
    (go : β → StackEnd α σ) : StackEnd α σ :=
  match value with
  | .ok v => go v
  | .error e => .ok (.failed e, stack, m)

end StackEnd

/-- The loop that stands at a depth of the stack goes on to its next entity. -/
def advance (depth : Nat) (stack : List Frame) : List Frame :=
  match stack[depth]? with
  | some (.forEach items _) => stack.set depth (.forEach items.tail false)
  | _ => stack

/-! ### Agreement -/

/-- An execution on a stack, under the frames of the statements around it, ends as one at a cursor
does. Nothing goes wrong. A statement that is done leaves the frames around it as they are, and one
that is suspended leaves its cursor behind them. -/
def Agrees (outer : List Frame) (ended : Flow α × Machine α σ) (r : StackEnd α σ) : Prop :=
  ∃ stack, r = .ok (ended.1.stop, stack, ended.2) ∧ (ended.1 = .done → stack = outer) ∧
    ∀ reason cursor, ended.1 = .suspended reason cursor → stack = outer ++ cursor

section Agreement

open StackEnd

variable {outer stack : List Frame} {m : Machine α σ}

private theorem agrees_done : Agrees outer (.done, m) (.ok (.completed, outer, m)) :=
  ⟨outer, rfl, fun _ => rfl, nofun⟩

private theorem agrees_finish (frames : List Frame) :
    Agrees outer (.done, m) (finish outer.length (outer ++ frames) m) := by
  rw [finish, List.take_left]
  exact agrees_done

private theorem agrees_suspended (reason : SuspendReason) (cursor : List Frame) :
    Agrees outer (.suspended reason cursor, m) (.ok (.suspended reason, outer ++ cursor, m)) := by
  refine ⟨outer ++ cursor, rfl, nofun, fun _ _ h => ?_⟩
  cases h
  rfl

private theorem agrees_charge {cursor : List Frame} {go : Machine α σ → Flow α × Machine α σ}
    {go' : Machine α σ → StackEnd α σ} (hgo : ∀ m', m.spend? = some m' →
      Agrees outer (go m') (go' m')) :
    Agrees outer (m.chargeAt cursor go) (charge (outer ++ cursor) m go') := by
  rw [Machine.chargeAt, charge]
  cases hm : m.spend? with
  | some m' => exact hgo m' hm
  | none => exact agrees_suspended .budget cursor

private theorem agrees_withValue {β : Type} {value : Except (Error α) β}
    {go : β → Flow α × Machine α σ}
    {go' : β → StackEnd α σ} (hgo : ∀ v, value = .ok v → Agrees outer (go v) (go' v)) :
    Agrees outer (m.withValue value go) (withValue stack m value go') := by
  cases value with
  | ok v => exact hgo v rfl
  | error e => exact ⟨stack, rfl, nofun, nofun⟩

/-- **A part under its frame, and then the rest.** -/
theorem Agrees.andThen {frame : Frame} {ended : Flow α × Machine α σ} {r : StackEnd α σ}
    {next : Machine α σ → Flow α × Machine α σ} {next' : List Frame → Machine α σ → StackEnd α σ}
    (h : Agrees (outer ++ [frame]) ended r)
    (hnext : ∀ m', ended = (.done, m') → Agrees outer (next m') (next' (outer ++ [frame]) m')) :
    Agrees outer (Flow.continued frame ended next) (r.andThen next') := by
  obtain ⟨stack, rfl, hdone, hsuspended⟩ := h
  rcases ended with ⟨_ | ⟨reason, cursor⟩ | _ | e, m'⟩
  · obtain rfl := hdone rfl
    exact hnext m' rfl
  · obtain rfl := hsuspended reason cursor rfl
    rw [List.append_assoc]
    exact agrees_suspended reason (frame :: cursor)
  · exact ⟨stack, rfl, nofun, nofun⟩
  · exact ⟨stack, rfl, nofun, nofun⟩

/-! The frame of a statement is the next one behind those around it. -/

private theorem getElem?_outer (frame : Frame) (frames : List Frame) :
    (outer ++ frame :: frames)[outer.length]? = some frame := by
  simp

private theorem set_outer (frame frame' : Frame) :
    (outer ++ [frame]).set outer.length frame' = outer ++ [frame'] := by
  simp

private theorem take_outer (frame : Frame) (frames : List Frame) :
    (outer ++ frame :: frames).take (outer.length + 1) = outer ++ [frame] := by
  rw [List.append_cons, List.take_left' (by simp)]

private theorem write_outer (frame frame' : Frame) (go : List Frame → StackEnd α σ) :
    write (outer ++ [frame]) outer.length frame' go = go (outer ++ [frame']) := by
  rw [write, if_pos (by simp), set_outer]

private theorem advance_outer (item : EntityId) (rest : List EntityId) (inBody : Bool) :
    advance outer.length (outer ++ [.forEach (item :: rest) inBody]) =
      outer ++ [.forEach rest false] := by
  rw [advance, getElem?_outer]
  exact set_outer _ _

end Agreement

/-! ### The executor -/

variable [Scalar α] [Environment α σ]

open StackEnd

/-- Test and run the body of the loop at a depth for as long as the condition holds. -/
def repeatOnStack (condition : Expression α) (depth : Nat)
    (body : List Frame → Machine α σ → StackEnd α σ) :
    Nat → List Frame → Machine α σ → StackEnd α σ
  | 0, stack, m => .ok (.suspended .budget, stack, m)
  | bound + 1, stack, m =>
    charge stack m fun m => withValue stack m (m.evalBool condition) fun holds =>
      if holds then
        write stack depth (.whileLoop true) fun stack =>
          (body stack m).andThen fun stack m =>
            write stack depth (.whileLoop false) fun stack =>
              repeatOnStack condition depth body bound stack m
      else finish depth stack m

/-- The rounds of the loop over entities at a depth. In each of them the stack is asked anew which
entity is next and whether its body has been entered. -/
def itemsOnStack (name : String) (depth : Nat) (body : List Frame → Machine α σ → StackEnd α σ) :
    Nat → List Frame → Machine α σ → StackEnd α σ
  | 0, _, _ => .error .endless
  | rounds + 1, stack, m =>
    let run (stack : List Frame) (m : Machine α σ) : StackEnd α σ :=
      (body stack m).andThen fun stack m =>
        itemsOnStack name depth body rounds (advance depth stack) m
    match stack[depth]? with
    | some (.forEach [] _) => finish depth stack m
    | some (.forEach (item :: rest) inBody) =>
      if (m.kindOf item).isNone then
        itemsOnStack name depth body rounds (advance depth (stack.take (depth + 1))) m
      else if inBody then run stack m
      else
        charge stack m fun m =>
          run (stack.set depth (.forEach (item :: rest) true))
            (m.setGlobal name (.entity (some item)))
    | _ => .error .mismatch

/-- How many rounds the loop at a depth can make. -/
def roundsOnStack (depth : Nat) (stack : List Frame) : Nat :=
  match stack[depth]? with
  | some (.forEach items _) => items.length + 1
  | _ => 1

namespace Statement

mutual

/-- Execute a statement at a depth of the stack. What stands above it belongs to the statements
around it, and its own frame is pushed if it is not there yet. -/
def execOnStack : Statement α → Nat → List Frame → Machine α σ → StackEnd α σ
  | ifElse condition then_ otherwise, depth, stack, m =>
    let branch (holds : Bool) (stack : List Frame) (m : Machine α σ) : StackEnd α σ :=
      if holds then (then_.execOnStack (depth + 1) stack m).andThen (finish depth)
      else (otherwise.execOnStack (depth + 1) stack m).andThen (finish depth)
    match stack[depth]? with
    | some (.ifElse holds) => branch holds stack m
    | some _ => .error .mismatch
    | none =>
      charge stack m fun m => withValue stack m (m.evalBool condition) fun holds =>
        branch holds (stack ++ [.ifElse holds]) m
  | whileLoop condition body, depth, stack, m =>
    match stack[depth]? with
    | some (.whileLoop true) =>
      (body.execOnStack (depth + 1) stack m).andThen fun stack m =>
        write stack depth (.whileLoop false) fun stack =>
          repeatOnStack condition depth (body.execOnStack (depth + 1)) m.budget stack m
    | some (.whileLoop false) =>
      repeatOnStack condition depth (body.execOnStack (depth + 1)) m.budget stack m
    | some _ => .error .mismatch
    | none =>
      repeatOnStack condition depth (body.execOnStack (depth + 1)) m.budget
        (stack ++ [.whileLoop false]) m
  | forEach filter name body, depth, stack, m =>
    let stack :=
      if depth < stack.length then stack
      else stack ++ [.forEach ((Environment.view m.state).entities filter) false]
    itemsOnStack name depth (body.execOnStack (depth + 1)) (roundsOnStack depth stack) stack m
  | sequence statements, depth, stack, m =>
    match stack[depth]? with
    | some (.sequence index) => execFromOnStack statements index 0 depth stack m
    | some _ => .error .mismatch
    | none => execFromOnStack statements 0 0 depth (stack ++ [.sequence 0]) m
  | leaf, _, stack, m =>
    let (flow, m) := leaf.exec [] m
    .ok (flow.stop, stack, m)

/-- Execute some statements of a sequence, passing over the first `skipped`. The number `index` of
the first one is kept in the frame of the sequence. -/
def execFromOnStack :
    List (Statement α) → Nat → Nat → Nat → List Frame → Machine α σ → StackEnd α σ
  | [], _, _, depth, stack, m => finish depth stack m
  | _ :: rest, skipped + 1, index, depth, stack, m =>
    execFromOnStack rest skipped (index + 1) depth stack m
  | s :: rest, 0, index, depth, stack, m =>
    (s.execOnStack (depth + 1) stack m).andThen fun stack m =>
      write stack depth (.sequence (index + 1)) fun stack =>
        execFromOnStack rest 0 (index + 1) depth stack m

end

end Statement

/-! ### Loops -/

section Loops

variable {outer : List Frame}

/-- The rounds of a loop on a condition agree if its body does. -/
theorem agrees_repeat {condition : Expression α} {body : Machine α σ → Flow α × Machine α σ}
    {body' : List Frame → Machine α σ → StackEnd α σ}
    (hbody : ∀ m, Agrees (outer ++ [.whileLoop true]) (body m)
      (body' (outer ++ [.whileLoop true]) m)) (bound : Nat) (m : Machine α σ) :
    Agrees outer (repeatWhile condition body bound m)
      (repeatOnStack condition outer.length body' bound (outer ++ [.whileLoop false]) m) := by
  induction bound generalizing m with
  | zero => exact agrees_suspended .budget [.whileLoop false]
  | succ bound ih =>
    rw [repeatWhile_succ, repeatOnStack]
    refine agrees_charge fun m _ => agrees_withValue fun holds _ => ?_
    cases holds with
    | false => exact agrees_finish [.whileLoop false]
    | true =>
      rw [if_pos rfl, if_pos rfl, write_outer]
      refine (hbody m).andThen fun m' _ => ?_
      rw [write_outer]
      exact ih m'

omit [Scalar α] in
/-- The rounds of a loop over entities agree if its body does. -/
theorem agrees_items {name : String} {body : List Frame → Machine α σ → Flow α × Machine α σ}
    {body' : List Frame → Machine α σ → StackEnd α σ} {fits : List Frame → Prop}
    (hbody : ∀ items cursor m, fits cursor → Agrees (outer ++ [.forEach items true])
      (body cursor m) (body' (outer ++ .forEach items true :: cursor) m)) (hnil : fits [])
    (items : List EntityId) (inBody : Bool) (cursor : List Frame) (m : Machine α σ)
    (hcursor : if inBody then fits cursor else cursor = []) :
    Agrees outer (overItems name body items inBody cursor m)
      (itemsOnStack name outer.length body' (items.length + 1)
        (outer ++ .forEach items inBody :: cursor) m) := by
  induction items generalizing inBody cursor m with
  | nil =>
    rw [overItems, itemsOnStack, getElem?_outer]
    exact agrees_finish (.forEach [] inBody :: cursor)
  | cons item rest ih =>
    have hnext : ∀ m, Agrees outer (overItems name body rest false [] m)
        (itemsOnStack name outer.length body' (rest.length + 1)
          (outer ++ [.forEach rest false]) m) := fun m => ih false [] m rfl
    have hround : ∀ cursor m, fits cursor → Agrees outer
        (Flow.continued (.forEach (item :: rest) true) (body cursor m)
          (overItems name body rest false []))
        ((body' (outer ++ .forEach (item :: rest) true :: cursor) m).andThen fun stack m =>
          itemsOnStack name outer.length body' (rest.length + 1) (advance outer.length stack)
            m) := by
      intro cursor m hfits
      refine (hbody (item :: rest) cursor m hfits).andThen fun m' _ => ?_
      rw [advance_outer]
      exact hnext m'
    rw [List.length_cons, itemsOnStack, getElem?_outer]
    dsimp only
    by_cases hgone : (m.kindOf item).isNone = true
    · -- What stands above the frame of the loop belongs to the entity that has left.
      rw [overItems, if_pos hgone, if_pos hgone, take_outer, advance_outer]
      exact hnext m
    · rw [if_neg hgone]
      cases inBody with
      | true =>
        rw [overItems_item body rest cursor hgone, if_pos rfl]
        exact hround cursor m hcursor
      | false =>
        obtain rfl := hcursor
        rw [overItems_nextItem body rest [] hgone, if_neg (by simp)]
        refine agrees_charge fun m _ => ?_
        rw [set_outer]
        exact hround [] _ hnil

end Loops

/-! ### Statements -/

namespace Statement

/-- On a stack that holds the frames of the statements around it and then a cursor that fits, the
execution of the statement agrees with the one at the cursor. -/
def AgreesOnStack (σ : Type) [Environment α σ] (s : Statement α) : Prop :=
  ∀ (outer cursor : List Frame) (m : Machine α σ), s.Fits cursor →
    Agrees outer (s.exec cursor m) (s.execOnStack outer.length (outer ++ cursor) m)

private theorem AgreesOnStack.under {s : Statement α} (h : s.AgreesOnStack σ) (outer : List Frame)
    (frame : Frame) (cursor : List Frame) (m : Machine α σ) (hfits : s.Fits cursor) :
    Agrees (outer ++ [frame]) (s.exec cursor m)
      (s.execOnStack (outer.length + 1) (outer ++ frame :: cursor) m) := by
  have hs := h (outer ++ [frame]) cursor m hfits
  rwa [List.length_append, List.append_assoc] at hs

private theorem agreesOnStack_leaf {s : Statement α} (hleaf : s.isControlFlow = false) :
    s.AgreesOnStack σ := by
  intro outer cursor m hfits
  obtain rfl := eq_nil_of_fits_of_leaf hleaf hfits
  have hstack : s.execOnStack outer.length (outer ++ []) m =
      .ok ((s.exec [] m).1.stop, outer ++ [], (s.exec [] m).2) := by
    cases s with
    | ifElse | whileLoop | forEach | sequence => cases hleaf
    | _ => rfl
  rw [hstack, List.append_nil]
  refine ⟨outer, rfl, fun _ => rfl, fun reason cursor hstop => ?_⟩
  rw [cursor_eq_nil_of_leaf hleaf (Prod.ext hstop rfl), List.append_nil]

variable {then_ otherwise body : Statement α}

private theorem agreesOnStack_ifElse (condition : Expression α) (hthen : then_.AgreesOnStack σ)
    (hotherwise : otherwise.AgreesOnStack σ) :
    (ifElse condition then_ otherwise).AgreesOnStack σ := by
  have hbranch : ∀ (outer : List Frame) (holds : Bool) (cursor : List Frame) (m : Machine α σ),
      (if holds then then_ else otherwise).Fits cursor →
      Agrees outer ((ifElse condition then_ otherwise).exec (.ifElse holds :: cursor) m)
        ((ifElse condition then_ otherwise).execOnStack outer.length
          (outer ++ .ifElse holds :: cursor) m) := by
    intro outer holds cursor m hfits
    rw [exec_branch, execOnStack, getElem?_outer]
    cases holds with
    | true => exact (hthen.under outer _ cursor m hfits).andThen fun m' _ => agrees_finish _
    | false => exact (hotherwise.under outer _ cursor m hfits).andThen fun m' _ => agrees_finish _
  intro outer cursor m hfits
  rcases cursor with - | ⟨_ | ⟨holds⟩ | _ | _, cursor⟩
  · rw [exec_ifElse, execOnStack, List.getElem?_eq_none (by simp)]
    refine agrees_charge fun m _ => agrees_withValue fun holds _ => ?_
    have htaken := hbranch outer holds [] m (fits_nil _)
    rw [execOnStack, getElem?_outer] at htaken
    rw [List.append_nil]
    exact htaken
  · simp [Fits] at hfits
  · exact hbranch outer holds cursor m (by cases holds <;> exact hfits)
  · simp [Fits] at hfits
  · simp [Fits] at hfits

private theorem agreesOnStack_whileLoop (condition : Expression α) (hbody : body.AgreesOnStack σ) :
    (whileLoop condition body).AgreesOnStack σ := by
  intro outer cursor m hfits
  have hloop : ∀ m, Agrees outer (repeatWhile condition (body.exec []) m.budget m)
      (repeatOnStack condition outer.length (body.execOnStack (outer.length + 1)) m.budget
        (outer ++ [.whileLoop false]) m) :=
    fun m => agrees_repeat (fun m => hbody.under outer _ [] m (fits_nil body)) m.budget m
  rcases cursor with - | ⟨_ | _ | ⟨_ | _⟩ | _, cursor⟩
  · rw [exec, execOnStack, List.append_nil, List.getElem?_eq_none (Nat.le_refl _)]
    exact hloop m
  · simp [Fits] at hfits
  · simp [Fits] at hfits
  · obtain rfl : cursor = [] := by simpa [Fits] using hfits
    rw [exec, execOnStack, getElem?_outer]
    exact hloop m
  · rw [exec, execOnStack, getElem?_outer, resumeWhile_eq]
    refine (hbody.under outer _ cursor m (by simpa [Fits] using hfits)).andThen fun m' _ => ?_
    rw [write_outer]
    exact hloop m'
  · simp [Fits] at hfits

private theorem agreesOnStack_forEach (filter : EntityFilter) (name : String)
    (hbody : body.AgreesOnStack σ) : (forEach filter name body).AgreesOnStack σ := by
  have hitems : ∀ (outer : List Frame) (items : List EntityId) (inBody : Bool)
      (cursor : List Frame) (m : Machine α σ),
      (if inBody then body.Fits cursor else cursor = []) →
      Agrees outer (overItems name body.exec items inBody cursor m)
        ((forEach filter name body).execOnStack outer.length
          (outer ++ .forEach items inBody :: cursor) m) := by
    intro outer items inBody cursor m hcursor
    rw [execOnStack, if_pos (by simp), roundsOnStack, getElem?_outer]
    exact agrees_items (fun items cursor m hfits => hbody.under outer _ cursor m hfits)
      (fits_nil body) items inBody cursor m hcursor
  intro outer cursor m hfits
  rcases cursor with - | ⟨_ | _ | _ | ⟨items, inBody⟩, cursor⟩
  · have hfresh := hitems outer ((Environment.view m.state).entities filter) false [] m rfl
    rw [execOnStack, if_pos (by simp)] at hfresh
    rw [exec, execOnStack, if_neg (by simp), List.append_nil]
    exact hfresh
  · simp [Fits] at hfits
  · simp [Fits] at hfits
  · simp [Fits] at hfits
  · rw [exec]
    exact hitems outer items inBody cursor m hfits.2

/-- The statement of a number is found by passing over those before it. -/
theorem execFromOnStack_drop (statements : List (Statement α)) (skipped index depth : Nat)
    (stack : List Frame) (m : Machine α σ) :
    execFromOnStack statements skipped index depth stack m =
      execFromOnStack (statements.drop skipped) 0 (index + skipped) depth stack m := by
  induction statements generalizing skipped index with
  | nil => simp [execFromOnStack]
  | cons s rest ih =>
    cases skipped with
    | zero => rfl
    | succ skipped =>
      rw [execFromOnStack, ih, List.drop_succ_cons]
      congr 1
      omega

private theorem agrees_execFrom {statements : List (Statement α)}
    (hall : ∀ s ∈ statements, s.AgreesOnStack σ) (outer : List Frame) (index : Nat)
    {cursor : List Frame} (hfits : ∀ s ∈ statements.head?, s.Fits cursor) (m : Machine α σ) :
    Agrees outer (execFrom statements 0 index cursor m)
      (execFromOnStack statements 0 index outer.length (outer ++ .sequence index :: cursor) m) := by
  induction statements generalizing index cursor m with
  | nil =>
    rw [execFrom, execFromOnStack]
    exact agrees_finish _
  | cons s rest ih =>
    obtain ⟨hs, hrest⟩ := List.forall_mem_cons.mp hall
    rw [execFrom_cons, execFromOnStack]
    refine (hs.under outer _ cursor m (hfits s rfl)).andThen fun m' _ => ?_
    rw [write_outer]
    exact ih hrest (index + 1) (fun t _ => fits_nil t) m'

private theorem agreesOnStack_sequence {statements : List (Statement α)}
    (hall : ∀ s ∈ statements, s.AgreesOnStack σ) : (sequence statements).AgreesOnStack σ := by
  intro outer cursor m hfits
  rcases cursor with - | ⟨⟨index⟩ | _ | _ | _, cursor⟩
  · rw [exec, execOnStack, List.append_nil, List.getElem?_eq_none (Nat.le_refl _)]
    exact agrees_execFrom hall outer 0 (fun s _ => fits_nil s) m
  · obtain ⟨s, rest, hdrop, hs⟩ := fitsAt_iff.mp hfits
    rw [exec, execOnStack, getElem?_outer, execFrom_drop]
    dsimp only
    rw [execFromOnStack_drop, Nat.zero_add]
    refine agrees_execFrom (fun t ht => hall t (List.mem_of_mem_drop ht)) outer index ?_ m
    rw [hdrop]
    rintro _ ⟨⟩
    exact hs
  · simp [Fits] at hfits
  · simp [Fits] at hfits
  · simp [Fits] at hfits

/-- **Execution on a stack** agrees with the execution at the cursor that the stack holds. -/
theorem exec_agrees (s : Statement α) : s.AgreesOnStack σ := by
  induction s using Statement.inductionOn with
  | leaf s hleaf => exact agreesOnStack_leaf hleaf
  | ifElse condition then_ otherwise ihthen ihotherwise =>
    exact agreesOnStack_ifElse condition ihthen ihotherwise
  | whileLoop condition body ih => exact agreesOnStack_whileLoop condition ih
  | forEach filter name body ih => exact agreesOnStack_forEach filter name ih
  | sequence statements ih => exact agreesOnStack_sequence ih

-- A cursor that does not fit is noticed, and so is it when frames of the statements around are
-- missing.
example (m : Machine α σ) :
    (sequence [skip]).execOnStack 0 [.ifElse true] m = .error .mismatch := rfl

example (m : Machine α σ) :
    (sequence [skip]).execOnStack 1 [] { m with budget := 1 } = .error .outOfRange := rfl

end Statement

/-! ### Runs on a stack -/

/-- A stop with the stack that it leaves, as the end of an execution. -/
def Stop.flow (stack : List Frame) : Stop α → Flow α
  | completed => .done
  | suspended reason => .suspended reason stack
  | wormDied => .wormDied
  | failed e => .failed e

namespace ProgramInstance

variable {i : ProgramInstance α} {budget : Nat} {state : σ}

/-- Run the program on the stack of frames that the last run has left. -/
def runOnStack (i : ProgramInstance α) (budget : Nat) (state : σ) : Except Slip (Run α σ) :=
  match i.readyWorm state with
  | .error e => .ok { result := .error e, instanceAfter := i, stateAfter := state, effects := [] }
  | .ok worm => do
    let (stop, stack, m) ←
      i.program.root.execOnStack 0 i.cursor { worm, state, globals := i.globals, budget }
    return i.settle (stop.flow stack) m

/-- Nothing goes wrong in a run on the stack, and it is the run at the cursor. -/
theorem Made.runOnStack_eq (h : i.Made) (budget : Nat) (state : σ) :
    i.runOnStack budget state = .ok (i.runWith budget state) := by
  rcases hready : i.readyWorm state with e | worm
  · rw [runOnStack, runWith_refused hready, hready]
  · obtain ⟨stack, hstack, -, hsuspended⟩ := i.program.root.exec_agrees [] i.cursor
      { worm, state, globals := i.globals, budget } h.fits
    rw [runWith_ready hready, runOnStack, hready]
    dsimp only
    rw [List.length_nil, List.nil_append] at hstack
    rw [hstack]
    refine congrArg (fun flow => Except.ok (i.settle flow _)) ?_
    rcases hend : (i.program.root.exec i.cursor
      { worm, state, globals := i.globals, budget }).1 with _ | ⟨reason, cursor⟩ | _ | e
    · rfl
    · rw [hsuspended reason cursor hend]
      rfl
    · rfl
    · rfl

omit [Scalar α] [Environment α σ] in
private theorem cursor_of_settle {flow : Flow α} {m : Machine α σ}
    (h : (i.settle flow m).instanceAfter.phase ≠ .suspended) :
    (i.settle flow m).instanceAfter.cursor = [] := by
  cases flow with
  | suspended reason cursor => exact absurd rfl h
  | done | wormDied | failed _ => rfl

omit [Environment α σ] in
/-- Between two runs there are frames only if the first was suspended. -/
theorem Made.cursor_eq_nil (h : i.Made) (hphase : i.phase ≠ .suspended) : i.cursor = [] := by
  induction h with
  | of program budget observed => rfl
  | freshCopy _ _ => rfl
  | bind worm _ ih => exact ih hphase
  | @run i _ _ budget state _ ih =>
    rcases hready : i.readyWorm state with e | worm
    · rw [runWith_refused hready] at hphase ⊢
      exact ih hphase
    · rw [runWith_ready hready] at hphase ⊢
      exact cursor_of_settle hphase

/-- No run tells of a mismatch, unless the environment does when it is asked for a property or for
the action points of a worm. -/
theorem Made.exists_of_mismatch (h : i.Made)
    (hfailed : (i.runWith budget state).result = .error .cursorMismatch) : ∃ state' : σ,
      (∃ id property, (Environment.view state').inspect id property = .error .cursorMismatch) ∨
        ∃ worm, Environment.actionPoints state' worm = .error .cursorMismatch := by
  rcases hready : i.readyWorm state with e | worm
  · rw [runWith_refused hready] at hfailed
    cases hfailed
    rw [readyWorm_eq] at hready
    repeat' split at hready
    all_goals cases hready
  · obtain ⟨m, -, hfailure⟩ := h.run_failure (P := fun _ => True) (h.check_of_ready hready) hready
      (fun _ _ _ _ => trivial) trivial hfailed
    cases hfailure with
    | expression hscope =>
      cases hscope with
      | @inspect view id property _ hview hinspect =>
        obtain rfl := Option.some.inj hview
        exact ⟨m.state, .inl ⟨id, property, hinspect⟩⟩
    | actionPoints hpoints => exact ⟨m.state, .inr ⟨m.worm, hpoints⟩⟩

/-- What is known of the cursor of an instance. -/
structure CursorSound (i : ProgramInstance α) : Prop where
  /-- There are frames only while the instance is suspended. -/
  empty : i.phase ≠ .suspended → i.cursor = []
  /-- The frames spell a path of compound statements down from the root. -/
  fits : i.program.root.Fits i.cursor
  /-- A run on the stack of these frames never finds a frame of another kind, never overwrites one
  that is not there and never makes more rounds than there are entities; it comes to what the run at
  the cursor comes to. -/
  safe : ∀ (σ : Type) [Environment α σ] (budget : Nat) (state : σ),
    i.runOnStack budget state = .ok (i.runWith budget state)
  /-- A run only tells of a mismatch if the environment itself has given that error. -/
  given : ∀ (σ : Type) [Environment α σ] (budget : Nat) (state : σ),
    (i.runWith budget state).result = .error .cursorMismatch → ∃ state' : σ,
      (∃ id property, (Environment.view state').inspect id property = .error .cursorMismatch) ∨
        ∃ worm, Environment.actionPoints state' worm = .error .cursorMismatch
  /-- In a game no run does. -/
  never : ∀ (budget : Nat) (s : Simulation α),
    (i.runWith budget s).result ≠ .error .cursorMismatch

/-- **The cursor always fits the program**, whatever runs there were in whatever environments, and
whatever worms the instance was bound to in between. -/
theorem Made.cursorSound {i : ProgramInstance α} (h : i.Made) : i.CursorSound := by
  refine ⟨h.cursor_eq_nil, h.fits, fun σ _ => h.runOnStack_eq, fun σ _ _ _ => h.exists_of_mismatch,
    fun budget s hfailed => ?_⟩
  obtain ⟨s', ⟨id, property, hinspect⟩ | ⟨worm, hpoints⟩⟩ := h.exists_of_mismatch hfailed
  · cases World.ofInspection_of_inspect hinspect
  · have hlisted : s'.world.actionPoints worm = .error .cursorMismatch := hpoints
    rw [World.actionPoints, World.requireWorm] at hlisted
    cases hworm : s'.world.worm? worm <;> simp [hworm] at hlisted

/-- The observer suspended in the body of its loop, with three frames on its cursor. -/
theorem cursorSound_lookingAround : ∃ i : ProgramInstance Rat, i.phase = .suspended ∧
    i.cursor = [.sequence 0, .forEach [⟨1⟩] true, .sequence 1] ∧ i.CursorSound := by
  have hmade : lookingAround.Made := .bind _ (.of _ 10 true)
  refine ⟨(lookingAround.runWith 2 Simulation.gazing).instanceAfter, ?_, ?_,
    (Made.run 2 Simulation.gazing hmade).cursorSound⟩
  · decide +kernel
  · decide +kernel

end ProgramInstance

end WormBattle
