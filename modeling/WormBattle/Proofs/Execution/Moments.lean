import WormBattle.Proofs.Execution.Extension
import WormBattle.Proofs.Execution.Replay

/-!
# The moments of a run

The executor goes through a program in one sweep. Here the sweep is cut into steps: at a **moment**
(`Moment`) an execution stands at a cursor with a machine, and `Statement.advance` tells what it
does next, which is to go on at another cursor or to end. A frame is entered, overwritten or left by
each step, and a statement without parts is done in a single one.

The steps are those of the executor. From every moment the execution comes to the end of the whole
(`Statement.exec_eq_finish`), and it gets there after finitely many steps
(`Statement.advance_comes`). So a run of an instance consists of its moments
(`ProgramInstance.InRun`), the last of which settles it (`ProgramInstance.Made.run_moments`).

A loop over entities looks for its entity at every moment here, and the executor only when the run
begins. In a statement without defects this makes no difference, since nothing moves in the world
while the loop lasts.
-/

namespace WormBattle

variable {α σ : Type}

/-- A moment of an execution. -/
structure Moment (α σ : Type) where
  /-- Where the execution stands in the program. -/
  cursor : List Frame
  /-- What it works on. -/
  machine : Machine α σ

/-- What one step of an execution comes to. -/
inductive Advance (α σ : Type) where
  /-- The execution goes on. -/
  | onward (next : Moment α σ)
  /-- The execution ends. -/
  | ended (flow : Flow α) (m : Machine α σ)

namespace Advance

/-- The machine after the step. -/
def machine : Advance α σ → Machine α σ
  | onward next => next.machine
  | ended _ m => m

/-- Go on with one unit less; without a unit, stop at a cursor. -/
def charge (cursor : List Frame) (m : Machine α σ) (go : Machine α σ → Advance α σ) :
    Advance α σ :=
  match m.spend? with
  | some m => go m
  | none => ended (.suspended .budget cursor) m

/-- Go on with a value, or fail. -/
def withValue {β : Type} (m : Machine α σ) (value : Except (Error α) β) (go : β → Advance α σ) :
    Advance α σ :=
  match value with
  | .ok v => go v
  | .error e => ended (.failed e) m

/-- The step of a part as one of the whole, which has a frame more. When the part is done, the whole
goes on. -/
def under (frame : Frame) (next : Machine α σ → Advance α σ) : Advance α σ → Advance α σ
  | onward x => onward ⟨frame :: x.cursor, x.machine⟩
  | ended .done m => next m
  | ended (.suspended reason cursor) m => ended (.suspended reason (frame :: cursor)) m
  | ended flow m => ended flow m

/-- The end of an execution that goes on as `exec` does. -/
def finish (exec : List Frame → Machine α σ → Flow α × Machine α σ) :
    Advance α σ → Flow α × Machine α σ
  | onward x => exec x.cursor x.machine
  | ended flow m => (flow, m)

end Advance

/-! ### Steps -/

namespace Statement

variable [Scalar α] [Environment α σ]

mutual

/-- One step of the execution of a statement at a cursor. -/
def advance : Statement α → List Frame → Machine α σ → Advance α σ
  | ifElse condition then_ otherwise, cursor, m =>
    match cursor with
    | [] =>
      .charge [] m fun m => .withValue m (m.evalBool condition) fun holds =>
        .onward ⟨[.ifElse holds], m⟩
    | .ifElse true :: cursor => (then_.advance cursor m).under (.ifElse true) (.ended .done)
    | .ifElse false :: cursor => (otherwise.advance cursor m).under (.ifElse false) (.ended .done)
    | _ => .ended (.failed .cursorMismatch) m
  | whileLoop condition body, cursor, m =>
    match cursor with
    | [] => .onward ⟨[.whileLoop false], m⟩
    | .whileLoop false :: _ =>
      .charge [.whileLoop false] m fun m => .withValue m (m.evalBool condition) fun holds =>
        if holds then .onward ⟨[.whileLoop true], m⟩ else .ended .done m
    | .whileLoop true :: cursor =>
      (body.advance cursor m).under (.whileLoop true) fun m => .onward ⟨[.whileLoop false], m⟩
    | _ => .ended (.failed .cursorMismatch) m
  | forEach filter name body, cursor, m =>
    match cursor with
    | [] => .onward ⟨[.forEach ((Environment.view m.state).entities filter) false], m⟩
    | .forEach [] _ :: _ => .ended .done m
    | .forEach (item :: rest) inBody :: cursor =>
      if (m.kindOf item).isNone then .onward ⟨[.forEach rest false], m⟩
      else if inBody then
        (body.advance cursor m).under (.forEach (item :: rest) true) fun m =>
          .onward ⟨[.forEach rest false], m⟩
      else
        .charge [.forEach (item :: rest) false] m fun m =>
          .onward ⟨[.forEach (item :: rest) true], m.setGlobal name (.entity (some item))⟩
    | _ => .ended (.failed .cursorMismatch) m
  | sequence statements, cursor, m =>
    match cursor with
    | [] => .onward ⟨[.sequence 0], m⟩
    | .sequence index :: cursor => advanceAt statements index index cursor m
    | _ => .ended (.failed .cursorMismatch) m
  | leaf, _, m =>
    let (flow, m) := leaf.exec [] m
    .ended flow m

/-- One step of the execution of the statement at a place of a sequence, of which so many are to be
passed over. A sequence ends when it has no more statements. -/
def advanceAt : List (Statement α) → Nat → Nat → List Frame → Machine α σ → Advance α σ
  | [], _, _, _, m => .ended .done m
  | s :: _, 0, index, cursor, m =>
    (s.advance cursor m).under (.sequence index) fun m => .onward ⟨[.sequence (index + 1)], m⟩
  | _ :: rest, skipped + 1, index, cursor, m => advanceAt rest skipped index cursor m

end

variable {condition : Expression α} {then_ otherwise body s : Statement α}
  {filter : EntityFilter} {name : String} {m : Machine α σ}

/-- In a chosen branch the step is that of the branch. -/
theorem advance_branch (holds : Bool) (cursor : List Frame) (m : Machine α σ) :
    (ifElse condition then_ otherwise).advance (.ifElse holds :: cursor) m =
      ((if holds then then_ else otherwise).advance cursor m).under (.ifElse holds)
        (.ended .done) := by
  cases holds <;> rw [advance] <;> rfl

/-- An entity that is no longer there is passed over, in the body of its round too. -/
theorem advance_lostItem {item : EntityId} (rest : List EntityId) (inBody : Bool)
    (cursor : List Frame) (hgone : (m.kindOf item).isNone = true) :
    (forEach filter name body).advance (.forEach (item :: rest) inBody :: cursor) m =
      .onward ⟨[.forEach rest false], m⟩ := by
  rw [advance, if_pos hgone]

/-- In the body of a loop over entities the step is that of the body. -/
theorem advance_item {item : EntityId} (rest : List EntityId) (cursor : List Frame)
    (hhere : ¬(m.kindOf item).isNone = true) :
    (forEach filter name body).advance (.forEach (item :: rest) true :: cursor) m =
      (body.advance cursor m).under (.forEach (item :: rest) true) fun m =>
        .onward ⟨[.forEach rest false], m⟩ := by
  rw [advance, if_neg hhere, if_pos rfl]

/-- The round of an entity begins with a charge. -/
theorem advance_nextItem {item : EntityId} (rest : List EntityId) (cursor : List Frame)
    (hhere : ¬(m.kindOf item).isNone = true) :
    (forEach filter name body).advance (.forEach (item :: rest) false :: cursor) m =
      .charge [.forEach (item :: rest) false] m fun m =>
        .onward ⟨[.forEach (item :: rest) true], m.setGlobal name (.entity (some item))⟩ := by
  rw [advance, if_neg hhere, if_neg Bool.false_ne_true]

/-- The statement at a place is found by passing over those before it. -/
theorem advanceAt_drop (statements : List (Statement α)) (skipped index : Nat)
    (cursor : List Frame) (m : Machine α σ) :
    advanceAt statements skipped index cursor m =
      advanceAt (statements.drop skipped) 0 index cursor m := by
  induction statements generalizing skipped with
  | nil => simp [advanceAt]
  | cons s rest ih =>
    cases skipped with
    | zero => rfl
    | succ skipped => rw [advanceAt, ih, List.drop_succ_cons]

/-- Within a sequence the step is that of the member. -/
theorem advance_member {statements rest : List (Statement α)} {index : Nat}
    (hdrop : statements.drop index = s :: rest) (cursor : List Frame) (m : Machine α σ) :
    (sequence statements).advance (.sequence index :: cursor) m =
      (s.advance cursor m).under (.sequence index) fun m =>
        .onward ⟨[.sequence (index + 1)], m⟩ := by
  rw [advance, advanceAt_drop, hdrop, advanceAt]

/-- A sequence ends after its last member. -/
theorem advance_end {statements : List (Statement α)} {index : Nat}
    (hdrop : statements.drop index = []) (cursor : List Frame) (m : Machine α σ) :
    (sequence statements).advance (.sequence index :: cursor) m = .ended .done m := by
  rw [advance, advanceAt_drop, hdrop, advanceAt]

/-- A statement without statements inside is carried out as a whole. -/
theorem advance_leaf (hleaf : s.isControlFlow = false) (cursor : List Frame) (m : Machine α σ) :
    s.advance cursor m = .ended (s.exec cursor m).1 (s.exec cursor m).2 := by
  cases s with
  | ifElse | whileLoop | forEach | sequence => cases hleaf
  | _ => rfl

/-- A frame that is not of the statement's kind is noticed at once. -/
theorem advance_mismatch (hcontrol : s.isControlFlow = true) {frame : Frame}
    (hframe : s.expects frame = false) (cursor : List Frame) (m : Machine α σ) :
    s.advance (frame :: cursor) m = .ended (.failed .cursorMismatch) m := by
  cases s with
  | ifElse | whileLoop | forEach | sequence => cases frame <;> first | rfl | cases hframe
  | _ => cases hcontrol

end Statement

/-! ### What is left alone -/

/-- The machine's world is as it was, and nothing has been asked of it. -/
structure Machine.Untouched (m m' : Machine α σ) : Prop where
  state : m'.state = m.state
  requests : m'.requests = m.requests

namespace Machine.Untouched

variable {m m' m'' : Machine α σ}

/-- Nothing is touched by doing nothing. -/
theorem refl (m : Machine α σ) : m.Untouched m :=
  ⟨rfl, rfl⟩

/-- What two steps leave untouched, both in a row leave untouched. -/
theorem trans (h : m.Untouched m') (h' : m'.Untouched m'') : m.Untouched m'' :=
  ⟨h'.state.trans h.state, h'.requests.trans h.requests⟩

/-- An effect that is no request is not one to the world. -/
theorem note (h : m.Untouched m') {effect : Effect α} (heffect : effect.asked? = none) :
    m.Untouched (m'.note effect) :=
  ⟨h.state, by simpa [Machine.note, Machine.requests, heffect] using h.requests⟩

private theorem setGlobal (h : m.Untouched m') (name : String) (value : Value α) :
    m.Untouched (m'.setGlobal name value) := by
  have hset : m.Untouched { m' with globals := m'.globals.insert name value } :=
    ⟨h.state, h.requests⟩
  exact hset.note rfl

private theorem of_spend (h : m.spend? = some m') : m.Untouched m' := by
  rw [(spend?_eq_some_iff.mp h).2]
  exact ⟨rfl, rfl⟩

end Machine.Untouched

namespace Advance

/-- A step that leaves the world alone. The worm does not die of it, and only for want of a unit
does it stop the run. -/
inductive Calm (m : Machine α σ) : Advance α σ → Prop where
  | onward {x : Moment α σ} : m.Untouched x.machine → Calm m (.onward x)
  | done {m' : Machine α σ} : m.Untouched m' → Calm m (.ended .done m')
  | spent {cursor : List Frame} {m' : Machine α σ} :
      m.Untouched m' → Calm m (.ended (.suspended .budget cursor) m')
  | failed {e : Error α} {m' : Machine α σ} : m.Untouched m' → Calm m (.ended (.failed e) m')

variable {m m' : Machine α σ} {a : Advance α σ}

/-- A calm step leaves the machine that it comes to untouched. -/
theorem Calm.untouched (h : a.Calm m) : m.Untouched a.machine := by
  cases h <;> assumption

private theorem calm_charge {cursor : List Frame} {go : Machine α σ → Advance α σ}
    (hgo : ∀ m', m.Untouched m' → (go m').Calm m) : (charge cursor m go).Calm m := by
  rw [charge]
  split
  · exact hgo _ (.of_spend ‹_›)
  · exact .spent (.refl m)

private theorem calm_withValue {β : Type} {value : Except (Error α) β} {go : β → Advance α σ}
    (hm : m.Untouched m') (hgo : ∀ v, (go v).Calm m) : (withValue m' value go).Calm m := by
  cases value with
  | ok v => exact hgo v
  | error e => exact .failed hm

/-- A calm part makes a calm whole, if what comes after the part is calm. -/
theorem Calm.under {frame : Frame} {next : Machine α σ → Advance α σ} (ha : a.Calm m)
    (hnext : ∀ m', m.Untouched m' → (next m').Calm m) : (a.under frame next).Calm m := by
  cases ha with
  | onward h => exact .onward h
  | done h => exact hnext _ h
  | spent h => exact .spent h
  | failed h => exact .failed h

/-- What is done with a unit, as the end of a step. -/
theorem ended_charge (m : Machine α σ) (go : Machine α σ → Flow α × Machine α σ) :
    ended (m.charge go).1 (m.charge go).2 = charge [] m fun m => ended (go m).1 (go m).2 := by
  rw [Machine.charge, charge]
  cases m.spend? <;> rfl

/-- What is done with a value, as the end of a step. -/
theorem ended_withValue {β : Type} (m : Machine α σ) (value : Except (Error α) β)
    (go : β → Flow α × Machine α σ) :
    ended (m.withValue value go).1 (m.withValue value go).2 =
      withValue m value fun v => ended (go v).1 (go v).2 := by
  cases value <;> rfl

end Advance

namespace Statement

variable [Scalar α] [Environment α σ] {s : Statement α}

private theorem calm_leaf (hleaf : s.isControlFlow = false) (h : s.containsAction = false)
    (cursor : List Frame) (m : Machine α σ) : (s.advance cursor m).Calm m := by
  rw [advance_leaf hleaf]
  cases s with
  | skip =>
    rw [exec, Advance.ended_charge]
    exact Advance.calm_charge fun m' hm => .done hm
  | assign name value =>
    rw [exec, Machine.assign, Advance.ended_charge]
    refine Advance.calm_charge fun m' hm => ?_
    rw [Advance.ended_withValue]
    refine Advance.calm_withValue hm fun v => ?_
    rw [Advance.ended_withValue]
    exact Advance.calm_withValue hm fun _ => .done (hm.setGlobal name v)
  | print value =>
    rw [exec, Machine.print, Advance.ended_charge]
    refine Advance.calm_charge fun m' hm => ?_
    rw [Advance.ended_withValue]
    exact Advance.calm_withValue hm fun v => .done (hm.note rfl)
  | turn | move | jump | toggleWeapon | fire => cases h
  | ifElse | whileLoop | forEach | sequence => cases hleaf

/-- **A statement without actions leaves the world alone** in each of its steps. -/
theorem calm_advance (h : s.containsAction = false) (cursor : List Frame) (m : Machine α σ) :
    (s.advance cursor m).Calm m := by
  have hmismatch : (Advance.ended (.failed .cursorMismatch) m : Advance α σ).Calm m :=
    .failed (.refl m)
  induction s using Statement.inductionOn generalizing cursor with
  | leaf s hleaf => exact calm_leaf hleaf h cursor m
  | ifElse condition then_ otherwise ihthen ihotherwise =>
    rw [containsAction, Bool.or_eq_false_iff] at h
    rcases cursor with - | ⟨_ | ⟨_ | _⟩ | _ | _, cursor⟩
    · refine Advance.calm_charge fun m' hm => ?_
      exact Advance.calm_withValue hm fun _ => .onward hm
    · exact hmismatch
    · exact (ihotherwise h.2 cursor).under fun _ hm => .done hm
    · exact (ihthen h.1 cursor).under fun _ hm => .done hm
    · exact hmismatch
    · exact hmismatch
  | whileLoop condition body ih =>
    rw [containsAction] at h
    rcases cursor with - | ⟨_ | _ | ⟨_ | _⟩ | _, cursor⟩
    · exact .onward (.refl m)
    · exact hmismatch
    · exact hmismatch
    · refine Advance.calm_charge fun m' hm => ?_
      refine Advance.calm_withValue hm fun holds => ?_
      cases holds with
      | false => exact .done hm
      | true => exact .onward hm
    · exact (ih h cursor).under fun _ hm => .onward hm
    · exact hmismatch
  | forEach filter name body ih =>
    rw [containsAction] at h
    rcases cursor with - | ⟨_ | _ | _ | ⟨_ | ⟨item, rest⟩, inBody⟩, cursor⟩
    · exact .onward (.refl m)
    · exact hmismatch
    · exact hmismatch
    · exact hmismatch
    · exact .done (.refl m)
    · by_cases hgone : (m.kindOf item).isNone = true
      · rw [advance_lostItem rest inBody cursor hgone]
        exact .onward (.refl m)
      · cases inBody with
        | true =>
          rw [advance_item rest cursor hgone]
          exact (ih h cursor).under fun _ hm => .onward hm
        | false =>
          rw [advance_nextItem rest cursor hgone]
          exact Advance.calm_charge fun m' hm => .onward (hm.setGlobal name _)
  | sequence statements ih =>
    rcases cursor with - | ⟨⟨index⟩ | _ | _ | _, cursor⟩
    · exact .onward (.refl m)
    · rcases hdrop : statements.drop index with - | ⟨s, rest⟩
      · rw [advance_end hdrop]
        exact .done (.refl m)
      · have hmem : s ∈ statements := mem_of_drop_eq_cons hdrop
        have hs : s.containsAction = false :=
          containsAction_of_mem (by rwa [containsAction] at h) hmem
        rw [advance_member hdrop]
        exact (ih s hmem hs cursor).under fun _ hm => .onward hm
    · exact hmismatch
    · exact hmismatch
    · exact hmismatch

end Statement

/-! ### The executor in steps -/

namespace Advance

variable {exec part : List Frame → Machine α σ → Flow α × Machine α σ} {m : Machine α σ}

private theorem finish_charge (cursor : List Frame) (go : Machine α σ → Advance α σ) :
    (charge cursor m go).finish exec = m.chargeAt cursor fun m => (go m).finish exec := by
  rw [charge, Machine.chargeAt]
  cases m.spend? <;> rfl

private theorem finish_withValue {β : Type} (value : Except (Error α) β) (go : β → Advance α σ) :
    (withValue m value go).finish exec = m.withValue value fun v => (go v).finish exec := by
  cases value <;> rfl

/-- What a part comes to after its step is what it comes to in the whole, if the whole does so from
every moment of the part and goes on alike when the part is done. -/
theorem finish_under {frame : Frame} {next : Machine α σ → Advance α σ}
    {after : Machine α σ → Flow α × Machine α σ} {a : Advance α σ}
    (hpart : ∀ x, a = onward x →
      exec (frame :: x.cursor) x.machine = Flow.continued frame (part x.cursor x.machine) after)
    (hnext : ∀ m, (next m).finish exec = after m) :
    (a.under frame next).finish exec = Flow.continued frame (a.finish part) after := by
  rcases a with x | ⟨_ | _ | _ | _, m⟩
  · exact hpart x rfl
  · exact hnext m
  · rfl
  · rfl
  · rfl

end Advance

namespace Statement

variable [Scalar α] [Environment α σ] {declared : Globals α}

/-- **Every step is one of the executor.** Executing from a cursor comes to what executing from the
next moment comes to. -/
theorem exec_eq_finish {s : Statement α} (h : s.check declared = .ok ()) (cursor : List Frame)
    (m : Machine α σ) : s.exec cursor m = (s.advance cursor m).finish s.exec := by
  induction s using Statement.inductionOn generalizing cursor m with
  | leaf s hleaf =>
    rw [advance_leaf hleaf]
    rfl
  | ifElse condition then_ otherwise ihthen ihotherwise =>
    rcases cursor with - | ⟨_ | ⟨holds⟩ | _ | _, cursor⟩
    · rw [exec_ifElse, advance, Advance.finish_charge]
      simp only [Advance.finish_withValue]
      rfl
    · exact exec_mismatch rfl rfl cursor m
    · have hbranch : (if holds then then_ else otherwise).exec cursor m =
          ((if holds then then_ else otherwise).advance cursor m).finish
            (if holds then then_ else otherwise).exec := by
        cases holds
        · exact ihotherwise (check_branch h false) cursor m
        · exact ihthen (check_branch h true) cursor m
      rw [exec_branch, advance_branch, hbranch]
      exact (Advance.finish_under (fun x _ => exec_branch holds _ _) fun _ => rfl).symm
    · exact exec_mismatch rfl rfl cursor m
    · exact exec_mismatch rfl rfl cursor m
  | whileLoop condition body ih =>
    rcases cursor with - | ⟨_ | _ | ⟨_ | _⟩ | _, cursor⟩
    · exact exec_whileLoop m
    · exact exec_mismatch rfl rfl cursor m
    · exact exec_mismatch rfl rfl cursor m
    · rw [exec_retest, advance, Advance.finish_charge]
      simp only [Advance.finish_withValue]
      congr 1
      funext m'
      congr 1
      funext holds
      cases holds <;> rfl
    · rw [exec_inBody, advance, ih (check_body h) cursor m]
      exact (Advance.finish_under (fun x _ => exec_inBody _ _) fun _ => rfl).symm
    · exact exec_mismatch rfl rfl cursor m
  | forEach filter name body ih =>
    obtain ⟨hquiet, hbody⟩ := check_forEach h
    rcases cursor with - | ⟨_ | _ | _ | ⟨_ | ⟨item, rest⟩, inBody⟩, cursor⟩
    · exact exec_forEach m
    · exact exec_mismatch rfl rfl cursor m
    · exact exec_mismatch rfl rfl cursor m
    · exact exec_mismatch rfl rfl cursor m
    · exact exec_noItems inBody cursor m
    · by_cases hgone : (m.kindOf item).isNone = true
      · rw [advance_lostItem rest inBody cursor hgone]
        exact exec_lostItem rest inBody cursor hgone
      · cases inBody with
        | true =>
          rw [exec_item rest cursor hgone, advance_item rest cursor hgone, ih hbody cursor m]
          symm
          refine Advance.finish_under (fun x hx => ?_) fun _ => rfl
          -- The body has no actions, so its step has left the entity where it is.
          have hstill := (calm_advance hquiet cursor m).untouched.state
          rw [hx] at hstill
          refine exec_item rest x.cursor ?_
          rwa [Machine.kindOf, show x.machine.state = m.state from hstill]
        | false =>
          rw [exec_nextItem rest cursor hgone, advance_nextItem rest cursor hgone,
            Advance.finish_charge]
          rfl
  | sequence statements ih =>
    rcases cursor with - | ⟨⟨index⟩ | _ | _ | _, cursor⟩
    · exact exec_sequence m
    · rcases hdrop : statements.drop index with - | ⟨s, rest⟩
      · rw [exec_end hdrop, advance_end hdrop]
        rfl
      · have hmem : s ∈ statements := mem_of_drop_eq_cons hdrop
        rw [exec_member hdrop, advance_member hdrop, ih s hmem (check_of_mem h hmem) cursor m]
        exact (Advance.finish_under (fun x _ => exec_member hdrop _ _) fun _ => rfl).symm
    · exact exec_mismatch rfl rfl cursor m
    · exact exec_mismatch rfl rfl cursor m
    · exact exec_mismatch rfl rfl cursor m

end Statement

/-- From a step, an execution comes to an end after finitely many more. -/
inductive Advance.Comes [Scalar α] [Environment α σ] (s : Statement α) :
    Advance α σ → Flow α × Machine α σ → Prop where
  /-- The step is the last. -/
  | ended {flow : Flow α} {m : Machine α σ} : Comes s (.ended flow m) (flow, m)
  /-- There is another step. -/
  | onward {x : Moment α σ} {final : Flow α × Machine α σ} :
      Comes s (s.advance x.cursor x.machine) final → Comes s (.onward x) final

namespace Advance

variable [Scalar α] [Environment α σ] {s part : Statement α} {m : Machine α σ} {a : Advance α σ}
  {final : Flow α × Machine α σ}

private theorem comes_charge {cursor : List Frame} {go : Machine α σ → Advance α σ}
    {exec : Machine α σ → Flow α × Machine α σ}
    (hgo : ∀ m', m.spend? = some m' → (go m').Comes s (exec m')) :
    (charge cursor m go).Comes s (m.chargeAt cursor exec) := by
  rw [charge, Machine.chargeAt]
  cases hm : m.spend? with
  | some m' => exact hgo m' hm
  | none => exact .ended

private theorem comes_withValue {β : Type} {value : Except (Error α) β} {go : β → Advance α σ}
    {exec : β → Flow α × Machine α σ} (hgo : ∀ v, value = .ok v → (go v).Comes s (exec v)) :
    (withValue m value go).Comes s (m.withValue value exec) := by
  cases value with
  | ok v => exact hgo v rfl
  | error e => exact .ended

/-- **The steps of a part are steps of the whole**, as long as the world satisfies what the whole
looks for. When the part is done, the whole goes on. -/
theorem Comes.under {P : σ → Prop} {frame : Frame} {next : Machine α σ → Advance α σ}
    {after : Machine α σ → Flow α × Machine α σ} (h : a.Comes part final)
    (hwhole : ∀ cursor m, P m.state →
      s.advance (frame :: cursor) m = (part.advance cursor m).under frame next)
    (hkept : ∀ cursor m, P m.state → P (part.advance cursor m).machine.state)
    (ha : P a.machine.state) (hnext : ∀ m, final = (.done, m) → (next m).Comes s (after m)) :
    (a.under frame next).Comes s (Flow.continued frame final after) := by
  induction h with
  | @ended flow m =>
    cases flow with
    | done => exact hnext m rfl
    | suspended | wormDied | failed => exact .ended
  | @onward x final _ ih =>
    refine .onward ?_
    rw [hwhole x.cursor x.machine ha]
    exact ih (hkept x.cursor x.machine ha) hnext

/-- The steps of a part are steps of the whole, whatever the world is. -/
theorem Comes.under_always {frame : Frame} {next : Machine α σ → Advance α σ}
    {after : Machine α σ → Flow α × Machine α σ} (h : a.Comes part final)
    (hwhole : ∀ cursor m,
      s.advance (frame :: cursor) m = (part.advance cursor m).under frame next)
    (hnext : ∀ m, final = (.done, m) → (next m).Comes s (after m)) :
    (a.under frame next).Comes s (Flow.continued frame final after) :=
  h.under (P := fun _ => True) (fun cursor m _ => hwhole cursor m) (fun _ _ _ => trivial) trivial
    hnext

end Advance

namespace Statement

variable [Scalar α] [Environment α σ] {declared : Globals α}

/-- **The steps lead to the end.** Step by step, the execution comes to what the executor comes to
in one sweep. -/
theorem advance_comes (s : Statement α) (cursor : List Frame) (m : Machine α σ)
    (h : s.check declared = .ok ()) : (s.advance cursor m).Comes s (s.exec cursor m) := by
  induction s, cursor, m using Statement.execInduction with
  | leaf s cursor m hleaf =>
    rw [advance_leaf hleaf]
    exact .ended
  | mismatch s cursor m _ hexec hframe =>
    obtain ⟨frame, rest, rfl, hframe⟩ := hframe
    rw [hexec]
    cases hcontrol : s.isControlFlow with
    | true =>
      rw [advance_mismatch hcontrol hframe]
      exact .ended
    | false =>
      rw [advance_leaf hcontrol, hexec]
      exact .ended
  | ifElse condition then_ otherwise m ih =>
    rw [exec_ifElse, advance]
    refine Advance.comes_charge fun m' hm => ?_
    exact Advance.comes_withValue fun holds hholds => .onward (ih m' holds hm hholds h)
  | branch condition then_ otherwise holds cursor m ih =>
    rw [exec_branch, advance_branch]
    exact (ih (check_branch h holds)).under_always (fun _ _ => advance_branch holds _ _)
      fun _ _ => .ended
  | whileLoop condition body m ih =>
    rw [exec_whileLoop]
    exact .onward (ih h)
  | retest condition body cursor m ih =>
    rw [exec_retest, advance]
    refine Advance.comes_charge fun m' hm => ?_
    refine Advance.comes_withValue fun holds hholds => ?_
    cases holds with
    | false => exact .ended
    | true => exact .onward (ih m' hm hholds h)
  | inBody condition body cursor m ihbody ihnext =>
    rw [exec_inBody]
    exact (ihbody (check_body h)).under_always (fun _ _ => rfl)
      fun m' hdone => .onward (ihnext m' hdone h)
  | forEach filter name body m ih =>
    rw [exec_forEach]
    exact .onward (ih h)
  | noItems filter name body inBody cursor m =>
    rw [exec_noItems]
    exact .ended
  | lostItem filter name body item rest inBody cursor m hgone ih =>
    rw [exec_lostItem rest inBody cursor hgone, advance_lostItem rest inBody cursor hgone]
    exact .onward (ih h)
  | nextItem filter name body item rest cursor m hhere ih =>
    rw [exec_nextItem rest cursor hhere, advance_nextItem rest cursor hhere]
    exact Advance.comes_charge fun m' hm => .onward (ih m' hm h)
  | item filter name body item rest cursor m hhere ihbody ihnext =>
    obtain ⟨hquiet, hbody⟩ := check_forEach h
    rw [exec_item rest cursor hhere, advance_item rest cursor hhere]
    -- The body has no actions, so at each of its steps the entity is where it was.
    have hstill : ∀ cursor (m' : Machine α σ), m'.state = m.state →
        (body.advance cursor m').machine.state = m.state :=
      fun cursor m' hm' => (calm_advance hquiet cursor m').untouched.state.trans hm'
    refine (ihbody hbody).under (P := (· = m.state)) (fun cursor' m' hm' => ?_) hstill
      (hstill cursor m rfl) fun m' hdone => .onward (ihnext m' hdone h)
    refine advance_item rest cursor' ?_
    rwa [Machine.kindOf, hm']
  | sequence statements m ih =>
    rw [exec_sequence]
    exact .onward (ih h)
  | sequenceEnd statements index cursor m hdrop =>
    rw [exec_end hdrop, advance_end hdrop]
    exact .ended
  | member statements index s rest cursor m hdrop ihs ihnext =>
    have hmem : s ∈ statements := mem_of_drop_eq_cons hdrop
    rw [exec_member hdrop, advance_member hdrop]
    exact (ihs (check_of_mem h hmem)).under_always (fun _ _ => advance_member hdrop _ _)
      fun m' hdone => .onward (ihnext m' hdone h)

end Statement

/-! ### Runs -/

namespace ProgramInstance

variable [Scalar α] [Environment α σ] {i : ProgramInstance α} {budget : Nat} {state : σ}
  {worm : EntityId} {x y : Moment α σ}

/-- The moment at which a run of an instance begins. -/
def start (i : ProgramInstance α) (worm : EntityId) (budget : Nat) (state : σ) : Moment α σ :=
  ⟨i.cursor, { worm, state, globals := i.globals, budget }⟩

/-- The moments of a run of an instance. -/
inductive InRun (i : ProgramInstance α) (budget : Nat) (state : σ) : Moment α σ → Prop where
  /-- The run begins at the cursor that the instance has. -/
  | begins {worm : EntityId} : i.readyWorm state = .ok worm →
      InRun i budget state (i.start worm budget state)
  /-- The run goes on. -/
  | goesOn {x y : Moment α σ} : InRun i budget state x →
      i.program.root.advance x.cursor x.machine = .onward y → InRun i budget state y

/-- Only a program without defects is ever at work. -/
theorem InRun.check (h : i.InRun budget state x) (hmade : i.Made) :
    i.program.root.check i.program.globals = .ok () := by
  induction h with
  | begins hready => exact hmade.check_of_ready hready
  | goesOn _ _ ih => exact ih

/-- **A run is what its moments lead to.** Executing from any of them comes to the end of the
run. -/
theorem InRun.runWith_eq (h : i.InRun budget state x) (hmade : i.Made) :
    i.runWith budget state =
      (fun ended => i.settle ended.1 ended.2) (i.program.root.exec x.cursor x.machine) := by
  induction h with
  | begins hready => exact runWith_ready hready
  | @goesOn x y hx hgo ih =>
    have hstep := Statement.exec_eq_finish (hx.check hmade) x.cursor x.machine
    rw [hgo] at hstep
    rw [ih, hstep]
    rfl

/-- A moment that a run ends with settles it. -/
theorem InRun.settles (h : i.InRun budget state x) (hmade : i.Made) {flow : Flow α}
    {m : Machine α σ} (hend : i.program.root.advance x.cursor x.machine = .ended flow m) :
    i.runWith budget state = i.settle flow m := by
  have hstep := Statement.exec_eq_finish (h.check hmade) x.cursor x.machine
  rw [hend] at hstep
  rw [h.runWith_eq hmade, hstep]
  rfl

/-- **A run ends with one of its moments.** -/
theorem Made.run_moments (hmade : i.Made) (hready : i.readyWorm state = .ok worm)
    (budget : Nat) : ∃ (x : Moment α σ) (flow : Flow α) (m : Machine α σ),
      i.InRun budget state x ∧ i.program.root.advance x.cursor x.machine = .ended flow m ∧
        i.runWith budget state = i.settle flow m := by
  have hlast : ∀ {a : Advance α σ} {final : Flow α × Machine α σ}, a.Comes i.program.root final →
      ∀ x, i.InRun budget state x → i.program.root.advance x.cursor x.machine = a →
      ∃ x flow m, i.InRun budget state x ∧
        i.program.root.advance x.cursor x.machine = .ended flow m := by
    intro a final hcomes
    induction hcomes with
    | @ended flow m => exact fun x hx hstep => ⟨x, flow, m, hx, hstep⟩
    | @onward y final _ ih => exact fun x hx hstep => ih y (.goesOn hx hstep) rfl
  obtain ⟨x, flow, m, hx, hend⟩ := hlast
    (i.program.root.advance_comes i.cursor { worm, state, globals := i.globals, budget }
      (hmade.check_of_ready hready)) _ (.begins hready) rfl
  exact ⟨x, flow, m, hx, hend, hx.settles hmade hend⟩

end ProgramInstance

end WormBattle
