import WormBattle.Proofs.Execution.Parts
import WormBattle.Proofs.Typing.Runs

/-!
# Executions with more units

Two laws about one execution and the same one with the machine extended (`Machine.extend`). What was
done before is never looked at (`Statement.exec_behind`). With more units, the execution is the one
without them, gone on with at the cursor where the units ran out (`Statement.exec_extend`): as long
as there are units, it is not aware of how many.

The second law needs that a loop over entities that is gone on with still finds its entity. It does
since its body holds no action, so that nothing in the world has changed (`Statement.state_exec`).
-/

namespace WormBattle

variable {α σ : Type}

/-! ### More units, and effects from before -/

/-- The machine with some units more, and with some effects before its own. -/
def Machine.extend (m : Machine α σ) (more : Nat) (before : List (Effect α)) : Machine α σ :=
  { m with budget := m.budget + more, trace := m.trace ++ before }

/-- The end of an execution with a machine that is extended. Where the units have run out without
the extension, `again` tells what is done from the cursor on. -/
def Flow.extended (more : Nat) (before : List (Effect α))
    (again : List Frame → Machine α σ → Flow α × Machine α σ) :
    Flow α × Machine α σ → Flow α × Machine α σ
  | (.suspended .budget cursor, m) => again cursor (m.extend more before)
  | (flow, m) => (flow, m.extend more before)

/-- Nothing is done at a cursor. -/
def Flow.stuck (cursor : List Frame) (m : Machine α σ) : Flow α × Machine α σ :=
  (.suspended .budget cursor, m)

/-- Without further units, the extension is nothing but the effects from before. -/
theorem Flow.extended_stuck (before : List (Effect α)) (ended : Flow α × Machine α σ) :
    Flow.extended 0 before stuck ended = (ended.1, ended.2.extend 0 before) := by
  rcases ended with ⟨_ | ⟨_ | _, _⟩ | _ | _, m⟩ <;> rfl

section Combinators

variable {m : Machine α σ} {more : Nat} {before : List (Effect α)}
  {again part : List Frame → Machine α σ → Flow α × Machine α σ}

private theorem Machine.spend?_extend {m' : Machine α σ} (h : m.spend? = some m') :
    (m.extend more before).spend? = some (m'.extend more before) := by
  obtain ⟨hunits, heq⟩ := spend?_eq_some_iff.mp h
  refine spend?_eq_some_iff.mpr ⟨?_, ?_⟩
  · show m.budget + more = m'.budget + more + 1
    omega
  · rw [heq]
    rfl

private theorem Machine.chargeAt_of_budget_eq_zero {cursor : List Frame}
    {go : Machine α σ → Flow α × Machine α σ} (h : m.budget = 0) :
    m.chargeAt cursor go = (.suspended .budget cursor, m) := by
  simp only [chargeAt, spend?, h]

/-- Where a unit is taken, it is there with the extension if it is without, and what is done with it
is extended. Where there is none, the whole has to be gone on with as from here. -/
theorem Machine.chargeAt_extend {cursor : List Frame} {go : Machine α σ → Flow α × Machine α σ}
    (hspent : m.budget = 0 →
      again cursor (m.extend more before) = (m.extend more before).chargeAt cursor go)
    (hgo : ∀ m', m.spend? = some m' →
      go (m'.extend more before) = Flow.extended more before again (go m')) :
    (m.extend more before).chargeAt cursor go =
      Flow.extended more before again (m.chargeAt cursor go) := by
  cases hm : m.spend? with
  | none =>
    have hzero : m.budget = 0 := by
      cases hunits : m.budget with
      | zero => rfl
      | succ units => simp [spend?, hunits] at hm
    rw [chargeAt_of_budget_eq_zero hzero]
    exact (hspent hzero).symm
  | some m' =>
    simp only [chargeAt, spend?_extend hm, hm]
    exact hgo m' hm

private theorem Machine.withValue_extend {β : Type} {value : Except (Error α) β}
    {go go' : β → Flow α × Machine α σ}
    (hgo : ∀ v, value = .ok v → go' v = Flow.extended more before again (go v)) :
    (m.extend more before).withValue value go' =
      Flow.extended more before again (m.withValue value go) := by
  cases value with
  | ok v => exact hgo v rfl
  | error e => rfl

/-- A part and what comes after it are extended together. Where the part is gone on with, the whole
has to be gone on with one frame further out. -/
theorem Flow.continued_extend {frame : Frame} {ended ended' : Flow α × Machine α σ}
    {next : Machine α σ → Flow α × Machine α σ}
    (hpart : ended' = Flow.extended more before part ended)
    (hresume : ∀ cursor m', ended = (.suspended .budget cursor, m') →
      again (frame :: cursor) (m'.extend more before) =
        Flow.continued frame (part cursor (m'.extend more before)) next)
    (hnext : ∀ m', ended = (.done, m') →
      next (m'.extend more before) = Flow.extended more before again (next m')) :
    Flow.continued frame ended' next =
      Flow.extended more before again (Flow.continued frame ended next) := by
  subst hpart
  rcases ended with ⟨_ | ⟨_ | _, cursor⟩ | _ | _, m'⟩
  · exact hnext m' rfl
  · rfl
  · exact (hresume cursor m' rfl).symm
  · rfl
  · rfl

end Combinators

/-! ### Statements without parts -/

section Leaf

/-- What is done either lacks a unit from the beginning, or it does not depend on the extension. -/
def Machine.Splits (run : Machine α σ → Flow α × Machine α σ) (m : Machine α σ) : Prop :=
  (run m = (.suspended .budget [], m) ∧
    ∀ before, run (m.extend 0 before) = (.suspended .budget [], m.extend 0 before)) ∨
  ∀ again more before,
    run (m.extend more before) = Flow.extended more before again (run m)

variable {m : Machine α σ}

private theorem Machine.splits_charge {go : Machine α σ → Flow α × Machine α σ}
    (hgo : ∀ m' : Machine α σ, ∀ again more before,
      go (m'.extend more before) = Flow.extended more before again (go m')) :
    Splits (·.charge go) m := by
  by_cases hzero : m.budget = 0
  · exact .inl ⟨chargeAt_of_budget_eq_zero hzero, fun before => chargeAt_of_budget_eq_zero hzero⟩
  · refine .inr fun again more before => chargeAt_extend (fun h => absurd h hzero) ?_
    exact fun m' _ => hgo m' again more before

private theorem Machine.Splits.congr {f g : Machine α σ → Flow α × Machine α σ} (h : Splits g m)
    (hrun : f m = g m)
    (hextend : ∀ more before, f (m.extend more before) = g (m.extend more before)) :
    Splits f m := by
  rcases h with ⟨hstuck, hbehind⟩ | hfree
  · exact .inl ⟨hrun.trans hstuck, fun before => (hextend 0 before).trans (hbehind before)⟩
  · refine .inr fun again more before => ?_
    rw [hextend, hrun]
    exact hfree again more before

private theorem Machine.splits_withValue {β : Type} (value : Machine α σ → Except (Error α) β)
    {go : β → Machine α σ → Flow α × Machine α σ}
    (hvalue : ∀ more before, value (m.extend more before) = value m)
    (hgo : ∀ v, Splits (go v) m) :
    Splits (fun m => m.withValue (value m) fun v => go v m) m := by
  cases hm : value m with
  | error e =>
    refine Splits.congr (g := fun m => (.failed e, m)) (.inr fun again more before => rfl) ?_ ?_
    · simp only [hm, withValue]
    · intro more before
      simp only [hvalue, hm, withValue]
  | ok v =>
    refine (hgo v).congr ?_ ?_
    · simp only [hm, withValue]
    · intro more before
      simp only [hvalue, hm, withValue]

variable [Environment α σ]

/-- Ask the world for an action that a unit has been taken for. -/
def Machine.ask (m : Machine α σ) (action : Action α) : Flow α × Machine α σ :=
  let (result, state) := Environment.perform m.state m.worm action
  let m := { m with state }.note (.asked m.worm action)
  match result with
  | .error _ => (.done, m)
  | .ok _ =>
    let m := m.note (.done m.worm action)
    (if m.kindOf m.worm = some .worm then .done else .wormDied, m)

/-- An action that can be planned waits for its points, then for a unit. -/
theorem Machine.perform_of_planned {action : Action α} {cost : Nat}
    (h : Environment.actionCost m.state m.worm action = .ok cost) : m.perform action =
      m.withValue (Environment.actionPoints m.state m.worm) fun available =>
        if available < cost then (.suspended (.actionPoints cost available) [], m)
        else m.charge (·.ask action) := by
  rw [perform, h]
  rfl

private theorem Machine.ask_extend (m : Machine α σ) (action : Action α)
    (again : List Frame → Machine α σ → Flow α × Machine α σ) (more : Nat)
    (before : List (Effect α)) :
    (m.extend more before).ask action = Flow.extended more before again (m.ask action) := by
  rcases hact : Environment.perform m.state m.worm action with ⟨_ | _, state⟩
  · simp only [ask, extend, hact, note, Flow.extended, List.cons_append]
  · by_cases hthere : (Environment.view state).kindOf m.worm = some .worm
    · simp only [ask, extend, hact, note, kindOf, hthere, Flow.extended, List.cons_append, if_true]
    · simp only [ask, extend, hact, note, kindOf, hthere, Flow.extended, List.cons_append, if_false]

private theorem Machine.splits_perform (action : Action α) : Splits (·.perform action) m := by
  cases hcost : Environment.actionCost m.state m.worm action with
  | error e =>
    have hpassed : ∀ m' : Machine α σ, m'.state = m.state → m'.worm = m.worm →
        m'.perform action = m'.charge fun m => (.done, m) := by
      intro m' hstate hworm
      rw [perform, hstate, hworm, hcost]
    exact (splits_charge fun _ _ _ _ => rfl).congr (hpassed m rfl rfl)
      fun more before => hpassed _ rfl rfl
  | ok cost =>
    have hasked : ∀ available, Splits (fun m => if available < cost then
        (.suspended (.actionPoints cost available) [], m) else m.charge (·.ask action)) m := by
      intro available
      by_cases hpoor : available < cost
      · simp only [hpoor, if_true]
        exact .inr fun again more before => rfl
      · simp only [hpoor, if_false]
        exact splits_charge fun m' again more before => m'.ask_extend action again more before
    have hwhole := splits_withValue (fun m => Environment.actionPoints m.state m.worm)
      (fun _ _ => rfl) hasked
    exact hwhole.congr (perform_of_planned hcost)
      fun more before => perform_of_planned (m := m.extend more before) hcost

variable [Scalar α]

private theorem Statement.splits_leaf {s : Statement α} (hleaf : s.isControlFlow = false)
    (cursor : List Frame) : Machine.Splits (s.exec cursor) m := by
  cases s with
  | skip => exact Machine.splits_charge fun _ _ _ _ => rfl
  | assign name value =>
    refine Machine.splits_charge fun m' again more before => ?_
    exact Machine.withValue_extend fun v _ => Machine.withValue_extend fun _ _ => rfl
  | print value =>
    refine Machine.splits_charge fun m' again more before => ?_
    exact Machine.withValue_extend fun v _ => rfl
  | turn angle =>
    exact Machine.splits_withValue (·.evalDouble angle) (fun _ _ => rfl)
      fun x => Machine.splits_perform (.turn x)
  | move => exact Machine.splits_perform .move
  | jump => exact Machine.splits_perform .jump
  | toggleWeapon => exact Machine.splits_perform .toggleWeapon
  | fire yieldPercent =>
    refine Machine.splits_withValue (·.evalDouble yieldPercent) (fun _ _ => rfl) fun x => ?_
    cases Machine.yield? x with
    | some percent => exact Machine.splits_perform (.fire percent)
    | none => exact Machine.splits_charge fun _ _ _ _ => rfl
  | ifElse | whileLoop | forEach | sequence => cases hleaf

end Leaf

/-! ### Statements without actions -/

section Keeps

variable {P : Machine α σ → Prop} {m : Machine α σ}

private theorem Machine.chargeAt_keeps {cursor : List Frame}
    {go : Machine α σ → Flow α × Machine α σ}
    (hm : P m) (hgo : ∀ m', m.spend? = some m' → P (go m').2) : P (m.chargeAt cursor go).2 := by
  rw [chargeAt]
  split
  · exact hgo _ ‹_›
  · exact hm

private theorem Machine.withValue_keeps {β : Type} {value : Except (Error α) β}
    {go : β → Flow α × Machine α σ} (hm : P m) (hgo : ∀ v, value = .ok v → P (go v).2) :
    P (m.withValue value go).2 := by
  cases value with
  | ok v => exact hgo v rfl
  | error e => exact hm

private theorem Flow.continued_keeps {frame : Frame} {ended : Flow α × Machine α σ}
    {next : Machine α σ → Flow α × Machine α σ} (hended : P ended.2)
    (hnext : ∀ m', ended = (.done, m') → P m' → P (next m').2) :
    P (Flow.continued frame ended next).2 := by
  rcases ended with ⟨_ | _ | _ | _, m'⟩
  · exact hnext m' rfl hended
  all_goals exact hended

end Keeps

namespace Statement

/-- If no statement of a list acts, none of its members does. -/
theorem containsAction_of_mem {statements : List (Statement α)} {s : Statement α}
    (h : anyContainsAction statements = false) (hmem : s ∈ statements) :
    s.containsAction = false := by
  induction statements with
  | nil => cases hmem
  | cons t rest ih =>
    rw [anyContainsAction, Bool.or_eq_false_iff] at h
    rcases List.mem_cons.mp hmem with rfl | hmem
    · exact h.1
    · exact ih h.2 hmem

/-- If a choice does not act, neither of its branches does. -/
theorem containsAction_branch {condition : Expression α} {then_ otherwise : Statement α}
    (h : (ifElse condition then_ otherwise).containsAction = false) (holds : Bool) :
    (if holds then then_ else otherwise).containsAction = false := by
  rw [containsAction, Bool.or_eq_false_iff] at h
  cases holds
  · exact h.2
  · exact h.1

/-! ### Parts of statements without defects -/

variable {declared : Globals α} {body : Statement α}

/-- Both branches of a well-formed choice are well-formed. -/
theorem check_branch {condition : Expression α} {then_ otherwise : Statement α}
    (h : (ifElse condition then_ otherwise).check declared = .ok ()) (holds : Bool) :
    (if holds then then_ else otherwise).check declared = .ok () := by
  rw [check, bind_eq_ok_iff] at h
  obtain ⟨⟨⟩, -, h⟩ := h
  obtain ⟨⟨⟩, hthen, hotherwise⟩ := bind_eq_ok_iff.mp h
  cases holds
  · exact hotherwise
  · exact hthen

/-- The body of a well-formed loop is well-formed. -/
theorem check_body {condition : Expression α}
    (h : (whileLoop condition body).check declared = .ok ()) : body.check declared = .ok () := by
  rw [check, bind_eq_ok_iff] at h
  obtain ⟨⟨⟩, -, hbody⟩ := h
  exact hbody

/-- The body of a well-formed loop over entities is well-formed, and it does not act. -/
theorem check_forEach {filter : EntityFilter} {name : String}
    (h : (forEach filter name body).check declared = .ok ()) :
    body.containsAction = false ∧ body.check declared = .ok () := by
  rw [check] at h
  split at h
  · split at h
    · cases h
    · exact ⟨Bool.eq_false_iff.mpr ‹_›, h⟩
  · cases h
  · cases h

/-- The members of a well-formed sequence are well-formed. -/
theorem check_of_mem {statements : List (Statement α)} {s : Statement α}
    (h : (sequence statements).check declared = .ok ()) (hmem : s ∈ statements) :
    s.check declared = .ok () := by
  rw [check] at h
  exact checked_of_checkAll h _ (List.mem_map_of_mem hmem)

variable [Scalar α] [Environment α σ]

private theorem exec_leaf {s : Statement α} (hleaf : s.isControlFlow = false)
    (cursor : List Frame) : (s.exec cursor : Machine α σ → Flow α × Machine α σ) = s.exec [] := by
  cases s with
  | ifElse | whileLoop | forEach | sequence => cases hleaf
  | _ => rfl

private theorem state_leaf {s : Statement α} (hleaf : s.isControlFlow = false)
    (h : s.containsAction = false) (cursor : List Frame) (m : Machine α σ) :
    (s.exec cursor m).2.state = m.state := by
  have hspent : ∀ m', m.spend? = some m' → m'.state = m.state := by
    intro m' hm
    rw [(Machine.spend?_eq_some_iff.mp hm).2]
  cases s with
  | skip => exact Machine.chargeAt_keeps (P := (·.state = m.state)) rfl hspent
  | assign name value =>
    refine Machine.chargeAt_keeps (P := (·.state = m.state)) rfl fun m' hm => ?_
    refine Machine.withValue_keeps (P := (·.state = m.state)) (hspent m' hm) fun v _ => ?_
    exact Machine.withValue_keeps (P := (·.state = m.state)) (hspent m' hm) fun _ _ => hspent m' hm
  | print value =>
    refine Machine.chargeAt_keeps (P := (·.state = m.state)) rfl fun m' hm => ?_
    exact Machine.withValue_keeps (P := (·.state = m.state)) (hspent m' hm) fun v _ => hspent m' hm
  | turn | move | jump | toggleWeapon | fire => cases h
  | ifElse | whileLoop | forEach | sequence => cases hleaf

/-- A statement without actions changes nothing in the world. -/
theorem state_exec {s : Statement α} (cursor : List Frame) (m : Machine α σ)
    (h : s.containsAction = false) : (s.exec cursor m).2.state = m.state := by
  have hspent : ∀ {m m' : Machine α σ}, m.spend? = some m' → m'.state = m.state := by
    intro m m' hm
    rw [(Machine.spend?_eq_some_iff.mp hm).2]
  induction s, cursor, m using Statement.execInduction with
  | leaf s cursor m hleaf => exact state_leaf hleaf h cursor m
  | mismatch s cursor m _ hexec => rw [hexec]
  | ifElse condition then_ otherwise m ih =>
    rw [exec_ifElse]
    refine Machine.chargeAt_keeps (P := (·.state = m.state)) rfl fun m' hm => ?_
    refine Machine.withValue_keeps (P := (·.state = m.state)) (hspent hm) fun holds hholds => ?_
    exact (ih m' holds hm hholds h).trans (hspent hm)
  | branch condition then_ otherwise holds cursor m ih =>
    rw [exec_branch]
    exact Flow.continued_keeps (P := (·.state = m.state)) (ih (containsAction_branch h holds))
      fun _ _ hm' => hm'
  | whileLoop condition body m ih =>
    rw [exec_whileLoop]
    exact ih h
  | retest condition body cursor m ih =>
    rw [exec_retest]
    refine Machine.chargeAt_keeps (P := (·.state = m.state)) rfl fun m' hm => ?_
    refine Machine.withValue_keeps (P := (·.state = m.state)) (hspent hm) fun holds hholds => ?_
    cases holds with
    | false => exact hspent hm
    | true => exact (ih m' hm hholds h).trans (hspent hm)
  | inBody condition body cursor m ihbody ihnext =>
    rw [exec_inBody]
    exact Flow.continued_keeps (P := (·.state = m.state)) (ihbody (by rwa [containsAction] at h))
      fun m' hdone hm' => (ihnext m' hdone h).trans hm'
  | forEach filter name body m ih =>
    rw [exec_forEach]
    exact ih h
  | noItems filter name body inBody cursor m => rw [exec_noItems]
  | lostItem filter name body item rest inBody cursor m hgone ih =>
    rw [exec_lostItem rest inBody cursor hgone]
    exact ih h
  | nextItem filter name body item rest cursor m hhere ih =>
    rw [exec_nextItem rest cursor hhere]
    refine Machine.chargeAt_keeps (P := (·.state = m.state)) rfl fun m' hm => ?_
    have hpaid : m'.state = m.state := hspent hm
    have hentered := ih m' hm h
    exact hentered.trans hpaid
  | item filter name body item rest cursor m hhere ihbody ihnext =>
    rw [exec_item rest cursor hhere]
    exact Flow.continued_keeps (P := (·.state = m.state)) (ihbody (by rwa [containsAction] at h))
      fun m' hdone hm' => (ihnext m' hdone h).trans hm'
  | sequence statements m ih =>
    rw [exec_sequence]
    exact ih h
  | sequenceEnd statements index cursor m hdrop => rw [exec_end hdrop]
  | member statements index s rest cursor m hdrop ihs ihnext =>
    have hmem : s ∈ statements := mem_of_drop_eq_cons hdrop
    have hs : s.containsAction = false := containsAction_of_mem (by rwa [containsAction] at h) hmem
    rw [exec_member hdrop]
    exact Flow.continued_keeps (P := (·.state = m.state)) (ihs hs)
      fun m' hdone hm' => (ihnext m' hdone h).trans hm'

/-! ### The two laws -/

variable {more : Nat} {before : List (Effect α)}

/-- A condition is tested alike, and the loop goes on or is done. -/
theorem exec_retest_extend {condition : Expression α} {body : Statement α} {m : Machine α σ}
    {again : List Frame → Machine α σ → Flow α × Machine α σ}
    (hspent : m.budget = 0 → again [.whileLoop false] (m.extend more before) =
      (whileLoop condition body).exec [.whileLoop false] (m.extend more before))
    (hround : ∀ m', m.spend? = some m' → m'.evalBool condition = .ok true →
      (whileLoop condition body).exec [.whileLoop true] (m'.extend more before) =
        Flow.extended more before again ((whileLoop condition body).exec [.whileLoop true] m'))
    (cursor : List Frame) :
    (whileLoop condition body).exec (.whileLoop false :: cursor) (m.extend more before) =
      Flow.extended more before again
        ((whileLoop condition body).exec (.whileLoop false :: cursor) m) := by
  rw [exec_retest, exec_retest]
  refine Machine.chargeAt_extend (fun hm => ?_) fun m' hm => ?_
  · rw [hspent hm, exec_retest]
  · refine Machine.withValue_extend fun holds hholds => ?_
    cases holds with
    | false => rfl
    | true => exact hround m' hm hholds

/-- **What was done before is never looked at.** -/
theorem exec_behind (s : Statement α) (cursor : List Frame) (m : Machine α σ)
    (before : List (Effect α)) : s.exec cursor (m.extend 0 before) =
      Flow.extended 0 before Flow.stuck (s.exec cursor m) := by
  have hstuck : ∀ {cursor : List Frame} {m : Machine α σ} {go : Machine α σ → Flow α × Machine α σ},
      m.budget = 0 →
      Flow.stuck cursor (m.extend 0 before) = (m.extend 0 before).chargeAt cursor go :=
    fun {_ m _} hm => (Machine.chargeAt_of_budget_eq_zero (m := m.extend 0 before) hm).symm
  induction s, cursor, m using Statement.execInduction with
  | leaf s cursor m hleaf =>
    rcases splits_leaf hleaf cursor (m := m) with ⟨hspent, hbehind⟩ | hfree
    · rw [hspent, hbehind]
      rfl
    · exact hfree Flow.stuck 0 before
  | mismatch s cursor m _ hexec =>
    rw [hexec, hexec]
    rfl
  | ifElse condition then_ otherwise m ih =>
    rw [exec_ifElse, exec_ifElse]
    refine Machine.chargeAt_extend hstuck fun m' hm => ?_
    exact Machine.withValue_extend fun holds hholds => ih m' holds hm hholds
  | branch condition then_ otherwise holds cursor m ih =>
    rw [exec_branch, exec_branch]
    exact Flow.continued_extend ih (fun _ _ _ => rfl) fun _ _ => rfl
  | whileLoop condition body m ih =>
    rw [exec_whileLoop, exec_whileLoop]
    exact ih
  | retest condition body cursor m ih =>
    refine exec_retest_extend (fun hm => ?_) ih cursor
    rw [exec_retest]
    exact hstuck hm
  | inBody condition body cursor m ihbody ihnext =>
    rw [exec_inBody, exec_inBody]
    exact Flow.continued_extend ihbody (fun _ _ _ => rfl) ihnext
  | forEach filter name body m ih =>
    rw [exec_forEach, exec_forEach]
    exact ih
  | noItems filter name body inBody cursor m =>
    rw [exec_noItems, exec_noItems]
    rfl
  | lostItem filter name body item rest inBody cursor m hgone ih =>
    rw [exec_lostItem rest inBody cursor hgone,
      exec_lostItem (m := m.extend 0 before) rest inBody cursor hgone]
    exact ih
  | nextItem filter name body item rest cursor m hhere ih =>
    rw [exec_nextItem rest cursor hhere,
      exec_nextItem (m := m.extend 0 before) rest cursor hhere]
    exact Machine.chargeAt_extend hstuck ih
  | item filter name body item rest cursor m hhere ihbody ihnext =>
    rw [exec_item rest cursor hhere, exec_item (m := m.extend 0 before) rest cursor hhere]
    exact Flow.continued_extend ihbody (fun _ _ _ => rfl) ihnext
  | sequence statements m ih =>
    rw [exec_sequence, exec_sequence]
    exact ih
  | sequenceEnd statements index cursor m hdrop =>
    rw [exec_end hdrop, exec_end hdrop]
    rfl
  | member statements index s rest cursor m hdrop ihs ihnext =>
    rw [exec_member hdrop, exec_member hdrop]
    exact Flow.continued_extend ihs (fun _ _ _ => rfl) ihnext

/-- **More units.** An execution with more units is the one without them, gone on with at the cursor
where the units ran out. -/
theorem exec_extend {declared : Globals α} (more : Nat) (before : List (Effect α))
    (s : Statement α) (cursor : List Frame) (m : Machine α σ) (h : s.check declared = .ok ()) :
    s.exec cursor (m.extend more before) =
      Flow.extended more before s.exec (s.exec cursor m) := by
  induction s, cursor, m using Statement.execInduction with
  | leaf s cursor m hleaf =>
    rcases splits_leaf hleaf cursor (m := m) with ⟨hspent, hbehind⟩ | hfree
    · rw [hspent, exec_leaf hleaf]
      rfl
    · exact hfree s.exec more before
  | mismatch s cursor m _ hexec =>
    rw [hexec, hexec]
    rfl
  | ifElse condition then_ otherwise m ih =>
    rw [exec_ifElse, exec_ifElse]
    refine Machine.chargeAt_extend (fun _ => exec_ifElse _) fun m' hm => ?_
    exact Machine.withValue_extend fun holds hholds => ih m' holds hm hholds h
  | branch condition then_ otherwise holds cursor m ih =>
    rw [exec_branch, exec_branch]
    refine Flow.continued_extend (ih (check_branch h holds)) (fun _ _ _ => ?_) fun _ _ => rfl
    rw [exec_branch]
  | whileLoop condition body m ih =>
    rw [exec_whileLoop, exec_whileLoop]
    exact ih h
  | retest condition body cursor m ih =>
    exact exec_retest_extend (fun _ => rfl) (fun m' hm hholds => ih m' hm hholds h) cursor
  | inBody condition body cursor m ihbody ihnext =>
    rw [exec_inBody, exec_inBody]
    refine Flow.continued_extend (ihbody (check_body h)) (fun _ _ _ => ?_)
      fun m' hdone => ihnext m' hdone h
    rw [exec_inBody]
  | forEach filter name body m ih =>
    rw [exec_forEach, exec_forEach]
    exact ih h
  | noItems filter name body inBody cursor m =>
    rw [exec_noItems, exec_noItems]
    rfl
  | lostItem filter name body item rest inBody cursor m hgone ih =>
    rw [exec_lostItem rest inBody cursor hgone,
      exec_lostItem (m := m.extend more before) rest inBody cursor hgone]
    exact ih h
  | nextItem filter name body item rest cursor m hhere ih =>
    have hentered : ∀ cursor,
        (forEach filter name body).exec (.forEach (item :: rest) false :: cursor)
          (m.extend more before) = _ :=
      fun cursor => exec_nextItem (m := m.extend more before) rest cursor hhere
    rw [exec_nextItem rest cursor hhere, hentered]
    refine Machine.chargeAt_extend (fun _ => hentered []) fun m' hm => ih m' hm h
  | item filter name body item rest cursor m hhere ihbody ihnext =>
    obtain ⟨hquiet, hbody⟩ := check_forEach h
    rw [exec_item rest cursor hhere, exec_item (m := m.extend more before) rest cursor hhere]
    refine Flow.continued_extend (ihbody hbody) (fun cursor' m' hstop => ?_)
      fun m' hdone => ihnext m' hdone h
    -- Nothing has changed in the world, so the entity is still there when the loop is gone on with.
    have hstate := state_exec cursor m hquiet
    rw [hstop] at hstate
    have hstill : ¬((m'.extend more before).kindOf item).isNone = true := by
      show ¬((Environment.view m'.state).kindOf item).isNone = true
      rw [hstate]
      exact hhere
    rw [exec_item rest cursor' hstill]
  | sequence statements m ih =>
    rw [exec_sequence, exec_sequence]
    exact ih h
  | sequenceEnd statements index cursor m hdrop =>
    rw [exec_end hdrop, exec_end hdrop]
    rfl
  | member statements index s rest cursor m hdrop ihs ihnext =>
    have hmem : s ∈ statements := mem_of_drop_eq_cons hdrop
    have hs : s.check declared = .ok () := check_of_mem h hmem
    rw [exec_member hdrop, exec_member hdrop]
    refine Flow.continued_extend (ihs hs) (fun _ _ _ => ?_) fun m' hdone => ihnext m' hdone h
    rw [exec_member hdrop]

end Statement

end WormBattle
