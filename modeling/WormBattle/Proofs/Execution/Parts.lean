import WormBattle.Proofs.Execution.Refinement

/-!
# Compound statements and their parts

The execution of a compound statement from each frame, written as that of a part that is continued
at another frame when the part is done (`Flow.continued`). A loop on a condition is bounded by the
units that it starts with, but any larger bound does as well (`repeatWhile_bound`), so it is the
same loop in each of its rounds (`Statement.exec_retest`).

What holds of every execution can then be shown frame by frame, whichever statement the frame
belongs to (`Statement.execInduction`). There is one induction for each kind of statement that goes
round: the rounds of a loop on a condition, the items of a loop over entities, and the members of a
sequence.
-/

namespace WormBattle

variable {α σ : Type} [Scalar α] [Environment α σ]

omit [Scalar α] [Environment α σ] in
/-- A unit is spent only if one is left. -/
theorem Machine.spend?_eq_some_iff {m m' : Machine α σ} : m.spend? = some m' ↔
    m.budget = m'.budget + 1 ∧ m' = { m with budget := m'.budget } := by
  rw [spend?]
  rcases hm : m.budget with - | units
  · simp
  · constructor
    · rintro ⟨⟩
      exact ⟨rfl, rfl⟩
    · rintro ⟨hunits, heq⟩
      rw [heq, Nat.succ.inj hunits]

/-- Go on with one unit less; without a unit, stop at a cursor. -/
def Machine.chargeAt (cursor : List Frame) (m : Machine α σ)
    (go : Machine α σ → Flow α × Machine α σ) : Flow α × Machine α σ :=
  match m.spend? with
  | some m => go m
  | none => (.suspended .budget cursor, m)

/-! ### Rounds -/

section Rounds

variable {condition : Expression α} {name : String}

/-- One round of a loop: its charge, its test, its body, and the loop again. -/
theorem repeatWhile_succ (body : Machine α σ → Flow α × Machine α σ) (bound : Nat)
    (m : Machine α σ) : repeatWhile condition body (bound + 1) m =
      m.chargeAt [.whileLoop false] fun m => m.withValue (m.evalBool condition) fun holds =>
        if holds then Flow.continued (.whileLoop true) (body m) (repeatWhile condition body bound)
        else (.done, m) := by
  rw [repeatWhile, Machine.chargeAt]
  cases m.spend? with
  | none => rfl
  | some m =>
    dsimp only
    congr 1
    funext holds
    cases holds with
    | false => rfl
    | true =>
      simp only [Bool.not_true, Bool.false_eq_true, if_false, if_true]
      rcases body m with ⟨_ | _ | _ | _, m'⟩ <;> rfl

/-- A loop that stopped in its body goes on with the rest of the body. -/
theorem resumeWhile_eq (body : List Frame → Machine α σ → Flow α × Machine α σ)
    (cursor : List Frame) (m : Machine α σ) : resumeWhile condition body cursor m =
      Flow.continued (.whileLoop true) (body cursor m)
        fun m => repeatWhile condition (body []) m.budget m := by
  rw [resumeWhile]
  rcases body cursor m with ⟨_ | _ | _ | _, m'⟩ <;> rfl

variable {item : EntityId} {m : Machine α σ}

omit [Scalar α] in
/-- An entity that is still there is gone on with in its body. -/
theorem overItems_item (body : List Frame → Machine α σ → Flow α × Machine α σ)
    (rest : List EntityId) (cursor : List Frame) (hhere : ¬(m.kindOf item).isNone = true) :
    overItems name body (item :: rest) true cursor m =
      Flow.continued (.forEach (item :: rest) true) (body cursor m)
        (overItems name body rest false []) := by
  rw [overItems, if_neg hhere, if_pos rfl]
  dsimp only
  rcases body cursor m with ⟨_ | _ | _ | _, m'⟩ <;> rfl

omit [Scalar α] in
/-- The round of an entity that is there: its charge, its body, and the other entities. -/
theorem overItems_nextItem (body : List Frame → Machine α σ → Flow α × Machine α σ)
    (rest : List EntityId) (cursor : List Frame) (hhere : ¬(m.kindOf item).isNone = true) :
    overItems name body (item :: rest) false cursor m =
      m.chargeAt [.forEach (item :: rest) false] fun m =>
        Flow.continued (.forEach (item :: rest) true)
          (body [] (m.setGlobal name (.entity (some item))))
          (overItems name body rest false []) := by
  rw [overItems, if_neg hhere, if_neg (by simp), Machine.chargeAt]
  cases m.spend? with
  | none => rfl
  | some m =>
    dsimp only
    rcases body [] (m.setGlobal name (.entity (some item))) with ⟨_ | _ | _ | _, m'⟩ <;> rfl

/-- A sequence goes on with its first statement, from where that one stopped. -/
theorem Statement.execFrom_cons (s : Statement α) (rest : List (Statement α)) (index : Nat)
    (cursor : List Frame) (m : Machine α σ) : execFrom (s :: rest) 0 index cursor m =
      Flow.continued (.sequence index) (s.exec cursor m) (execFrom rest 0 (index + 1) []) := by
  rw [execFrom]
  rcases s.exec cursor m with ⟨_ | _ | _ | _, m'⟩ <;> rfl

end Rounds

/-- The bound of a loop is of no account as long as there are no more units than it. -/
theorem repeatWhile_bound {condition : Expression α} {body : Machine α σ → Flow α × Machine α σ}
    (hbody : ∀ m m', body m = (.done, m') → m'.budget ≤ m.budget) {m : Machine α σ} {k l : Nat}
    (hk : m.budget ≤ k) (hl : m.budget ≤ l) :
    repeatWhile condition body k m = repeatWhile condition body l m := by
  have hspent : ∀ (bound : Nat) {m : Machine α σ}, m.budget = 0 →
      repeatWhile condition body bound m = (.suspended .budget [.whileLoop false], m) := by
    intro bound m hm
    cases bound with
    | zero => rfl
    | succ bound => simp only [repeatWhile, Machine.spend?, hm]
  induction k generalizing l m with
  | zero =>
    have hm : m.budget = 0 := Nat.le_zero.mp hk
    rw [hspent 0 hm, hspent l hm]
  | succ k ih =>
    rcases hm : m.budget with - | units
    · rw [hspent (k + 1) hm, hspent l hm]
    · obtain ⟨l, rfl⟩ : ∃ l', l = l' + 1 := ⟨l - 1, by omega⟩
      simp only [repeatWhile_succ, Machine.chargeAt, Machine.spend?, hm]
      congr 1
      funext holds
      -- A round takes a unit, so both bounds are still large enough for the next one.
      rcases hround : body { m with budget := units } with ⟨_ | _ | _ | _, m'⟩
      · have hless : m'.budget ≤ units := hbody _ _ hround
        rw [Flow.continued, Flow.continued, ih (l := l) (by omega) (by omega)]
      all_goals rfl

namespace Statement

variable {condition : Expression α} {then_ otherwise body s : Statement α}
  {filter : EntityFilter} {name : String}

/-- A statement that has been begun and is done has not added to the budget. -/
theorem budget_le_of_done {m m' : Machine α σ} (h : body.exec [] m = (.done, m')) :
    m'.budget ≤ m.budget := by
  have hfollows := body.exec_follows [] m (fits_nil body)
  rw [h] at hfollows
  exact (hfollows []).budget_le

/-! ### Branches -/

/-- A choice is charged for and tested, and goes on in the chosen branch. -/
theorem exec_ifElse (m : Machine α σ) : (ifElse condition then_ otherwise).exec [] m =
    m.chargeAt [] fun m => m.withValue (m.evalBool condition) fun holds =>
      (ifElse condition then_ otherwise).exec [.ifElse holds] m := by
  rw [exec, Machine.charge, Machine.chargeAt]
  congr 1
  funext m
  congr 1
  funext holds
  cases holds <;> rw [exec] <;> rfl

/-- In a chosen branch the branch is all that is left. -/
theorem exec_branch (holds : Bool) (cursor : List Frame) (m : Machine α σ) :
    (ifElse condition then_ otherwise).exec (.ifElse holds :: cursor) m =
      Flow.continued (.ifElse holds) ((if holds then then_ else otherwise).exec cursor m)
        fun m => (.done, m) := by
  cases holds <;> rw [exec, inBranch_eq_continued] <;> rfl

/-! ### Loops on a condition -/

/-- A loop begins with its test. -/
theorem exec_whileLoop (m : Machine α σ) :
    (whileLoop condition body).exec [] m =
      (whileLoop condition body).exec [.whileLoop false] m := by
  rw [exec, exec]

/-- After the body of a loop comes its test again. -/
theorem exec_inBody (cursor : List Frame) (m : Machine α σ) :
    (whileLoop condition body).exec (.whileLoop true :: cursor) m =
      Flow.continued (.whileLoop true) (body.exec cursor m)
        ((whileLoop condition body).exec [.whileLoop false]) := by
  rw [exec, resumeWhile_eq]
  congr 1

/-- A test is charged for, and decides between the body and the end. -/
theorem exec_retest (cursor : List Frame) (m : Machine α σ) :
    (whileLoop condition body).exec (.whileLoop false :: cursor) m =
      m.chargeAt [.whileLoop false] fun m => m.withValue (m.evalBool condition) fun holds =>
        if holds then (whileLoop condition body).exec [.whileLoop true] m else (.done, m) := by
  rw [exec]
  rcases hm : m.budget with - | units
  · simp only [repeatWhile, Machine.chargeAt, Machine.spend?, hm]
  · simp only [repeatWhile_succ, Machine.chargeAt, Machine.spend?, hm]
    congr 1
    funext holds
    rw [exec_inBody]
    rcases hround : body.exec [] { m with budget := units } with ⟨_ | _ | _ | _, m'⟩
    · have hless : m'.budget ≤ units := budget_le_of_done hround
      rw [Flow.continued, Flow.continued, exec,
        repeatWhile_bound (fun _ _ => budget_le_of_done) hless (Nat.le_refl _)]
    all_goals rfl

/-! ### Loops over entities -/

/-- A loop over entities begins by taking down the entities. -/
theorem exec_forEach (m : Machine α σ) : (forEach filter name body).exec [] m =
    (forEach filter name body).exec
      [.forEach ((Environment.view m.state).entities filter) false] m := by
  rw [exec, exec]

/-- A loop ends when no entity is left. -/
theorem exec_noItems (inBody : Bool) (cursor : List Frame) (m : Machine α σ) :
    (forEach filter name body).exec (.forEach [] inBody :: cursor) m = (.done, m) := by
  rw [exec, overItems]

/-- An entity that has left takes what is left of its body with it. -/
theorem exec_lostItem {item : EntityId} (rest : List EntityId) (inBody : Bool)
    (cursor : List Frame) {m : Machine α σ} (hgone : (m.kindOf item).isNone = true) :
    (forEach filter name body).exec (.forEach (item :: rest) inBody :: cursor) m =
      (forEach filter name body).exec [.forEach rest false] m := by
  rw [exec, exec, overItems, if_pos hgone]

/-- After the body of a loop over entities come the other entities. -/
theorem exec_item {item : EntityId} (rest : List EntityId) (cursor : List Frame)
    {m : Machine α σ} (hhere : ¬(m.kindOf item).isNone = true) :
    (forEach filter name body).exec (.forEach (item :: rest) true :: cursor) m =
      Flow.continued (.forEach (item :: rest) true) (body.exec cursor m)
        ((forEach filter name body).exec [.forEach rest false]) := by
  rw [exec, overItems_item _ rest cursor hhere]
  congr 1

/-- The round of an entity that is there is charged for, and goes on in the body. -/
theorem exec_nextItem {item : EntityId} (rest : List EntityId) (cursor : List Frame)
    {m : Machine α σ} (hhere : ¬(m.kindOf item).isNone = true) :
    (forEach filter name body).exec (.forEach (item :: rest) false :: cursor) m =
      m.chargeAt [.forEach (item :: rest) false] fun m =>
        (forEach filter name body).exec [.forEach (item :: rest) true]
          (m.setGlobal name (.entity (some item))) := by
  rw [exec, overItems_nextItem _ rest cursor hhere, Machine.chargeAt, Machine.chargeAt]
  cases hspent : m.spend? with
  | none => rfl
  | some m' =>
    -- To give the variable its value moves nothing in the world, so the entity is still there.
    have hstill : ¬((m'.setGlobal name (.entity (some item))).kindOf item).isNone = true := by
      rw [(Machine.spend?_eq_some_iff.mp hspent).2]
      exact hhere
    dsimp only
    rw [exec_item rest [] hstill]
    congr 1

/-! ### Sequences -/

/-- A sequence begins with its first member. -/
theorem exec_sequence {statements : List (Statement α)} (m : Machine α σ) :
    (sequence statements).exec [] m = (sequence statements).exec [.sequence 0] m := by
  rw [exec, exec]

/-- A sequence ends after its last member. -/
theorem exec_end {statements : List (Statement α)} {index : Nat}
    (hdrop : statements.drop index = []) (cursor : List Frame) (m : Machine α σ) :
    (sequence statements).exec (.sequence index :: cursor) m = (.done, m) := by
  rw [exec, execFrom_drop, hdrop, execFrom]

/-- After a member of a sequence come the others. -/
theorem exec_member {statements rest : List (Statement α)} {index : Nat}
    (hdrop : statements.drop index = s :: rest) (cursor : List Frame) (m : Machine α σ) :
    (sequence statements).exec (.sequence index :: cursor) m =
      Flow.continued (.sequence index) (s.exec cursor m)
        ((sequence statements).exec [.sequence (index + 1)]) := by
  have hnext : statements.drop (index + 1) = rest := drop_succ_of_drop_eq_cons hdrop
  rw [exec, execFrom_drop, hdrop, execFrom_cons, Nat.zero_add]
  congr 1
  funext m'
  rw [exec, execFrom_drop statements, hnext, Nat.zero_add]

/-! ### The principle -/

/-- Whether a frame is of the kind of a statement. -/
def expects : Statement α → Frame → Bool
  | ifElse .., .ifElse _ | whileLoop .., .whileLoop _ | forEach .., .forEach .. => true
  | sequence _, .sequence _ => true
  | _, _ => false

/-- A frame of another kind is noticed at once. -/
theorem exec_mismatch (hcontrol : s.isControlFlow = true) {frame : Frame}
    (hframe : s.expects frame = false) (cursor : List Frame) (m : Machine α σ) :
    s.exec (frame :: cursor) m = (.failed .cursorMismatch, m) := by
  cases s with
  | ifElse | whileLoop | forEach | sequence => cases frame <;> first | rfl | cases hframe
  | _ => cases hcontrol

omit [Scalar α] in
/-- A frame that fits is of the kind of the statement. -/
theorem expects_of_fits (hcontrol : s.isControlFlow = true) {frame : Frame} {cursor : List Frame}
    (hfits : s.Fits (frame :: cursor)) : s.expects frame = true := by
  cases s with
  | ifElse | whileLoop | forEach | sequence =>
    cases frame <;> first | rfl | simp [Fits] at hfits
  | _ => cases hcontrol

section Rounds

variable {P : List Frame → Machine α σ → Prop}

/-- Induction along the rounds of a loop on a condition. -/
theorem roundInduction
    (retest : ∀ cursor m,
      (∀ m', m.spend? = some m' → m'.evalBool condition = .ok true → P [.whileLoop true] m') →
      P (.whileLoop false :: cursor) m)
    (inBody : ∀ cursor m, (∀ m', body.exec cursor m = (.done, m') → P [.whileLoop false] m') →
      P (.whileLoop true :: cursor) m)
    (inside : Bool) (cursor : List Frame) (m : Machine α σ) :
    P (.whileLoop inside :: cursor) m := by
  -- Every round takes a unit, so the rounds to come are those of a machine with less.
  have hrounds : ∀ units cursor (m : Machine α σ), m.budget ≤ units →
      P (.whileLoop false :: cursor) m := by
    intro units
    induction units with
    | zero =>
      intro cursor m hm
      refine retest cursor m fun m' hspent _ => ?_
      have hunits := (Machine.spend?_eq_some_iff.mp hspent).1
      omega
    | succ units ih =>
      intro cursor m hm
      refine retest cursor m fun m' hspent _ => inBody [] m' fun m'' hdone => ih [] m'' ?_
      have hunits := (Machine.spend?_eq_some_iff.mp hspent).1
      have hless := budget_le_of_done hdone
      omega
  cases inside with
  | false => exact hrounds m.budget cursor m (Nat.le_refl _)
  | true => exact inBody cursor m fun m' _ => hrounds m'.budget [] m' (Nat.le_refl _)

omit [Scalar α] in
/-- Induction along the items of a loop over entities. -/
theorem itemInduction
    (noItems : ∀ inside cursor m, P (.forEach [] inside :: cursor) m)
    (lostItem : ∀ item rest inside cursor m, (m.kindOf item).isNone = true →
      P [.forEach rest false] m → P (.forEach (item :: rest) inside :: cursor) m)
    (nextItem : ∀ item rest cursor m, ¬(m.kindOf item).isNone = true →
      (∀ m', m.spend? = some m' →
        P [.forEach (item :: rest) true] (m'.setGlobal name (.entity (some item)))) →
      P (.forEach (item :: rest) false :: cursor) m)
    (item : ∀ item rest cursor m, ¬(m.kindOf item).isNone = true →
      (∀ m', P [.forEach rest false] m') → P (.forEach (item :: rest) true :: cursor) m)
    (items : List EntityId) (inside : Bool) (cursor : List Frame) (m : Machine α σ) :
    P (.forEach items inside :: cursor) m := by
  induction items generalizing inside cursor m with
  | nil => exact noItems inside cursor m
  | cons id rest ih =>
    by_cases hgone : (m.kindOf id).isNone = true
    · exact lostItem id rest inside cursor m hgone (ih false [] m)
    have hentered : ∀ cursor m, ¬(m.kindOf id).isNone = true →
        P (.forEach (id :: rest) true :: cursor) m :=
      fun cursor m hhere => item id rest cursor m hhere fun m' => ih false [] m'
    cases inside with
    | true => exact hentered cursor m hgone
    | false =>
      refine nextItem id rest cursor m hgone fun m' hspent => hentered [] _ ?_
      obtain ⟨-, heq⟩ := Machine.spend?_eq_some_iff.mp hspent
      rw [heq]
      exact hgone

omit [Scalar α] [Environment α σ] in
/-- Induction along the members of a sequence. -/
theorem memberInduction {statements : List (Statement α)}
    (sequenceEnd : ∀ index cursor m, statements.drop index = [] →
      P (.sequence index :: cursor) m)
    (member : ∀ index s rest cursor m, statements.drop index = s :: rest →
      (∀ m', P [.sequence (index + 1)] m') → P (.sequence index :: cursor) m)
    (index : Nat) (cursor : List Frame) (m : Machine α σ) : P (.sequence index :: cursor) m := by
  generalize hleft : (statements.drop index).length = left
  induction left generalizing index cursor m with
  | zero => exact sequenceEnd index cursor m (List.length_eq_zero_iff.mp hleft)
  | succ left ih =>
    obtain ⟨s, rest, hdrop⟩ := List.exists_cons_of_length_eq_add_one hleft
    have hnext : (statements.drop (index + 1)).length = left := by
      rw [List.length_drop] at hleft ⊢
      omega
    exact member index s rest cursor m hdrop fun m' => ih (index + 1) [] m' hnext

end Rounds

/-- **Induction along an execution.** What is to be shown of every execution is shown for each frame
at which it goes on, from the executions of the parts and from that of the statement itself at its
next frame. -/
@[elab_as_elim]
theorem execInduction {P : Statement α → List Frame → Machine α σ → Prop}
    (leaf : ∀ s cursor m, s.isControlFlow = false → P s cursor m)
    (mismatch : ∀ s cursor m, ¬s.Fits cursor →
      (∀ m : Machine α σ, s.exec cursor m = (.failed .cursorMismatch, m)) →
      (∃ frame rest, cursor = frame :: rest ∧ s.expects frame = false) → P s cursor m)
    (ifElse : ∀ condition then_ otherwise m,
      (∀ m' holds, m.spend? = some m' → m'.evalBool condition = .ok holds →
        P (ifElse condition then_ otherwise) [.ifElse holds] m') →
      P (ifElse condition then_ otherwise) [] m)
    (branch : ∀ condition then_ otherwise holds cursor m,
      P (if holds then then_ else otherwise) cursor m →
      P (.ifElse condition then_ otherwise) (.ifElse holds :: cursor) m)
    (whileLoop : ∀ condition body m, P (whileLoop condition body) [.whileLoop false] m →
      P (whileLoop condition body) [] m)
    (retest : ∀ condition body cursor m,
      (∀ m', m.spend? = some m' → m'.evalBool condition = .ok true →
        P (.whileLoop condition body) [.whileLoop true] m') →
      P (.whileLoop condition body) (.whileLoop false :: cursor) m)
    (inBody : ∀ condition body cursor m, P body cursor m →
      (∀ m', body.exec cursor m = (.done, m') →
        P (.whileLoop condition body) [.whileLoop false] m') →
      P (.whileLoop condition body) (.whileLoop true :: cursor) m)
    (forEach : ∀ filter name body m,
      P (forEach filter name body)
        [.forEach ((Environment.view m.state).entities filter) false] m →
      P (forEach filter name body) [] m)
    (noItems : ∀ filter name body inBody cursor m,
      P (.forEach filter name body) (.forEach [] inBody :: cursor) m)
    (lostItem : ∀ filter name body item rest inBody cursor m, (m.kindOf item).isNone = true →
      P (.forEach filter name body) [.forEach rest false] m →
      P (.forEach filter name body) (.forEach (item :: rest) inBody :: cursor) m)
    (nextItem : ∀ filter name body item rest cursor m, ¬(m.kindOf item).isNone = true →
      (∀ m', m.spend? = some m' → P (.forEach filter name body) [.forEach (item :: rest) true]
        (m'.setGlobal name (.entity (some item)))) →
      P (.forEach filter name body) (.forEach (item :: rest) false :: cursor) m)
    (item : ∀ filter name body item rest cursor m, ¬(m.kindOf item).isNone = true →
      P body cursor m →
      (∀ m', body.exec cursor m = (.done, m') →
        P (.forEach filter name body) [.forEach rest false] m') →
      P (.forEach filter name body) (.forEach (item :: rest) true :: cursor) m)
    (sequence : ∀ statements m, P (sequence statements) [.sequence 0] m →
      P (sequence statements) [] m)
    (sequenceEnd : ∀ statements index cursor m, statements.drop index = [] →
      P (.sequence statements) (.sequence index :: cursor) m)
    (member : ∀ statements index s rest cursor m, statements.drop index = s :: rest →
      P s cursor m →
      (∀ m', s.exec cursor m = (.done, m') →
        P (.sequence statements) [.sequence (index + 1)] m') →
      P (.sequence statements) (.sequence index :: cursor) m)
    (s : Statement α) (cursor : List Frame) (m : Machine α σ) : P s cursor m := by
  have hother : ∀ (s : Statement α) frame cursor m, s.isControlFlow = true →
      s.expects frame = false → P s (frame :: cursor) m :=
    fun s frame cursor m hcontrol hframe => mismatch s (frame :: cursor) m
      (fun hfits => Bool.false_ne_true (hframe.symm.trans (expects_of_fits hcontrol hfits)))
      (exec_mismatch hcontrol hframe cursor) ⟨frame, cursor, rfl, hframe⟩
  induction s using Statement.inductionOn generalizing cursor m with
  | leaf s hleaf => exact leaf s cursor m hleaf
  | ifElse condition then_ otherwise ihthen ihotherwise =>
    have htaken : ∀ holds cursor m,
        P (.ifElse condition then_ otherwise) (.ifElse holds :: cursor) m := by
      intro holds cursor m
      refine branch condition then_ otherwise holds cursor m ?_
      cases holds
      · exact ihotherwise cursor m
      · exact ihthen cursor m
    rcases cursor with - | ⟨frame, cursor⟩
    · exact ifElse condition then_ otherwise m fun m' holds _ _ => htaken holds [] m'
    · cases frame with
      | ifElse holds => exact htaken holds cursor m
      | _ => exact hother _ _ cursor m rfl rfl
  | whileLoop condition body ih =>
    have hrounds := roundInduction (P := P (.whileLoop condition body)) (retest condition body)
      fun cursor m => inBody condition body cursor m (ih cursor m)
    rcases cursor with - | ⟨frame, cursor⟩
    · exact whileLoop condition body m (hrounds false [] m)
    · cases frame with
      | whileLoop inside => exact hrounds inside cursor m
      | _ => exact hother _ _ cursor m rfl rfl
  | forEach filter name body ih =>
    have hitems := itemInduction (P := P (.forEach filter name body)) (noItems filter name body)
      (lostItem filter name body) (nextItem filter name body) fun id rest cursor m hhere hnext =>
        item filter name body id rest cursor m hhere (ih cursor m) fun m' _ => hnext m'
    rcases cursor with - | ⟨frame, cursor⟩
    · exact forEach filter name body m (hitems _ false [] m)
    · cases frame with
      | forEach items inside => exact hitems items inside cursor m
      | _ => exact hother _ _ cursor m rfl rfl
  | sequence statements ih =>
    have hmembers := memberInduction (P := P (.sequence statements)) (sequenceEnd statements)
      fun index s rest cursor m hdrop hnext =>
        have hmem : s ∈ statements := mem_of_drop_eq_cons hdrop
        member statements index s rest cursor m hdrop (ih s hmem cursor m) fun m' _ => hnext m'
    rcases cursor with - | ⟨frame, cursor⟩
    · exact sequence statements m (hmembers 0 [] m)
    · cases frame with
      | sequence index => exact hmembers index cursor m
      | _ => exact hother _ _ cursor m rfl rfl

end Statement

end WormBattle
