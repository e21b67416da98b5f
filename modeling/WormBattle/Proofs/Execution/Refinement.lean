import WormBattle.Proofs.Execution.Cursor
import WormBattle.Proofs.Execution.Step

/-!
# Execution refines the reference machine

However the execution of a statement from a cursor ends, the reference machine comes to the same end
from the work that the cursor stands for, whatever work comes after (`Statement.exec_follows`). The
statements without parts agree step by step (`Reference.stepStatement_eq_ofFlow`); the compound ones
are put together from their parts by one rule, `Follows.after`.
-/

namespace WormBattle

variable {α σ : Type}

/-! ### Beginning a run -/

namespace Work

variable {view : View α} {work rest : List (Work α)}

/-- Work behind which nothing is lost does not touch what stands before it. -/
theorem resume_append (h : rest.any (hasLost view) = false) :
    resume view (work ++ rest) = resume view work ++ rest := by
  induction work with
  | nil =>
    cases rest with
    | nil => rfl
    | cons w rest =>
      rw [List.any_cons, Bool.or_eq_false_iff] at h
      simp [resume, h.1, h.2]
  | cons w work ih =>
    rw [List.cons_append, resume, resume, List.any_append, h, Bool.or_false, ih]
    split
    · rfl
    · split <;> rfl

/-- A loop that has lost its present entity drops all that stands before it. -/
theorem resume_append_lost {w : Work α} (h : w.hasLost view = true) :
    resume view (work ++ [w]) = [w.letGo] := by
  induction work with
  | nil => simp [resume, h]
  | cons v work ih =>
    rw [List.cons_append, resume, if_pos (by simp [h]), ih]

private theorem any_hasLost_map_statement (view : View α) (statements : List (Statement α)) :
    (statements.map statement).any (hasLost view) = false := by
  rw [List.any_map]
  exact List.any_eq_false.mpr fun _ _ => Bool.false_ne_true

end Work

open Reference

/-! ### Statements without parts -/

/-- The end of a statement without parts, as a step of the reference machine. -/
def Next.ofFlow (rest : List (Work α)) : Flow α × Machine α σ → Next α σ
  | (.done, m) => .go rest m
  | (.suspended reason _, m) => .stop (.suspended reason) m
  | (.wormDied, m) => .stop .wormDied m
  | (.failed e, m) => .stop (.failed e) m

namespace Reference

private theorem pay_ofFlow (m : Machine α σ) (rest : List (Work α))
    (go : Machine α σ → Flow α × Machine α σ) :
    pay m (fun m => .ofFlow rest (go m)) = .ofFlow rest (m.charge go) := by
  cases h : m.budget with
  | zero => simp only [pay, Machine.charge, Machine.spend?, h, Next.ofFlow]
  | succ left => simp only [pay, Machine.charge, Machine.spend?, h]

private theorem require_ofFlow {β : Type} (m : Machine α σ) (rest : List (Work α))
    (value : Except (Error α) β) (go : β → Flow α × Machine α σ) :
    require m value (fun v => .ofFlow rest (go v)) = .ofFlow rest (m.withValue value go) := by
  cases value <;> rfl

variable [Environment α σ]

private theorem act_eq_ofFlow (m : Machine α σ) (action : Action α) (rest : List (Work α)) :
    act m action rest = .ofFlow rest (m.perform action) := by
  rw [act, Machine.perform]
  cases Environment.actionCost m.state m.worm action with
  | error e => exact pay_ofFlow m rest fun m => (.done, m)
  | ok cost =>
    dsimp only
    rw [← require_ofFlow]
    congr 1
    funext available
    by_cases hpoor : available < cost
    · rw [if_pos hpoor, if_pos hpoor]
      rfl
    · rw [if_neg hpoor, if_neg hpoor, ← pay_ofFlow]
      congr 1
      funext m
      -- Both tell of the action when it is done and then look whether the worm is there.
      rw [ask]
      rcases Environment.perform m.state m.worm action with ⟨_ | _, state⟩
      · rfl
      · by_cases h : (Environment.view state).kindOf m.worm = some .worm
        · simp [Next.ofFlow, Machine.note, Machine.kindOf, h]
        · simp [Next.ofFlow, Machine.note, Machine.kindOf, h]

variable [Scalar α]

/-- The machine does a statement without parts as the executor does. -/
theorem stepStatement_eq_ofFlow {s : Statement α} (h : s.isControlFlow = false)
    (cursor : List Frame) (m : Machine α σ) (rest : List (Work α)) :
    stepStatement m rest s = .ofFlow rest (s.exec cursor m) := by
  cases s with
  | skip =>
    rw [Statement.exec, ← pay_ofFlow]
    rfl
  | assign name value =>
    rw [Statement.exec, Machine.assign, ← pay_ofFlow]
    simp only [← require_ofFlow]
    rfl
  | print value =>
    rw [Statement.exec, Machine.print, ← pay_ofFlow]
    simp only [← require_ofFlow]
    rfl
  | turn angle =>
    rw [Statement.exec, ← require_ofFlow]
    simp only [← act_eq_ofFlow]
    rfl
  | move => exact act_eq_ofFlow m .move rest
  | jump => exact act_eq_ofFlow m .jump rest
  | toggleWeapon => exact act_eq_ofFlow m .toggleWeapon rest
  | fire yieldPercent =>
    rw [Statement.exec, Machine.fire, stepStatement, ← require_ofFlow]
    congr 1
    funext x
    cases Machine.yield? x with
    | some percent => exact act_eq_ofFlow m (.fire percent) rest
    | none => exact pay_ofFlow m rest fun m => (.done, m)
  | ifElse | whileLoop | forEach | sequence => cases h

end Reference

/-- A statement without parts is suspended as a whole. -/
theorem Statement.cursor_eq_nil_of_leaf [Scalar α] [Environment α σ] {s : Statement α}
    (h : s.isControlFlow = false) {cursor cursor' : List Frame} {m m' : Machine α σ}
    {reason : SuspendReason} (hs : s.exec cursor m = (.suspended reason cursor', m')) :
    cursor' = [] := by
  have hcharge : ∀ {m₁ : Machine α σ} {go : Machine α σ → Flow α × Machine α σ},
      (∀ m₂, go m₂ = (.suspended reason cursor', m') → cursor' = []) →
      m₁.charge go = (.suspended reason cursor', m') → cursor' = [] := by
    intro m₁ go hgo hs
    unfold Machine.charge at hs
    split at hs
    · exact hgo _ hs
    · cases hs
      rfl
  have hvalue : ∀ {β : Type} {m₁ : Machine α σ} {value : Except (Error α) β}
      {go : β → Flow α × Machine α σ},
      (∀ v, go v = (.suspended reason cursor', m') → cursor' = []) →
      m₁.withValue value go = (.suspended reason cursor', m') → cursor' = [] := by
    intro β m₁ value go hgo hs
    cases value with
    | ok v => exact hgo v hs
    | error e => cases hs
  have hperform : ∀ {m₁ : Machine α σ} {action : Action α},
      m₁.perform action = (.suspended reason cursor', m') → cursor' = [] := by
    intro m₁ action hs
    unfold Machine.perform at hs
    split at hs
    · exact hcharge (fun m₂ h => by cases h) hs
    · refine hvalue (fun available hs => ?_) hs
      split at hs
      · cases hs
        rfl
      · refine hcharge (fun m₂ hs => ?_) hs
        dsimp only at hs
        split at hs
        · cases hs
        · split at hs <;> cases hs
  cases s with
  | skip => exact hcharge (fun m₂ h => by cases h) hs
  | assign name value =>
    exact hcharge (fun m₂ => hvalue fun v => hvalue fun _ h => by cases h) hs
  | print value => exact hcharge (fun m₂ => hvalue fun v h => by cases h) hs
  | turn angle => exact hvalue (fun x => hperform) hs
  | move => exact hperform hs
  | jump => exact hperform hs
  | toggleWeapon => exact hperform hs
  | fire yieldPercent =>
    refine hvalue (fun x hs => ?_) hs
    split at hs
    · exact hperform hs
    · exact hcharge (fun m₂ h => by cases h) hs
  | ifElse | whileLoop | forEach | sequence => cases h

/-! ### Following an execution -/

section Follows

variable [Scalar α] [Environment α σ]

/-- The reference machine comes from some work to the end of an execution, whatever work `rest`
comes after: the work is done, or it stops for the same reason. A suspension has to leave a cursor
that fits, and the work that the machine keeps is what `left` reads off the cursor. -/
def Follows (left : List Frame → List (Work α)) (fits : List Frame → Prop)
    (work : List (Work α)) (m : Machine α σ) (ended : Flow α × Machine α σ) : Prop :=
  ∀ rest, match ended with
    | (.done, m') => Reaches (work ++ rest, m) (rest, m')
    | (.suspended reason cursor, m') =>
      fits cursor ∧ Halts (work ++ rest, m) (.suspended reason) (left cursor ++ rest) m'
    | (.wormDied, m') => ∃ work', Halts (work ++ rest, m) .wormDied work' m'
    | (.failed e, m') => ∃ work', Halts (work ++ rest, m) (.failed e) work' m'

/-- The end of the execution of a part, continued when the part is done. A suspension in the part
gets one frame more. -/
def Flow.continued (frame : Frame) (ended : Flow α × Machine α σ)
    (next : Machine α σ → Flow α × Machine α σ) : Flow α × Machine α σ :=
  match ended with
  | (.done, m) => next m
  | (.suspended reason cursor, m) => (.suspended reason (frame :: cursor), m)
  | stopped => stopped

variable {left left' : List Frame → List (Work α)} {fits fits' : List Frame → Prop}
  {work work' tail : List (Work α)} {m m' : Machine α σ} {ended : Flow α × Machine α σ}

private theorem Follows.of_reaches (h : ∀ rest, Reaches (work ++ rest, m) (work' ++ rest, m'))
    (h' : Follows left fits work' m' ended) : Follows left fits work m ended := by
  intro rest
  have hrest := h' rest
  rcases ended with ⟨_ | ⟨reason, cursor⟩ | _ | e, m''⟩
  · exact (h rest).trans hrest
  · exact ⟨hrest.1, .of_reaches (h rest) hrest.2⟩
  · obtain ⟨work'', hstop⟩ := hrest
    exact ⟨work'', .of_reaches (h rest) hstop⟩
  · obtain ⟨work'', hstop⟩ := hrest
    exact ⟨work'', .of_reaches (h rest) hstop⟩

/-- **One part and then the rest.** If the execution of a part is followed from `work`, and what
comes after it from `tail`, then the whole is followed from both together. -/
theorem Follows.after {frame : Frame} {next : Machine α σ → Flow α × Machine α σ}
    (hpart : Follows left fits work m ended)
    (hframe : ∀ cursor, fits cursor →
      fits' (frame :: cursor) ∧ left' (frame :: cursor) = left cursor ++ tail)
    (hnext : ∀ m', ended = (.done, m') → Follows left' fits' tail m' (next m')) :
    Follows left' fits' (work ++ tail) m (Flow.continued frame ended next) := by
  rcases ended with ⟨_ | ⟨reason, cursor⟩ | _ | e, m'⟩
  · refine Follows.of_reaches (fun rest => ?_) (hnext m' rfl)
    rw [List.append_assoc]
    exact hpart (tail ++ rest)
  · intro rest
    obtain ⟨hfits, hstop⟩ := hpart (tail ++ rest)
    obtain ⟨hfits', hleft⟩ := hframe cursor hfits
    refine ⟨hfits', ?_⟩
    rw [hleft, List.append_assoc, List.append_assoc]
    exact hstop
  · intro rest
    obtain ⟨work'', hstop⟩ := hpart (tail ++ rest)
    rw [← List.append_assoc] at hstop
    exact ⟨work'', hstop⟩
  · intro rest
    obtain ⟨work'', hstop⟩ := hpart (tail ++ rest)
    rw [← List.append_assoc] at hstop
    exact ⟨work'', hstop⟩

/-- An end of an execution as a stop of the reference machine. -/
def Flow.stop : Flow α → Stop α
  | .done => .completed
  | .suspended reason _ => .suspended reason
  | .wormDied => .wormDied
  | .failed e => .failed e

/-- An execution that is followed is one of the whole machine. -/
theorem Follows.halts (h : Follows left fits work m ended) :
    ∃ work', Halts (work, m) ended.1.stop work' ended.2 ∧
      ∀ reason cursor, ended.1 = .suspended reason cursor → fits cursor ∧ work' = left cursor := by
  have hend := h []
  rcases ended with ⟨_ | ⟨reason, cursor⟩ | _ | e, m'⟩
  all_goals simp only [List.append_nil] at hend
  · exact ⟨[], .of_reaches hend (.of_step rfl), fun _ _ h => by cases h⟩
  · refine ⟨left cursor, hend.2, fun _ _ h => ?_⟩
    cases h
    exact ⟨hend.1, rfl⟩
  · obtain ⟨work', hstop⟩ := hend
    exact ⟨work', hstop, fun _ _ h => by cases h⟩
  · obtain ⟨work', hstop⟩ := hend
    exact ⟨work', hstop, fun _ _ h => by cases h⟩

/-- A part that is done has not added to the budget. -/
theorem Follows.budget_le (h : Follows left fits work m (.done, m')) : m'.budget ≤ m.budget :=
  Reaches.budget_le (h [])

/-! ### Loops -/

namespace Statement

variable {condition : Expression α} {body : Statement α} {filter : EntityFilter} {name : String}

/-- A body that is followed and then what comes after it make a loop that is followed. -/
theorem follows_round {cursor : List Frame} {next : Machine α σ → Flow α × Machine α σ}
    (hbody : Follows body.pending body.Fits work m (body.exec cursor m))
    (hnext : ∀ m', body.exec cursor m = (.done, m') →
      Follows (whileLoop condition body).pending (whileLoop condition body).Fits
        [.retest condition body] m' (next m')) :
    Follows (whileLoop condition body).pending (whileLoop condition body).Fits
      (work ++ [.retest condition body]) m
      (Flow.continued (.whileLoop true) (body.exec cursor m) next) :=
  Follows.after hbody (fun cursor hfits => ⟨by simpa [Fits] using hfits, by rw [pending]⟩) hnext

/-- Testing and repeating a body that is followed is followed from the test on. -/
theorem follows_repeatWhile
    (hbody : ∀ m : Machine α σ, Follows body.pending body.Fits [.statement body] m (body.exec [] m))
    {bound : Nat} (hbound : m.budget ≤ bound) :
    Follows (whileLoop condition body).pending (whileLoop condition body).Fits
      [.retest condition body] m (repeatWhile condition (body.exec []) bound m) := by
  have hspent : ∀ m : Machine α σ, m.budget = 0 →
      Follows (whileLoop condition body).pending (whileLoop condition body).Fits
        [.retest condition body] m (.suspended .budget [.whileLoop false], m) := by
    intro m hm rest
    refine ⟨by simp [Fits], Halts.of_step ?_⟩
    simp [step, pay, hm]
  induction bound generalizing m with
  | zero => exact hspent m (Nat.le_zero.mp hbound)
  | succ bound ih =>
    rw [repeatWhile]
    cases hm : m.budget with
    | zero =>
      simp only [Machine.spend?, hm]
      exact hspent m hm
    | succ units =>
      simp only [Machine.spend?, hm]
      cases hholds : ({ m with budget := units } : Machine α σ).evalBool condition with
      | error e =>
        intro rest
        refine ⟨.retest condition body :: rest, Halts.of_step ?_⟩
        simp [step, pay, require, hm, hholds]
      | ok holds =>
        have htest : ∀ rest, step (.retest condition body :: rest) m =
            if holds then .go (.statement body :: .retest condition body :: rest)
              { m with budget := units } else .go rest { m with budget := units } := by
          intro rest
          simp [step, pay, require, hm, hholds]
        cases holds with
        | false => exact fun rest => Reaches.head (htest rest) (Reaches.refl _)
        | true =>
          -- The test has taken a unit of the budget, so the rounds to come are bounded by one less.
          have hless : ∀ m', body.exec [] { m with budget := units } = (.done, m') →
              m'.budget ≤ bound := by
            intro m' hdone
            have hle := Follows.budget_le (hdone ▸ hbody { m with budget := units })
            simp only at hle
            omega
          have hround := follows_round (hbody { m with budget := units }) fun m' hdone =>
            ih (hless m' hdone)
          exact Follows.of_reaches (fun rest => Reaches.head (htest rest) (Reaches.refl _)) hround

/-- Entering the body for an entity, with a cursor or afresh, and then going through the entities
that are left. -/
theorem follows_entered {id : EntityId} {ids : List EntityId} {cursor : List Frame}
    (hbody : Follows body.pending body.Fits work m (body.exec cursor m))
    (hrest : ∀ m : Machine α σ, Follows (forEach filter name body).pending
      (forEach filter name body).Fits [.items none ids name body] m
      (overItems name body.exec ids false [] m)) :
    Follows (forEach filter name body).pending (forEach filter name body).Fits
      (work ++ [.items (some id) ids name body]) m
      (Flow.continued (.forEach (id :: ids) true) (body.exec cursor m)
        (overItems name body.exec ids false [])) :=
  Follows.after hbody
    (fun cursor hfits => ⟨⟨by simp, by simpa using hfits⟩, by simp [pending]⟩)
    fun m' _ => Follows.of_reaches (fun _ => Reaches.head rfl (Reaches.refl _)) (hrest m')

/-- Going through entities with a body that is followed is followed from the loop on. -/
theorem follows_overItems
    (hbody : ∀ m : Machine α σ, Follows body.pending body.Fits [.statement body] m (body.exec [] m))
    (ids : List EntityId) (cursor : List Frame) (m : Machine α σ) :
    Follows (forEach filter name body).pending (forEach filter name body).Fits
      [.items none ids name body] m (overItems name body.exec ids false cursor m) := by
  induction ids generalizing cursor m with
  | nil => exact fun rest => Reaches.head rfl (Reaches.refl _)
  | cons id ids ih =>
    rw [overItems]
    by_cases hgone : (m.kindOf id).isNone
    · have hskip : ∀ rest, step (.items none (id :: ids) name body :: rest) m =
          .go (.items none ids name body :: rest) m := by
        intro rest
        rw [step, if_pos hgone]
      simp only [hgone, if_true]
      exact Follows.of_reaches (fun rest => Reaches.head (hskip rest) (Reaches.refl _)) (ih [] m)
    · have hstart : ∀ rest, step (.items none (id :: ids) name body :: rest) m =
          pay m fun m => .go (.statement body :: .items (some id) ids name body :: rest)
            (m.setGlobal name (.entity (some id))) := by
        intro rest
        rw [step, if_neg hgone]
      simp only [hgone, if_false, Bool.false_eq_true]
      cases hm : m.budget with
      | zero =>
        simp only [Machine.spend?, hm]
        refine fun rest => ⟨⟨by simp, rfl⟩, Halts.of_step ?_⟩
        simp [hstart, pay, hm]
      | succ units =>
        simp only [Machine.spend?, hm]
        have hreach : ∀ rest, Reaches (.items none (id :: ids) name body :: rest, m)
            (.statement body :: .items (some id) ids name body :: rest,
              ({ m with budget := units } : Machine α σ).setGlobal name (.entity (some id))) :=
          fun rest => Reaches.head (by simp [hstart, pay, hm]) (Reaches.refl _)
        refine Follows.of_reaches ?_ (follows_entered (hbody _) (ih []))
        exact hreach

/-! ### Sequences -/

/-- The executor finds the statement of a number by passing over those before it. -/
theorem execFrom_drop (statements : List (Statement α)) (skipped index : Nat) (cursor : List Frame)
    (m : Machine α σ) : execFrom statements skipped index cursor m =
      execFrom (statements.drop skipped) 0 (index + skipped) cursor m := by
  induction statements generalizing skipped index with
  | nil => simp [execFrom]
  | cons s rest ih =>
    cases skipped with
    | zero => rfl
    | succ skipped =>
      rw [execFrom, ih, List.drop_succ_cons]
      congr 1
      omega

omit [Scalar α] in
/-- A cursor fits a list at an index if it fits the statement there. -/
theorem fitsAt_iff {statements : List (Statement α)} {index : Nat} {cursor : List Frame} :
    FitsAt statements index cursor ↔
      ∃ s rest, statements.drop index = s :: rest ∧ s.Fits cursor := by
  induction statements generalizing index with
  | nil => simp [FitsAt]
  | cons s rest ih =>
    cases index with
    | zero => simp [FitsAt]
    | succ index => rw [FitsAt, ih, List.drop_succ_cons]

omit [Scalar α] in
private theorem pendingFrom_eq {statements rest : List (Statement α)} {s : Statement α}
    {index : Nat} (h : statements.drop index = s :: rest) (cursor : List Frame) :
    pendingFrom statements index cursor = s.pending cursor ++ rest.map .statement := by
  induction statements generalizing index with
  | nil => simp at h
  | cons t statements ih =>
    cases index with
    | zero =>
      obtain ⟨rfl, rfl⟩ := List.cons.inj h
      rw [pendingFrom]
    | succ index => rw [pendingFrom, ih (by simpa using h)]

/-- A statement of a sequence that is followed, and then those after it. -/
theorem follows_member {statements rest : List (Statement α)} {s : Statement α} {index : Nat}
    {cursor : List Frame} (hdrop : statements.drop index = s :: rest)
    (hs : Follows s.pending s.Fits work m (s.exec cursor m))
    (hrest : ∀ m : Machine α σ, Follows (sequence statements).pending (sequence statements).Fits
      (rest.map .statement) m (execFrom rest 0 (index + 1) [] m)) :
    Follows (sequence statements).pending (sequence statements).Fits
      (work ++ rest.map .statement) m (execFrom (s :: rest) 0 index cursor m) := by
  have hframe : ∀ cursor, s.Fits cursor →
      (sequence statements).Fits (.sequence index :: cursor) ∧
        (sequence statements).pending (.sequence index :: cursor) =
          s.pending cursor ++ rest.map .statement := by
    intro cursor hfits
    refine ⟨?_, ?_⟩
    · rw [Fits]
      exact fitsAt_iff.mpr ⟨s, rest, hdrop, hfits⟩
    · rw [pending, pendingFrom_eq hdrop]
  rw [execFrom]
  exact Follows.after hs hframe fun m' _ => hrest m'

/-- The statements of a sequence from a number on, each of which is followed. -/
theorem follows_execFrom {statements : List (Statement α)}
    (hall : ∀ s ∈ statements, ∀ m : Machine α σ,
      Follows s.pending s.Fits [.statement s] m (s.exec [] m))
    {rest : List (Statement α)} {index : Nat} (hdrop : statements.drop index = rest)
    (m : Machine α σ) :
    Follows (sequence statements).pending (sequence statements).Fits (rest.map .statement) m
      (execFrom rest 0 index [] m) := by
  induction rest generalizing index m with
  | nil =>
    rw [execFrom]
    exact fun rest => Reaches.refl _
  | cons s rest ih =>
    have hmem : s ∈ statements := mem_of_drop_eq_cons hdrop
    have hnext : statements.drop (index + 1) = rest := drop_succ_of_drop_eq_cons hdrop
    exact follows_member hdrop (hall s hmem m) fun m => ih hnext m

/-! ### The law of execution -/

/-- From every cursor that fits, the execution of the statement is followed from the work that the
cursor stands for, after the entities that have left the world are let go. -/
def Followed (σ : Type) [Environment α σ] (s : Statement α) : Prop :=
  ∀ (cursor : List Frame) (m : Machine α σ), s.Fits cursor →
    Follows s.pending s.Fits (Work.resume (Environment.view m.state) (s.pending cursor)) m
      (s.exec cursor m)

variable {condition : Expression α} {then_ otherwise body : Statement α}

/-- A fresh body is followed from itself, since nothing in it can have been lost. -/
theorem Followed.fresh {s : Statement α} (h : s.Followed σ) (m : Machine α σ) :
    Follows s.pending s.Fits [.statement s] m (s.exec [] m) := by
  have hfresh := h [] m (fits_nil s)
  rwa [resume_pending_nil] at hfresh

private theorem followed_leaf {s : Statement α} (hleaf : s.isControlFlow = false) :
    s.Followed σ := by
  intro cursor m hfits
  obtain rfl := eq_nil_of_fits_of_leaf hleaf hfits
  have hstep : ∀ rest, step (.statement s :: rest) m = .ofFlow rest (s.exec [] m) :=
    fun rest => stepStatement_eq_ofFlow hleaf [] m rest
  rw [resume_pending_nil]
  intro rest
  rcases hend : s.exec [] m with ⟨_ | ⟨reason, cursor⟩ | _ | e, m'⟩
  · exact Reaches.head ((hstep rest).trans (by rw [hend, Next.ofFlow])) (Reaches.refl _)
  · obtain rfl := cursor_eq_nil_of_leaf hleaf hend
    refine ⟨fits_nil s, ?_⟩
    rw [pending_nil]
    exact Halts.of_step ((hstep rest).trans (by rw [hend, Next.ofFlow]))
  · exact ⟨_, Halts.of_step ((hstep rest).trans (by rw [hend, Next.ofFlow]))⟩
  · exact ⟨_, Halts.of_step ((hstep rest).trans (by rw [hend, Next.ofFlow]))⟩

omit [Scalar α] [Environment α σ] in
/-- A branch is followed by nothing. -/
theorem inBranch_eq_continued (holds : Bool) (ended : Flow α × Machine α σ) :
    inBranch holds ended = Flow.continued (.ifElse holds) ended fun m => (.done, m) := by
  rcases ended with ⟨_ | _ | _ | _, m⟩ <;> rfl

/-- A branch that is followed makes a statement with branches that is. -/
theorem follows_ifElse {holds : Bool} {cursor : List Frame}
    (h : Follows (if holds then then_ else otherwise).pending
      (if holds then then_ else otherwise).Fits work m
      ((if holds then then_ else otherwise).exec cursor m)) :
    Follows (ifElse condition then_ otherwise).pending (ifElse condition then_ otherwise).Fits
      work m (inBranch holds ((if holds then then_ else otherwise).exec cursor m)) := by
  have hframe : ∀ cursor, (if holds then then_ else otherwise).Fits cursor →
      (ifElse condition then_ otherwise).Fits (.ifElse holds :: cursor) ∧
        (ifElse condition then_ otherwise).pending (.ifElse holds :: cursor) =
          (if holds then then_ else otherwise).pending cursor ++ [] := by
    intro cursor hfits
    cases holds <;> simpa [Fits, pending] using hfits
  rw [inBranch_eq_continued, ← List.append_nil work]
  exact Follows.after h hframe fun m' _ rest => Reaches.refl _

private theorem followed_ifElse (condition : Expression α) (hthen : then_.Followed σ)
    (hotherwise : otherwise.Followed σ) : (ifElse condition then_ otherwise).Followed σ := by
  have hbranch : ∀ holds : Bool, (if holds then then_ else otherwise).Followed σ := by
    intro holds
    cases holds
    · exact hotherwise
    · exact hthen
  intro cursor m hfits
  rcases cursor with - | ⟨_ | ⟨holds⟩ | _ | _, cursor⟩
  · -- The condition is tested first, and the branch that is taken is fresh.
    rw [resume_pending_nil, exec]
    cases hm : m.budget with
    | zero =>
      intro rest
      simp only [Machine.charge, Machine.spend?, hm]
      refine ⟨fits_nil _, ?_⟩
      rw [pending_nil]
      exact Halts.of_step (by simp [step, stepStatement, pay, hm])
    | succ units =>
      simp only [Machine.charge, Machine.spend?, hm]
      cases hholds : ({ m with budget := units } : Machine α σ).evalBool condition with
      | error e =>
        intro rest
        refine ⟨.statement (ifElse condition then_ otherwise) :: rest, Halts.of_step ?_⟩
        simp [step, stepStatement, pay, require, hm, hholds]
      | ok holds =>
        have hstep : ∀ rest, step (.statement (ifElse condition then_ otherwise) :: rest) m =
            .go (.statement (if holds then then_ else otherwise) :: rest)
              { m with budget := units } := by
          intro rest
          simp [step, stepStatement, pay, require, hm, hholds]
        have hwhole : Follows (ifElse condition then_ otherwise).pending
            (ifElse condition then_ otherwise).Fits
            [.statement (ifElse condition then_ otherwise)] m
            (inBranch holds ((if holds then then_ else otherwise).exec []
              { m with budget := units })) :=
          Follows.of_reaches (fun rest => Reaches.head (hstep rest) (Reaches.refl _))
            (follows_ifElse ((hbranch holds).fresh _))
        cases holds <;> exact hwhole
  · simp [Fits] at hfits
  · -- The branch was chosen before, and the condition is not tested again.
    have htaken := hbranch holds cursor m (by cases holds <;> exact hfits)
    cases holds
    · rw [exec, pending]
      exact follows_ifElse htaken
    · rw [exec, pending]
      exact follows_ifElse htaken
  · simp [Fits] at hfits
  · simp [Fits] at hfits

private theorem followed_whileLoop (condition : Expression α) (hbody : body.Followed σ) :
    (whileLoop condition body).Followed σ := by
  intro cursor m hfits
  have hloop : ∀ m : Machine α σ, Follows (whileLoop condition body).pending
      (whileLoop condition body).Fits [.retest condition body] m
      (repeatWhile condition (body.exec []) m.budget m) :=
    fun m => follows_repeatWhile hbody.fresh (Nat.le_refl _)
  rcases cursor with - | ⟨_ | _ | ⟨_ | _⟩ | _, cursor⟩
  · rw [resume_pending_nil, exec]
    exact Follows.of_reaches (fun rest => Reaches.head rfl (Reaches.refl _)) (hloop m)
  · simp [Fits] at hfits
  · simp [Fits] at hfits
  · rw [exec, pending]
    exact hloop m
  · -- What was lost lies inside the body, for a loop on a condition loses nothing itself.
    rw [exec, pending, Work.resume_append (by simp [Work.hasLost])]
    exact follows_round (hbody cursor m (by simpa [Fits] using hfits)) fun m' _ => hloop m'
  · simp [Fits] at hfits

private theorem followed_forEach (filter : EntityFilter) (name : String) (hbody : body.Followed σ) :
    (forEach filter name body).Followed σ := by
  intro cursor m hfits
  have hloop : ∀ (ids : List EntityId) (cursor : List Frame) (m : Machine α σ),
      Follows (forEach filter name body).pending (forEach filter name body).Fits
        [.items none ids name body] m (overItems name body.exec ids false cursor m) :=
    follows_overItems hbody.fresh
  rcases cursor with - | ⟨_ | _ | _ | ⟨ids, inBody⟩, cursor⟩
  · rw [resume_pending_nil, exec]
    exact Follows.of_reaches (fun rest => Reaches.head rfl (Reaches.refl _)) (hloop _ [] m)
  · simp [Fits] at hfits
  · simp [Fits] at hfits
  · simp [Fits] at hfits
  · obtain ⟨hids, hfits⟩ := hfits
    cases inBody with
    | false =>
      rw [exec, pending]
      exact hloop ids cursor m
    | true =>
      obtain ⟨id, ids, rfl⟩ := List.exists_cons_of_ne_nil hids
      rw [exec, pending, overItems, List.head?_cons, List.tail_cons]
      by_cases hgone : (m.kindOf id).isNone
      · -- The present entity has left the world, and the rest of its body with it.
        simp only [hgone, if_true]
        rw [Work.resume_append_lost (by exact hgone)]
        exact hloop ids [] m
      · simp only [hgone, if_false, Bool.false_eq_true, if_true]
        have hkept : [Work.items (some id) ids name body].any
            (Work.hasLost (Environment.view m.state)) = false := by
          rw [List.any_cons, List.any_nil, Bool.or_false]
          exact Bool.eq_false_iff.mpr hgone
        rw [Work.resume_append hkept]
        exact follows_entered (hbody cursor m (by simpa using hfits)) (hloop ids [])

private theorem followed_sequence {statements : List (Statement α)}
    (hall : ∀ s ∈ statements, s.Followed σ) : (sequence statements).Followed σ := by
  intro cursor m hfits
  have hfresh : ∀ s ∈ statements, ∀ m : Machine α σ,
      Follows s.pending s.Fits [.statement s] m (s.exec [] m) :=
    fun s hs => (hall s hs).fresh
  rcases cursor with - | ⟨⟨index⟩ | _ | _ | _, cursor⟩
  · rw [resume_pending_nil, exec]
    exact Follows.of_reaches (fun rest => Reaches.head rfl (Reaches.refl _))
      (follows_execFrom hfresh List.drop_zero m)
  · -- The statement that was suspended is resumed, and those after it are fresh.
    obtain ⟨s, rest, hdrop, hs⟩ := fitsAt_iff.mp hfits
    have hmem : s ∈ statements := mem_of_drop_eq_cons hdrop
    have hnext : statements.drop (index + 1) = rest := drop_succ_of_drop_eq_cons hdrop
    rw [exec, pending, execFrom_drop, hdrop, Nat.zero_add, pendingFrom_eq hdrop,
      Work.resume_append (Work.any_hasLost_map_statement _ rest)]
    exact follows_member hdrop (hall s hmem cursor m hs) (follows_execFrom hfresh hnext)
  · simp [Fits] at hfits
  · simp [Fits] at hfits
  · simp [Fits] at hfits

/-- **Execution refines the reference machine.** From a cursor that fits, the executor ends as the
reference machine does with the work that the cursor stands for. -/
theorem exec_follows (s : Statement α) : s.Followed σ := by
  induction s using Statement.inductionOn with
  | leaf s hleaf => exact followed_leaf hleaf
  | ifElse condition then_ otherwise ihthen ihotherwise =>
    exact followed_ifElse condition ihthen ihotherwise
  | whileLoop condition body ih => exact followed_whileLoop condition ih
  | forEach filter name body ih => exact followed_forEach filter name ih
  | sequence statements ih => exact followed_sequence ih

end Statement

end Follows

end WormBattle
