import WormBattle.Proofs.Execution.Budget
import WormBattle.Proofs.Execution.Places

/-!
# Loops over entities leave the world alone

The check of a program admits no action in a loop over entities. Here it is shown what that is worth
when the program runs: as long as a frame of such a loop is on the cursor, the world is not asked
for an action, nor what one would cost (`ProgramInstance.Made.calmInLoops`). So from the moment at
which a loop is entered to the one at which it is left, the world is the same, and a run that is
suspended in a loop lacks units and not points.

That the world is not asked is put in this way: the step is the same in every environment in which
programs see the same (`Environment.withActions`), whatever becomes of actions there.
-/

namespace WormBattle

variable {α σ : Type}

/-- The environment with another set of actions. What programs see stays the same. -/
@[reducible] def Environment.withActions [Environment α σ]
    (actionPoints : σ → EntityId → Except (Error α) Nat)
    (actionCost : σ → EntityId → Action α → Except (Error α) Nat)
    (perform : σ → EntityId → Action α → Except (Error α) Unit × σ) : Environment α σ where
  view := Environment.view
  actionPoints := actionPoints
  actionCost := actionCost
  perform := perform

/-- Whether a frame is of a loop over entities. -/
def Frame.isForEach : Frame → Bool
  | .forEach .. => true
  | _ => false

/-- Whether a cursor is in a loop over entities. -/
def Frame.inLoop (cursor : List Frame) : Bool :=
  cursor.any isForEach

namespace Statement

section Parts

variable {s t part : Statement α} {frame : Frame} {path cursor : List Frame} {declared : Globals α}

private theorem check_part (h : s.check declared = .ok ()) (hpart : s.part? frame = some part) :
    part.check declared = .ok () := by
  unfold part? at hpart
  split at hpart
  next condition then_ otherwise holds =>
    obtain rfl := Option.some.inj hpart
    exact check_branch h holds
  next =>
    obtain rfl := Option.some.inj hpart
    exact check_body h
  next =>
    obtain rfl := Option.some.inj hpart
    exact (check_forEach h).2
  next => exact check_of_mem h (List.mem_of_getElem? hpart)
  next => cases hpart

/-- Every part of a well-formed statement is well-formed. -/
theorem check_at (h : s.check declared = .ok ()) (hat : s.at? path = some t) :
    t.check declared = .ok () :=
  at?_keeps (P := fun s => s.check declared = .ok ()) (fun _ _ _ => check_part) h hat

private theorem containsAction_part (h : s.containsAction = false)
    (hpart : s.part? frame = some part) : part.containsAction = false := by
  unfold part? at hpart
  split at hpart
  next condition then_ otherwise holds =>
    obtain rfl := Option.some.inj hpart
    exact containsAction_branch h holds
  next =>
    obtain rfl := Option.some.inj hpart
    exact h
  next =>
    obtain rfl := Option.some.inj hpart
    exact h
  next => exact containsAction_of_mem h (List.mem_of_getElem? hpart)
  next => cases hpart

private theorem containsAction_at (h : s.containsAction = false) (hat : s.at? path = some t) :
    t.containsAction = false :=
  at?_keeps (P := fun s => s.containsAction = false) (fun _ _ _ => containsAction_part) h hat

/-- A loop over entities without defects holds no action. -/
theorem containsAction_forEach {filter : EntityFilter} {name : String} {body : Statement α}
    (h : (forEach filter name body).check declared = .ok ()) :
    (forEach filter name body).containsAction = false := by
  rw [containsAction]
  exact (check_forEach h).1

/-- In a statement without defects, no path through a loop over entities leads to an action. -/
theorem containsAction_of_inLoop (h : s.check declared = .ok ()) (hat : s.at? path = some t)
    (hloop : Frame.inLoop path = true) : t.containsAction = false := by
  induction path generalizing s with
  | nil => cases hloop
  | cons frame path ih =>
    obtain ⟨part, hpart, hrest⟩ := Option.bind_eq_some_iff.mp hat
    cases frame with
    | forEach items inBody =>
      cases s with
      | forEach filter name body =>
        exact containsAction_at (containsAction_part (containsAction_forEach h) hpart) hrest
      | _ => cases hpart
    | sequence | ifElse | whileLoop => exact ih (check_part h hpart) hrest hloop

private theorem containsAction_of_isAction (h : s.isAction = true) : s.containsAction = true := by
  cases s with
  | turn | move | jump | toggleWeapon | fire => rfl
  | _ => cases h

end Parts

variable [Scalar α] [Environment α σ] {s : Statement α} {cursor c : List Frame} {m : Machine α σ}
  {declared : Globals α}

/-! ### What is not asked -/

section Others

variable (actionPoints : σ → EntityId → Except (Error α) Nat)
  (actionCost : σ → EntityId → Action α → Except (Error α) Nat)
  (perform : σ → EntityId → Action α → Except (Error α) Unit × σ)

/-- A statement without actions goes on alike whatever actions there are. -/
theorem advance_withActions (h : s.containsAction = false) (cursor : List Frame)
    (m : Machine α σ) :
    @advance α σ _ (.withActions actionPoints actionCost perform) s cursor m =
      s.advance cursor m := by
  induction s using Statement.inductionOn generalizing cursor with
  | leaf s hleaf =>
    cases s with
    | skip | assign | print => rfl
    | turn | move | jump | toggleWeapon | fire => cases h
    | ifElse | whileLoop | forEach | sequence => cases hleaf
  | ifElse condition then_ otherwise ihthen ihotherwise =>
    rw [containsAction, Bool.or_eq_false_iff] at h
    rcases cursor with - | ⟨_ | ⟨_ | _⟩ | _ | _, cursor⟩
    · rfl
    · rfl
    · exact congrArg (·.under (.ifElse false) (.ended .done)) (ihotherwise h.2 cursor)
    · exact congrArg (·.under (.ifElse true) (.ended .done)) (ihthen h.1 cursor)
    · rfl
    · rfl
  | whileLoop condition body ih =>
    rcases cursor with - | ⟨_ | _ | ⟨_ | _⟩ | _, cursor⟩
    · rfl
    · rfl
    · rfl
    · rfl
    · exact congrArg (·.under (.whileLoop true) fun m => .onward ⟨[.whileLoop false], m⟩)
        (ih h cursor)
    · rfl
  | forEach filter name body ih =>
    rcases cursor with - | ⟨_ | _ | _ | ⟨_ | ⟨item, rest⟩, _ | _⟩, cursor⟩
    · rfl
    · rfl
    · rfl
    · rfl
    · rfl
    · rfl
    · rfl
    · by_cases hgone : (m.kindOf item).isNone = true
      · have hlost := @advance_lostItem α σ _ (.withActions actionPoints actionCost perform)
          body filter name m item rest true cursor hgone
        exact hlost.trans (advance_lostItem rest true cursor hgone).symm
      · have hitem := @advance_item α σ _ (.withActions actionPoints actionCost perform)
          body filter name m item rest cursor hgone
        have hbody := congrArg (·.under (.forEach (item :: rest) true) fun m =>
          .onward ⟨[.forEach rest false], m⟩) (ih h cursor)
        exact hitem.trans (hbody.trans (advance_item rest cursor hgone).symm)
  | sequence statements ih =>
    rcases cursor with - | ⟨⟨index⟩ | _ | _ | _, cursor⟩
    · rfl
    · rcases hdrop : statements.drop index with - | ⟨s, rest⟩
      · have hend := @advance_end α σ _ (.withActions actionPoints actionCost perform)
          statements index hdrop cursor m
        exact hend.trans (advance_end hdrop cursor m).symm
      · have hmem : s ∈ statements := mem_of_drop_eq_cons hdrop
        have hs : s.containsAction = false :=
          containsAction_of_mem (by rwa [containsAction] at h) hmem
        have hmember := @advance_member α σ _ (.withActions actionPoints actionCost perform)
          s statements rest index hdrop cursor m
        have hpart := congrArg (·.under (.sequence index) fun m =>
          .onward ⟨[.sequence (index + 1)], m⟩) (ih s hmem hs cursor)
        exact hmember.trans (hpart.trans (advance_member hdrop cursor m).symm)
    · rfl
    · rfl
    · rfl

/-- In a loop over entities, a statement without defects goes on alike whatever actions there
are. -/
theorem Stands.advance_withActions (hstands : s.Stands cursor) (h : s.check declared = .ok ())
    (hloop : Frame.inLoop cursor = true) (m : Machine α σ) :
    @Statement.advance α σ _ (.withActions actionPoints actionCost perform) s cursor m =
      s.advance cursor m := by
  induction hstands with
  | begun s => cases hloop
  | @branch condition then_ otherwise holds cursor _ ih =>
    have hbranch : (ifElse condition then_ otherwise).part? (.ifElse holds) = some _ := rfl
    have hwhole := @advance_branch α σ _ (.withActions actionPoints actionCost perform)
      condition then_ otherwise holds cursor m
    have hpart := congrArg (·.under (.ifElse holds) (.ended .done))
      (ih (check_part h hbranch) hloop)
    exact hwhole.trans (hpart.trans (advance_branch holds cursor m).symm)
  | retest => cases hloop
  | inBody _ ih =>
    exact congrArg (·.under (.whileLoop true) fun m => .onward ⟨[.whileLoop false], m⟩)
      (ih (check_body h) hloop)
  | nextItem | item _ _ =>
    exact Statement.advance_withActions actionPoints actionCost perform
      (containsAction_forEach h) _ m
  | sequenceEnd => cases hloop
  | @member statements rest s index cursor hdrop _ ih =>
    have hmem : s ∈ statements := mem_of_drop_eq_cons hdrop
    have hwhole := @advance_member α σ _ (.withActions actionPoints actionCost perform)
      s statements rest index hdrop cursor m
    have hpart := congrArg (·.under (.sequence index) fun m =>
      .onward ⟨[.sequence (index + 1)], m⟩) (ih (check_of_mem h hmem) hloop)
    exact hwhole.trans (hpart.trans (advance_member hdrop cursor m).symm)

end Others

/-! ### In a loop -/

omit [Scalar α] [Environment α σ] in
/-- If the whole is in a loop before its step or after it, so is the part, as long as neither the
frame nor what comes after the part is of a loop. -/
theorem inLoop_of_under {a : Advance α σ} {frame : Frame} {next : Machine α σ → Advance α σ}
    (hframe : frame.isForEach = false)
    (hnext : ∀ m, (next m).cursor?.any Frame.inLoop = false)
    (hloop : Frame.inLoop (frame :: cursor) = true ∨
      ∃ c, (a.under frame next).cursor? = some c ∧ Frame.inLoop c = true) :
    Frame.inLoop cursor = true ∨ ∃ c, a.cursor? = some c ∧ Frame.inLoop c = true := by
  have hframe : ∀ inner, Frame.inLoop (frame :: inner) = Frame.inLoop inner := by
    intro inner
    rw [Frame.inLoop, List.any_cons, hframe, Bool.false_or, Frame.inLoop]
  obtain hloop | ⟨c, hstep, hloop⟩ := hloop
  · exact .inl ((hframe cursor).symm.trans hloop)
  · obtain ⟨inner, hinner, rfl⟩ | ⟨m', -, hdone⟩ := Advance.cursor?_under hstep
    · exact .inr ⟨inner, hinner, (hframe inner).symm.trans hloop⟩
    · have hout := hnext m'
      rw [hdone, Option.any_some, hloop] at hout
      cases hout

/-- Only a loop over entities is entered by being begun. -/
theorem eq_forEach_of_inLoop (hstep : (s.advance [] m).cursor? = some c)
    (hloop : Frame.inLoop c = true) : ∃ filter name body, s = forEach filter name body := by
  cases hcontrol : s.isControlFlow with
  | false =>
    rw [eq_nil_of_cursor?_leaf hcontrol hstep] at hloop
    cases hloop
  | true =>
    cases s with
    | ifElse condition then_ otherwise =>
      obtain rfl | ⟨m', -, hgo⟩ := Advance.cursor?_charge hstep
      · cases hloop
      · obtain ⟨holds, -, hgo⟩ := Advance.cursor?_withValue hgo
        obtain rfl := Option.some.inj hgo
        cases hloop
    | forEach filter name body => exact ⟨filter, name, body, rfl⟩
    | whileLoop | sequence =>
      obtain rfl := Option.some.inj hstep
      cases hloop
    | _ => cases hcontrol

/-- **The steps into, in and out of a loop over entities are calm**, in a statement without
defects. -/
theorem Stands.calm (hstands : s.Stands cursor) (h : s.check declared = .ok ())
    (hloop : Frame.inLoop cursor = true ∨
      ∃ c, (s.advance cursor m).cursor? = some c ∧ Frame.inLoop c = true) :
    (s.advance cursor m).Calm m := by
  induction hstands with
  | begun s =>
    obtain hloop | ⟨c, hstep, hloop⟩ := hloop
    · cases hloop
    · obtain ⟨filter, name, body, rfl⟩ := eq_forEach_of_inLoop hstep hloop
      exact calm_advance (containsAction_forEach h) [] m
  | @branch condition then_ otherwise holds cursor _ ih =>
    have hbranch : (ifElse condition then_ otherwise).part? (.ifElse holds) = some _ := rfl
    rw [advance_branch] at hloop ⊢
    have hpart := ih (check_part h hbranch) (inLoop_of_under rfl (fun _ => rfl) hloop)
    exact hpart.under fun _ hm => .done hm
  | retest =>
    obtain hloop | ⟨c, hstep, hloop⟩ := hloop
    · cases hloop
    · obtain rfl | ⟨m', -, hgo⟩ := Advance.cursor?_charge hstep
      · cases hloop
      · obtain ⟨holds, -, hgo⟩ := Advance.cursor?_withValue hgo
        cases holds with
        | false => cases hgo
        | true =>
          obtain rfl := Option.some.inj hgo
          cases hloop
  | inBody _ ih =>
    have hpart := ih (check_body h) (inLoop_of_under rfl (fun _ => rfl) hloop)
    exact hpart.under fun _ hm => .onward hm
  | nextItem | item _ _ => exact calm_advance (containsAction_forEach h) _ m
  | @sequenceEnd statements index hdrop =>
    rw [advance_end hdrop]
    exact .done (.refl m)
  | @member statements rest s index cursor hdrop _ ih =>
    have hmem : s ∈ statements := mem_of_drop_eq_cons hdrop
    rw [advance_member hdrop] at hloop ⊢
    have hpart := ih (check_of_mem h hmem) (inLoop_of_under rfl (fun _ => rfl) hloop)
    exact hpart.under fun _ hm => .onward hm

end Statement

/-! ### Runs -/

namespace ProgramInstance

variable [Scalar α] [Environment α σ] {i : ProgramInstance α} {budget : Nat} {state : σ}

/-- A step of an instance into a loop over entities, in it, or out of it. -/
def LoopStep (i : ProgramInstance α) (x y : Moment α σ) : Prop :=
  i.program.root.advance x.cursor x.machine = .onward y ∧
    (Frame.inLoop x.cursor = true ∨ Frame.inLoop y.cursor = true)

/-- What it is to leave the world alone in loops over entities, for a run of an instance. -/
structure CalmInLoops (i : ProgramInstance α) (budget : Nat) (state : σ) : Prop where
  /-- In a loop, no action is in execution. -/
  no_action : ∀ x : Moment α σ, i.InRun budget state x → Frame.inLoop x.cursor = true →
    ∀ s, i.program.root.at? x.cursor = some s → s.isAction = false
  /-- In a loop, the world is not asked for action points or costs, nor for an action. -/
  not_asked : ∀ x : Moment α σ, i.InRun budget state x → Frame.inLoop x.cursor = true →
    ∀ actionPoints actionCost perform,
      @Statement.advance α σ _ (.withActions actionPoints actionCost perform) i.program.root
        x.cursor x.machine = i.program.root.advance x.cursor x.machine
  /-- From the moment before a loop to the one after it, the world does not change. -/
  untouched : ∀ x y : Moment α σ, i.InRun budget state x → Relation.ReflTransGen i.LoopStep x y →
    x.machine.Untouched y.machine
  /-- A run that ends in a loop leaves the world as it was there. -/
  untouched_of_ended : ∀ (x : Moment α σ) (flow : Flow α) (m : Machine α σ),
    i.InRun budget state x → Frame.inLoop x.cursor = true →
    i.program.root.advance x.cursor x.machine = .ended flow m → x.machine.Untouched m
  /-- A run that is suspended in a loop has spent its budget. -/
  eq_budget : ∀ reason, (i.runWith budget state).result = .ok (.suspended reason) →
    Frame.inLoop (i.runWith budget state).instanceAfter.cursor = true → reason = .budget

/-- The moments that a run comes to from one of its moments are of the run. -/
theorem InRun.of_loopSteps {x y : Moment α σ} (h : i.InRun budget state x)
    (hsteps : Relation.ReflTransGen i.LoopStep x y) : i.InRun budget state y := by
  induction hsteps with
  | refl => exact h
  | tail _ hstep ih => exact .goesOn ih hstep.1

/-- **In loops over entities the world is left alone.** -/
theorem Made.calmInLoops (hmade : i.Made) (budget : Nat) (state : σ) :
    i.CalmInLoops budget state where
  no_action x hx hloop s hat := by
    have hquiet := Statement.containsAction_of_inLoop (hx.check hmade) hat hloop
    cases haction : s.isAction with
    | false => rfl
    | true =>
      rw [Statement.containsAction_of_isAction haction] at hquiet
      cases hquiet
  not_asked x hx hloop actionPoints actionCost perform :=
    Statement.Stands.advance_withActions actionPoints actionCost perform (hx.stands hmade)
      (hx.check hmade) hloop x.machine
  untouched x y hx hsteps := by
    induction hsteps with
    | refl => exact .refl _
    | @tail y z hxy hstep ih =>
      have hy := hx.of_loopSteps hxy
      have hcalm : (i.program.root.advance y.cursor y.machine).Calm y.machine := by
        refine (hy.stands hmade).calm (hy.check hmade) (hstep.2.imp id fun hloop => ?_)
        exact ⟨z.cursor, congrArg Advance.cursor? hstep.1, hloop⟩
      rw [hstep.1] at hcalm
      exact ih.trans hcalm.untouched
  untouched_of_ended x flow m hx hloop hend := by
    have hcalm := (hx.stands hmade).calm (m := x.machine) (hx.check hmade) (.inl hloop)
    rw [hend] at hcalm
    exact hcalm.untouched
  eq_budget reason hresult hloop := by
    obtain ⟨worm, hready⟩ : ∃ worm, i.readyWorm state = .ok worm := by
      cases hready : i.readyWorm state with
      | ok worm => exact ⟨worm, rfl⟩
      | error e =>
        rw [runWith_refused hready] at hresult
        cases hresult
    obtain ⟨x, flow, m, hx, hend, hrun⟩ := hmade.run_moments hready budget
    rw [hrun] at hresult hloop
    cases flow with
    | suspended reason' cursor =>
      obtain rfl : reason' = reason := Outcome.suspended.inj (Except.ok.inj hresult)
      have hcalm := (hx.stands hmade).calm (m := x.machine) (hx.check hmade)
        (.inr ⟨cursor, congrArg Advance.cursor? hend, hloop⟩)
      rw [hend] at hcalm
      cases hcalm
      rfl
    | done | wormDied | failed => cases hresult

/-- A run that begins in a loop, takes a step in it, and is suspended in it. -/
theorem calmInLoops_lookingAround :
    let i := (lookingAround.runWith 1 Simulation.gazing).instanceAfter
    (∃ x y : Moment Rat (Simulation Rat), i.InRun 1 Simulation.gazing x ∧ i.LoopStep x y ∧
      Frame.inLoop x.cursor = true ∧ x.machine.budget = 1 ∧ y.machine.budget = 0 ∧
      x.machine.Untouched y.machine) ∧
    (i.runWith 1 Simulation.gazing).result = .ok (.suspended .budget) ∧
    Frame.inLoop (i.runWith 1 Simulation.gazing).instanceAfter.cursor = true ∧
    i.CalmInLoops 1 Simulation.gazing := by
  intro i
  have hmade : i.Made := .run 1 Simulation.gazing (.bind _ (.of _ 10 true))
  have hready : i.readyWorm Simulation.gazing = .ok ⟨1⟩ := by decide +kernel
  have hloop : Frame.inLoop i.cursor = true := by decide +kernel
  have hcalm : i.CalmInLoops 1 Simulation.gazing := hmade.calmInLoops 1 Simulation.gazing
  have hbegins : i.InRun 1 Simulation.gazing (i.start ⟨1⟩ 1 Simulation.gazing) := .begins hready
  refine ⟨⟨i.start ⟨1⟩ 1 Simulation.gazing, ?_⟩, by decide +kernel, by decide +kernel, hcalm⟩
  cases hstep : i.program.root.advance i.cursor (i.start ⟨1⟩ 1 Simulation.gazing).machine with
  | onward y =>
    have hspent : (i.program.root.advance i.cursor
        (i.start ⟨1⟩ 1 Simulation.gazing).machine).machine.budget = 0 := by decide +kernel
    rw [hstep] at hspent
    have hin : i.LoopStep (i.start ⟨1⟩ 1 Simulation.gazing) y := ⟨hstep, .inl hloop⟩
    exact ⟨y, hbegins, hin, hloop, rfl, hspent, hcalm.untouched _ y hbegins (.single hin)⟩
  | ended flow m =>
    have hgoes : Advance.casesOn (motive := fun _ => Bool) (i.program.root.advance i.cursor
        (i.start ⟨1⟩ 1 Simulation.gazing).machine) (fun _ => true) (fun _ _ => false) = true := by
      decide +kernel
    rw [hstep] at hgoes
    cases hgoes

end ProgramInstance

end WormBattle
