import WormBattle.Proofs.Execution.Reference

/-!
# Steps of the reference machine

What a step can come to, in a form that is proved combinator by combinator: `Next.All P Q` says
that a step which goes on does so in a state of `P`, and one that stops does so in a state of `Q`.
Along a run, what each step keeps is kept (`Reaches.keeps`).

What a step can do to the machine, whatever the work, is said once: `Machine.Onward` if it goes on,
`Machine.Halted` if it stops (`all_step_machine`).
-/

namespace WormBattle

variable {α σ : Type}

/-- If the machine goes on, then with `P`; if it stops, then with `Q`. -/
def Next.All (P : List (Work α) → Machine α σ → Prop) (Q : Stop α → Machine α σ → Prop) :
    Next α σ → Prop
  | .go work m => P work m
  | .stop cause m => Q cause m

/-- What holds after a step may be replaced by something that follows from it. -/
theorem Next.All.mono {P P' : List (Work α) → Machine α σ → Prop}
    {Q Q' : Stop α → Machine α σ → Prop} {next : Next α σ} (h : next.All P Q)
    (hP : ∀ work m, P work m → P' work m) (hQ : ∀ stop m, Q stop m → Q' stop m) :
    next.All P' Q' := by
  cases next with
  | go work m => exact hP work m h
  | stop stop m => exact hQ stop m h

/-- How the machine stands after a step with which it goes on. -/
inductive Machine.Onward [Environment α σ] (m : Machine α σ) : Machine α σ → Prop where
  /-- At most the budget is touched. -/
  | spent {left : Nat} : left ≤ m.budget → Onward m { m with budget := left }
  /-- A variable has got a value. -/
  | assigned {left : Nat} (name : String) (value : Value α) : left ≤ m.budget →
      Onward m (({ m with budget := left } : Machine α σ).setGlobal name value)
  /-- A value has been printed. -/
  | printed {left : Nat} (value : Value α) : left ≤ m.budget →
      Onward m { m with budget := left, trace := .printed value :: m.trace }
  /-- An action has been refused. -/
  | refused {left : Nat} {action : Action α} {e : Error α} {state : σ} : left ≤ m.budget →
      Environment.perform m.state m.worm action = (.error e, state) →
      Onward m { m with budget := left, state, trace := .asked m.worm action :: m.trace }
  /-- An action has been done, and the worm is still there. -/
  | done {left : Nat} {action : Action α} {state : σ} : left ≤ m.budget →
      Environment.perform m.state m.worm action = (.ok (), state) →
      (Environment.view state).kindOf m.worm = some .worm →
      Onward m { m with
        budget := left, state, trace := .done m.worm action :: .asked m.worm action :: m.trace }

/-- How the machine stands when it stops. -/
inductive Machine.Halted [Environment α σ] (m : Machine α σ) : Stop α → Machine α σ → Prop where
  /-- Nothing has happened in the step. It stops for want of units only if there are none. -/
  | idle {left : Nat} {stop : Stop α} : left ≤ m.budget → stop ≠ .wormDied →
      (stop = .suspended .budget → left = 0) → Halted m stop { m with budget := left }
  /-- The worm has died of an action. -/
  | died {left : Nat} {action : Action α} {state : σ} : left ≤ m.budget →
      Environment.perform m.state m.worm action = (.ok (), state) →
      (Environment.view state).kindOf m.worm ≠ some .worm →
      Halted m .wormDied { m with
        budget := left, state, trace := .done m.worm action :: .asked m.worm action :: m.trace }

/-- A property of worlds under which a worm is there for as long as its program goes on: actions
keep the property, and an action that is refused does not take out the worm that asked for it. -/
structure Environment.KeepsWorm [Environment α σ] (Inv : σ → Prop) : Prop where
  keeps : ∀ {state : σ} (worm : EntityId) (action : Action α), Inv state →
    Inv (Environment.perform state worm action).2
  stays : ∀ {state state' : σ} {worm : EntityId} {action : Action α} {e : Error α}, Inv state →
    (Environment.view state).kindOf worm = some .worm →
      Environment.perform state worm action = (.error e, state') →
        (Environment.view state').kindOf worm = some .worm

/-- Nobody looks for the worm after a refusal, so that it stays is up to the world. -/
theorem Machine.Onward.keepsWorm [Environment α σ] {Inv : σ → Prop} {m m' : Machine α σ}
    (honward : m.Onward m') (hkeeps : Environment.KeepsWorm Inv)
    (hm : Inv m.state ∧ m.kindOf m.worm = some .worm) :
    Inv m'.state ∧ m'.kindOf m'.worm = some .worm := by
  obtain ⟨hinv, hthere⟩ := hm
  have hacts : ∀ {action : Action α} {result : Except (Error α) Unit} {state : σ},
      Environment.perform m.state m.worm action = (result, state) → Inv state := by
    intro action result state hact
    have hkept := hkeeps.keeps m.worm action hinv
    rwa [hact] at hkept
  cases honward with
  | spent _ | assigned _ _ _ | printed _ _ => exact ⟨hinv, hthere⟩
  | refused _ hact => exact ⟨hacts hact, hkeeps.stays hinv hthere hact⟩
  | done _ hact hkind => exact ⟨hacts hact, hkind⟩

namespace Reference

variable {P : List (Work α) → Machine α σ → Prop} {Q : Stop α → Machine α σ → Prop}
  {m m' : Machine α σ} {work work' rest : List (Work α)} {stop : Stop α}

/-- What holds after a step that costs a unit: it stops for want of one, or it goes on with one
less. -/
theorem all_pay {go : Machine α σ → Next α σ}
    (hstop : m.budget = 0 → Q (.suspended .budget) m)
    (hgo : ∀ left, m.budget = left + 1 → (go { m with budget := left }).All P Q) :
    (pay m go).All P Q := by
  rw [pay]
  split
  · exact hstop ‹_›
  · exact hgo _ ‹_›

/-- What holds after a step that needs a value: it fails, or it goes on with the value. -/
theorem all_require {β : Type} {value : Except (Error α) β} {go : β → Next α σ}
    (hstop : ∀ e, value = .error e → Q (.failed e) m)
    (hgo : ∀ v, value = .ok v → (go v).All P Q) : (require m value go).All P Q := by
  cases value with
  | ok v => exact hgo v rfl
  | error e => exact hstop e rfl

variable [Environment α σ]

/-- Asking for an action has three ends: it is refused, it is done and the worm lives, or the worm
has died of it. -/
theorem all_ask {action : Action α}
    (hrefused : ∀ e state, Environment.perform m.state m.worm action = (.error e, state) →
      P rest { m with state, trace := .asked m.worm action :: m.trace })
    (hdone : ∀ state, Environment.perform m.state m.worm action = (.ok (), state) →
      (Environment.view state).kindOf m.worm = some .worm →
      P rest { m with state, trace := .done m.worm action :: .asked m.worm action :: m.trace })
    (hdied : ∀ state, Environment.perform m.state m.worm action = (.ok (), state) →
      (Environment.view state).kindOf m.worm ≠ some .worm →
      Q .wormDied
        { m with state, trace := .done m.worm action :: .asked m.worm action :: m.trace }) :
    (ask m action rest).All P Q := by
  rw [ask]
  split
  · exact hrefused _ _ ‹_›
  · dsimp only
    split
    · exact hdone _ ‹_› ‹_›
    · exact hdied _ ‹_› ‹_›

/-- An action is passed over, put off, fails, or is asked for. -/
theorem all_act {action : Action α} (hspent : m.budget = 0 → Q (.suspended .budget) m)
    (hpassed : ∀ left, m.budget = left + 1 → P rest { m with budget := left })
    (hpoints : ∀ e, Environment.actionPoints m.state m.worm = .error e → Q (.failed e) m)
    (hpoor : ∀ needed available, Environment.actionCost m.state m.worm action = .ok needed →
      Environment.actionPoints m.state m.worm = .ok available → available < needed →
      Q (.suspended (.actionPoints needed available)) m)
    (hask : ∀ left, m.budget = left + 1 →
      (ask { m with budget := left } action rest).All P Q) : (act m action rest).All P Q := by
  rw [act]
  split
  · exact all_pay hspent hpassed
  · refine all_require hpoints fun available havailable => ?_
    split
    · exact hpoor _ _ ‹_› havailable ‹_›
    · exact all_pay hspent hask

/-! ### What is done to the machine -/

private theorem onward_of_paid {left : Nat} (h : m.budget = left + 1) :
    m.Onward { m with budget := left } :=
  .spent (by omega)

private theorem onward_refl : m.Onward m :=
  .spent (Nat.le_refl _)

private theorem halted_of_failed {e : Error α} : m.Halted (.failed e) m :=
  .idle (Nat.le_refl _) nofun nofun

private theorem halted_of_spent (h : m.budget = 0) : m.Halted (.suspended .budget) m :=
  .idle (Nat.le_refl _) nofun fun _ => h

private theorem halted_of_poor {needed available : Nat} :
    m.Halted (.suspended (.actionPoints needed available)) m :=
  .idle (Nat.le_refl _) nofun nofun

private theorem all_act_machine {action : Action α} :
    (act m action rest).All (fun _ => m.Onward) m.Halted := by
  refine all_act halted_of_spent (fun _ => onward_of_paid)
    (fun _ _ => halted_of_failed) (fun _ _ _ _ _ => halted_of_poor) fun left hleft => ?_
  have hle : left ≤ m.budget := by omega
  exact all_ask (fun _ _ => .refused hle) (fun _ => .done hle) fun _ => .died hle

/-- No step adds to the budget. -/
theorem budget_le_of_onward (h : m.Onward m') : m'.budget ≤ m.budget := by
  cases h <;> assumption

/-! ### Runs -/

variable [Scalar α]

/-- No step at all. -/
theorem Reaches.refl (c : List (Work α) × Machine α σ) : Reaches c c :=
  Relation.ReflTransGen.refl

/-- One step before the others. -/
theorem Reaches.head {c : List (Work α) × Machine α σ} (h : step work m = .go work' m')
    (h' : Reaches (work', m') c) : Reaches (work, m) c :=
  Relation.ReflTransGen.head h h'

/-- Steps after steps. -/
theorem Reaches.trans {c c' c'' : List (Work α) × Machine α σ} (h : Reaches c c')
    (h' : Reaches c' c'') : Reaches c c'' :=
  Relation.ReflTransGen.trans h h'

/-- A step that stops. -/
theorem Halts.of_step (h : step work m = .stop stop m') : Halts (work, m) stop work m' :=
  ⟨m, Reaches.refl _, h⟩

/-- Steps before those that stop. -/
theorem Halts.of_reaches {c c' : List (Work α) × Machine α σ} (h : Reaches c c')
    (h' : Halts c' stop work m) : Halts c stop work m := by
  obtain ⟨before, hreach, hstop⟩ := h'
  exact ⟨before, h.trans hreach, hstop⟩

/-- What every step keeps is kept by a run. -/
theorem Reaches.keeps {P : List (Work α) → Machine α σ → Prop} {c c' : List (Work α) × Machine α σ}
    (hstep : ∀ work m, P work m → (step work m).All P fun _ _ => True) (h : Reaches c c')
    (hP : P c.1 c.2) : P c'.1 c'.2 := by
  induction h with
  | refl => exact hP
  | tail _ hgo ih =>
    have hnext := hstep _ _ ih
    rw [hgo] at hnext
    exact hnext

/-- The machine is deterministic: it stops in at most one way. -/
theorem Halts.unique {c : List (Work α) × Machine α σ} {stop' : Stop α}
    (h : Halts c stop work m) (h' : Halts c stop' work' m') :
    stop = stop' ∧ work = work' ∧ m = m' := by
  obtain ⟨before, hreach, hstop⟩ := h
  obtain ⟨before', hreach', hstop'⟩ := h'
  -- Step by step from the start: two runs make the same step as long as neither stops.
  induction hreach using Relation.ReflTransGen.head_induction_on with
  | refl =>
    rcases hreach'.cases_head with heq | ⟨d, hd, -⟩
    · obtain ⟨rfl, rfl⟩ := Prod.mk.inj heq
      rw [hstop] at hstop'
      obtain ⟨rfl, rfl⟩ := Next.stop.inj hstop'
      exact ⟨rfl, rfl, rfl⟩
    · rw [hstop] at hd
      cases hd
  | head hgo _ ih =>
    rcases hreach'.cases_head with rfl | ⟨d, hd, hreach'⟩
    · rw [hstop'] at hgo
      cases hgo
    · rw [hgo] at hd
      obtain ⟨hw, hm⟩ := Next.go.inj hd
      exact ih (Prod.ext hw hm ▸ hreach')

/-! ### All steps -/

/-- **What a step can do**, whatever work it does. -/
theorem all_step_machine (work : List (Work α)) (m : Machine α σ) :
    (step work m).All (fun _ => m.Onward) m.Halted := by
  have hpaid : ∀ {left}, m.budget = left + 1 → left ≤ m.budget := fun h => by omega
  have hfailed : ∀ {left : Nat} {e : Error α}, m.budget = left + 1 →
      m.Halted (.failed e) { m with budget := left } := fun h => .idle (hpaid h) nofun nofun
  rcases work with - | ⟨s | ⟨condition, body⟩ | ⟨current, ids, name, body⟩, rest⟩
  · exact .idle (Nat.le_refl _) nofun nofun
  · rw [step]
    cases s with
    | skip => exact all_pay halted_of_spent fun _ => onward_of_paid
    | assign name value =>
      rw [stepStatement]
      refine all_pay halted_of_spent fun left hleft => ?_
      refine all_require (fun _ _ => hfailed hleft) fun v _ => ?_
      exact all_require (fun _ _ => hfailed hleft) fun _ _ => .assigned name v (hpaid hleft)
    | print value =>
      rw [stepStatement]
      refine all_pay halted_of_spent fun left hleft => ?_
      exact all_require (fun _ _ => hfailed hleft) fun v _ => .printed v (hpaid hleft)
    | turn angle => exact all_require (fun _ _ => halted_of_failed) fun x _ => all_act_machine
    | move => exact all_act_machine
    | jump => exact all_act_machine
    | toggleWeapon => exact all_act_machine
    | fire yieldPercent =>
      refine all_require (fun _ _ => halted_of_failed) fun x _ => ?_
      split
      · exact all_act_machine
      · exact all_pay halted_of_spent fun _ => onward_of_paid
    | ifElse condition then_ otherwise =>
      rw [stepStatement]
      refine all_pay halted_of_spent fun left hleft => ?_
      exact all_require (fun _ _ => hfailed hleft) fun holds _ => onward_of_paid hleft
    | whileLoop condition body => exact onward_refl
    | forEach filter name body => exact onward_refl
    | sequence statements => exact onward_refl
  · rw [step]
    refine all_pay halted_of_spent fun left hleft => ?_
    refine all_require (fun _ _ => hfailed hleft) fun holds _ => ?_
    cases holds <;> exact onward_of_paid hleft
  · rcases current with - | id
    · cases ids with
      | nil => exact onward_refl
      | cons id ids =>
        rw [step]
        split
        · exact onward_refl
        · exact all_pay halted_of_spent fun left hleft =>
            .assigned name _ (hpaid hleft)
    · exact onward_refl

/-- What holds of the machine whatever a step does to it, holds at every point of a run. -/
theorem Reaches.keeps_machine {P : Machine α σ → Prop} {c c' : List (Work α) × Machine α σ}
    (hstep : ∀ m m', P m → m.Onward m' → P m') (h : Reaches c c') (hP : P c.2) : P c'.2 := by
  refine h.keeps (P := fun _ m => P m) (fun work m hm => ?_) hP
  exact (all_step_machine work m).mono (fun _ m' => hstep m m' hm) fun _ _ _ => trivial

/-- What holds of the machine at every point of a run decides what can hold at its end. -/
theorem Halts.keeps_machine {P : Machine α σ → Prop} {Q : Stop α → Machine α σ → Prop}
    {c : List (Work α) × Machine α σ} (hstep : ∀ m m', P m → m.Onward m' → P m')
    (hstop : ∀ m stop m', P m → m.Halted stop m' → Q stop m') (h : Halts c stop work m)
    (hP : P c.2) : Q stop m := by
  obtain ⟨before, hreach, hend⟩ := h
  have hhalted := all_step_machine work before
  rw [hend] at hhalted
  exact hstop before stop m (hreach.keeps_machine hstep hP) hhalted

/-- A run does not add to the budget. -/
theorem Reaches.budget_le (h : Reaches (work, m) (work', m')) : m'.budget ≤ m.budget :=
  h.keeps_machine (P := fun m' => m'.budget ≤ m.budget)
    (fun _ _ hle honward => Nat.le_trans (budget_le_of_onward honward) hle) (Nat.le_refl _)

end Reference

end WormBattle
