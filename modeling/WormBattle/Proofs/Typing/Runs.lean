import WormBattle.Proofs.Execution.Made
import WormBattle.Proofs.Typing.Evaluation

/-!
# Runs keep their types

The work that the reference machine has left of a well-formed program is well-formed
(`Work.Checked`), and its variables have their declared kinds. Every step keeps this
(`Reference.typed_step`), so every run of an instance does, suspended or not, and a run can only
fail for a reason that lies in the world (`Machine.Failure`).
-/

namespace WormBattle

variable {α σ : Type} [Scalar α] [Environment α σ]

/-! ### Checked work -/

omit [Scalar α] in
private theorem Expression.check_eq_ok_iff {declared : Globals α} {role : Role}
    {expected : ValueType} {e : Expression α} :
    e.check declared role expected = .ok () ↔ e.typeOf declared = .ok expected := by
  rw [check, bind_eq_ok_iff]
  constructor
  · rintro ⟨found, hfound, hcheck⟩
    rw [hfound, checkType_eq_ok_iff.mp hcheck]
  · exact fun h => ⟨expected, h, checkType_eq_ok_iff.mpr rfl⟩

/-- Work that comes from a program without defects. -/
def Work.Checked (declared : Globals α) : Work α → Prop
  | statement s => s.check declared = .ok ()
  | retest condition body => condition.typeOf declared = .ok .bool ∧ body.check declared = .ok ()
  | items _ _ name body => declared.type? name = some .entity ∧ body.check declared = .ok ()

omit [Scalar α] in
/-- The statements of a checked list are checked work. -/
theorem Statement.checked_of_checkAll {declared : Globals α} {statements : List (Statement α)}
    (h : checkAll declared statements = .ok ()) :
    ∀ work ∈ statements.map Work.statement, work.Checked declared := by
  induction statements with
  | nil => simp
  | cons s rest ih =>
    rw [checkAll, bind_eq_ok_iff] at h
    obtain ⟨⟨⟩, hs, hrest⟩ := h
    rw [List.map_cons]
    exact List.forall_mem_cons.mpr ⟨hs, ih hrest⟩

omit [Scalar α] in
/-- Beginning a run takes nothing but work that was there. -/
theorem Work.checked_resume {declared : Globals α} (view : View α) {work : List (Work α)}
    (h : ∀ w ∈ work, w.Checked declared) : ∀ w ∈ resume view work, w.Checked declared := by
  induction work with
  | nil => simp [resume]
  | cons w rest ih =>
    obtain ⟨hw, hrest⟩ := List.forall_mem_cons.mp h
    rw [resume]
    split
    · exact ih hrest
    · split
      · refine List.forall_mem_cons.mpr ⟨?_, hrest⟩
        cases w <;> exact hw
      · exact h

/-! ### Steps -/

/-- What a program of the machine can see. -/
def Machine.scope (m : Machine α σ) : Scope α :=
  ⟨m.globals, some m.worm, some (Environment.view m.state)⟩

/-- The reasons for which a run of a program without defects may fail. -/
inductive Machine.Failure (m : Machine α σ) : Error α → Prop where
  /-- An expression fails. -/
  | expression {e : Error α} : m.scope.Failure e → Failure m e
  /-- The world does not tell the action points of the worm. -/
  | actionPoints {e : Error α} : Environment.actionPoints m.state m.worm = .error e → Failure m e

/-- The variables of a machine have their declared kinds, and every value that was assigned had the
declared kind of its variable. -/
structure Machine.Typed (declared : Globals α) (m : Machine α σ) : Prop where
  signature : m.globals.signature = declared.signature
  assigned : ∀ name value, .assigned name value ∈ m.trace → declared.type? name = some value.type

namespace Machine

variable {declared : Globals α} {m : Machine α σ} {e : Expression α} {left : Nat}

omit [Scalar α] [Environment α σ] in
private theorem Typed.spend (h : m.Typed declared) :
    ({ m with budget := left } : Machine α σ).Typed declared :=
  ⟨h.signature, h.assigned⟩

omit [Scalar α] [Environment α σ] in
private theorem Typed.setGlobal {name : String} {value : Value α} (h : m.Typed declared)
    (hname : declared.type? name = some value.type) : (m.setGlobal name value).Typed declared := by
  refine ⟨?_, fun n v hmem => ?_⟩
  · have htype : m.globals.type? name = some value.type :=
      (Globals.type?_congr h.signature name).trans hname
    exact (Globals.signature_insert htype).trans h.signature
  · rcases List.mem_cons.mp hmem with heq | hmem
    · cases heq
      exact hname
    · exact h.assigned n v hmem

omit [Scalar α] [Environment α σ] in
/-- A variable can take a value of its declared kind. -/
theorem Typed.checkAssignment (h : m.Typed declared) {name : String} {value : Value α}
    (hname : declared.type? name = some value.type) : m.checkAssignment name value = .ok () := by
  have htype : m.globals.type? name = some value.type :=
    (Globals.type?_congr h.signature name).trans hname
  rw [Globals.type?] at htype
  rw [Machine.checkAssignment]
  cases hget : m.globals.get? name with
  | none => simp [hget] at htype
  | some old =>
    rw [hget] at htype
    simpa using htype

private theorem Typed.eval (h : m.Typed declared) {type : ValueType}
    (he : e.typeOf declared = .ok type) : m.scope.Yields (fun v => v.type = type) (m.eval e) := by
  have hsignature : m.scope.globals.signature = declared.signature := h.signature
  exact Expression.eval_yields hsignature he

private theorem Typed.evalDouble (h : m.Typed declared) (he : e.typeOf declared = .ok .double) :
    m.scope.Yields (fun _ => True) (m.evalDouble e) :=
  (h.eval he).bind fun _ => Scope.yields_toDouble

private theorem Typed.evalBool (h : m.Typed declared) (he : e.typeOf declared = .ok .bool) :
    m.scope.Yields (fun _ => True) (m.evalBool e) :=
  (h.eval he).bind fun _ => Scope.yields_toBool

omit [Scalar α] in
/-- An expression that fails gives the reason, however many units are left. -/
theorem Typed.failed (h : m.Typed declared) (err : Error α) (herr : m.scope.Failure err) :
    ({ m with budget := left } : Machine α σ).Typed declared ∧
      ∀ e', Stop.failed err = .failed e' → m.Failure e' := by
  refine ⟨h.spend, ?_⟩
  rintro _ ⟨⟩
  exact .expression herr

omit [Scalar α] in
/-- A suspension is no failure. -/
theorem Typed.suspended (h : m.Typed declared) {reason : SuspendReason} {m₀ : Machine α σ} :
    m.Typed declared ∧ ∀ e, Stop.suspended reason = .failed e → m₀.Failure e :=
  ⟨h, fun _ h => by cases h⟩

end Machine

namespace Reference

variable {declared : Globals α} {m : Machine α σ} {work rest : List (Work α)}

/-- How the machine goes on. -/
def Typed (declared : Globals α) (work : List (Work α)) (m : Machine α σ) : Prop :=
  (∀ w ∈ work, w.Checked declared) ∧ m.Typed declared

/-- A step keeps the types, and it only fails for a reason that lies in the world. -/
@[reducible] def KeepsTypes (declared : Globals α) (m : Machine α σ) (next : Next α σ) : Prop :=
  next.All (Typed declared) fun stop m' =>
    m'.Typed declared ∧ ∀ e, stop = .failed e → m.Failure e

omit [Scalar α] in
private theorem typed_act {action : Action α} (h : Typed declared rest m) :
    KeepsTypes declared m (act m action rest) := by
  have hnoted : ∀ {m' : Machine α σ}, m'.globals = m.globals →
      (∀ name value, .assigned name value ∈ m'.trace → .assigned name value ∈ m.trace) →
      m'.Typed declared := by
    intro m' hglobals htrace
    exact ⟨hglobals ▸ h.2.signature, fun n v hmem => h.2.assigned n v (htrace n v hmem)⟩
  refine all_act (fun _ => h.2.suspended) (fun _ _ => ⟨h.1, h.2.spend⟩) (fun e he => ⟨h.2, ?_⟩)
    (fun _ _ _ _ _ => h.2.suspended) fun left _ => ?_
  · rintro _ ⟨⟩
    exact .actionPoints he
  · refine all_ask (fun e state _ => ⟨h.1, hnoted rfl ?_⟩) (fun state _ _ => ⟨h.1, hnoted rfl ?_⟩)
      fun state _ _ => ⟨hnoted rfl ?_, fun _ h => by cases h⟩
    all_goals simp

omit [Scalar α] in
private theorem require_yields {β : Type} {value : Except (Error α) β} {P : β → Prop}
    {go : β → Next α σ} {P' : List (Work α) → Machine α σ → Prop} {Q' : Stop α → Machine α σ → Prop}
    (hvalue : m.scope.Yields P value) (hstop : ∀ e, m.scope.Failure e → Q' (.failed e) m)
    (hgo : ∀ v, P v → (go v).All P' Q') : (require m value go).All P' Q' := by
  cases value with
  | ok v => exact hgo v hvalue
  | error e => exact hstop e hvalue

section Statements

variable {name : String} {e : Expression α} {body then_ otherwise : Statement α}

private theorem typed_assign (h : Typed declared rest m)
    (hs : (Statement.assign name e).check declared = .ok ()) :
    KeepsTypes declared m (stepStatement m rest (.assign name e)) := by
  rw [Statement.check] at hs
  cases htype : declared.type? name with
  | none => simp [htype] at hs
  | some type =>
    rw [htype] at hs
    rw [stepStatement]
    refine all_pay (fun _ => h.2.suspended) fun left _ => ?_
    refine require_yields (h.2.spend.eval (Expression.check_eq_ok_iff.mp hs)) h.2.failed
      fun v hv => ?_
    -- The value is of the declared kind, so the check of the assignment passes.
    rw [← hv] at htype
    rw [h.2.spend.checkAssignment htype]
    exact ⟨h.1, h.2.spend.setGlobal htype⟩

private theorem typed_print (h : Typed declared rest m)
    (hs : (Statement.print e).check declared = .ok ()) :
    KeepsTypes declared m (stepStatement m rest (.print e)) := by
  obtain ⟨type, hvalue, -⟩ := bind_eq_ok_iff.mp hs
  rw [stepStatement]
  refine all_pay (fun _ => h.2.suspended) fun left _ => ?_
  refine require_yields (h.2.spend.eval hvalue) h.2.failed fun v _ => ⟨h.1, h.2.signature, ?_⟩
  simpa using h.2.assigned

private theorem typed_turn (h : Typed declared rest m)
    (hs : (Statement.turn e).check declared = .ok ()) :
    KeepsTypes declared m (stepStatement m rest (.turn e)) :=
  require_yields (h.2.evalDouble (Expression.check_eq_ok_iff.mp hs)) h.2.failed
    fun _ _ => typed_act h

private theorem typed_fire (h : Typed declared rest m)
    (hs : (Statement.fire e).check declared = .ok ()) :
    KeepsTypes declared m (stepStatement m rest (.fire e)) := by
  refine require_yields (h.2.evalDouble (Expression.check_eq_ok_iff.mp hs)) h.2.failed
    fun x _ => ?_
  split
  · exact typed_act h
  · exact all_pay (fun _ => h.2.suspended) fun _ _ => ⟨h.1, h.2.spend⟩

private theorem typed_ifElse (h : Typed declared rest m)
    (hs : (Statement.ifElse e then_ otherwise).check declared = .ok ()) :
    KeepsTypes declared m (stepStatement m rest (.ifElse e then_ otherwise)) := by
  rw [Statement.check, bind_eq_ok_iff] at hs
  obtain ⟨⟨⟩, hcondition, hs⟩ := hs
  obtain ⟨⟨⟩, hthen, hotherwise⟩ := bind_eq_ok_iff.mp hs
  rw [stepStatement]
  refine all_pay (fun _ => h.2.suspended) fun left _ => ?_
  refine require_yields (h.2.spend.evalBool (Expression.check_eq_ok_iff.mp hcondition)) h.2.failed
    fun holds _ => ⟨List.forall_mem_cons.mpr ⟨?_, h.1⟩, h.2.spend⟩
  cases holds
  · exact hotherwise
  · exact hthen

private theorem typed_whileLoop (h : Typed declared rest m)
    (hs : (Statement.whileLoop e body).check declared = .ok ()) :
    KeepsTypes declared m (stepStatement m rest (.whileLoop e body)) := by
  rw [Statement.check, bind_eq_ok_iff] at hs
  obtain ⟨⟨⟩, hcondition, hbody⟩ := hs
  have hloop : (Work.retest e body).Checked declared :=
    ⟨Expression.check_eq_ok_iff.mp hcondition, hbody⟩
  exact ⟨List.forall_mem_cons.mpr ⟨hloop, h.1⟩, h.2⟩

private theorem typed_forEach {filter : EntityFilter} (h : Typed declared rest m)
    (hs : (Statement.forEach filter name body).check declared = .ok ()) :
    KeepsTypes declared m (stepStatement m rest (.forEach filter name body)) := by
  have hloop : declared.type? name = some .entity ∧ body.check declared = .ok () := by
    rw [Statement.check] at hs
    split at hs
    · rename_i htype
      split at hs
      · cases hs
      · exact ⟨htype, hs⟩
    · cases hs
    · cases hs
  exact ⟨List.forall_mem_cons.mpr ⟨hloop, h.1⟩, h.2⟩

private theorem typed_sequence {statements : List (Statement α)} (h : Typed declared rest m)
    (hs : (Statement.sequence statements).check declared = .ok ()) :
    KeepsTypes declared m (stepStatement m rest (.sequence statements)) := by
  rw [Statement.check] at hs
  refine ⟨fun w hw => ?_, h.2⟩
  rcases List.mem_append.mp hw with hw | hw
  · exact Statement.checked_of_checkAll hs w hw
  · exact h.1 w hw

/-- The first step of a statement. -/
theorem typed_statement {s : Statement α} (h : Typed declared rest m)
    (hs : s.check declared = .ok ()) : KeepsTypes declared m (stepStatement m rest s) := by
  cases s with
  | skip => exact all_pay (fun _ => h.2.suspended) fun _ _ => ⟨h.1, h.2.spend⟩
  | assign name value => exact typed_assign h hs
  | print value => exact typed_print h hs
  | turn angle => exact typed_turn h hs
  | move => exact typed_act h
  | jump => exact typed_act h
  | toggleWeapon => exact typed_act h
  | fire yieldPercent => exact typed_fire h hs
  | ifElse condition then_ otherwise => exact typed_ifElse h hs
  | whileLoop condition body => exact typed_whileLoop h hs
  | forEach filter name body => exact typed_forEach h hs
  | sequence statements => exact typed_sequence h hs

end Statements

/-- A round of a loop on a condition. -/
theorem typed_retest {condition : Expression α} {body : Statement α}
    (h : Typed declared (.retest condition body :: rest) m) :
    KeepsTypes declared m (step (.retest condition body :: rest) m) := by
  obtain ⟨⟨hcondition, hbody⟩, hrest⟩ := List.forall_mem_cons.mp h.1
  rw [step]
  refine all_pay (fun _ => h.2.suspended) fun left _ => ?_
  refine require_yields (h.2.spend.evalBool hcondition) h.2.failed fun holds _ => ?_
  cases holds with
  | false => exact ⟨hrest, h.2.spend⟩
  | true => exact ⟨List.forall_mem_cons.mpr ⟨hbody, h.1⟩, h.2.spend⟩

/-- An item of a loop over entities. -/
theorem typed_items {current : Option EntityId} {ids : List EntityId} {name : String}
    {body : Statement α} (h : Typed declared (.items current ids name body :: rest) m) :
    KeepsTypes declared m (step (.items current ids name body :: rest) m) := by
  obtain ⟨⟨hname, hbody⟩, hrest⟩ := List.forall_mem_cons.mp h.1
  have hloop : ∀ current ids, ∀ w ∈ .items current ids name body :: rest, w.Checked declared :=
    fun _ _ => List.forall_mem_cons.mpr ⟨⟨hname, hbody⟩, hrest⟩
  rcases current with - | id
  · cases ids with
    | nil => exact ⟨hrest, h.2⟩
    | cons id ids =>
      rw [step]
      split
      · exact ⟨hloop none ids, h.2⟩
      · -- The variable of the loop is assigned without a check, but only entities.
        refine all_pay (fun _ => h.2.suspended) fun left _ => ?_
        exact ⟨List.forall_mem_cons.mpr ⟨hbody, hloop (some id) ids⟩, h.2.spend.setGlobal hname⟩
  · exact ⟨hloop none ids, h.2⟩

/-- **Every step keeps the types**, and a step only fails for a reason that lies in the world. -/
theorem typed_step (h : Typed declared work m) : KeepsTypes declared m (step work m) := by
  rcases work with - | ⟨s | ⟨condition, body⟩ | ⟨current, ids, name, body⟩, rest⟩
  · exact ⟨h.2, fun _ h => by cases h⟩
  · obtain ⟨hs, hrest⟩ := List.forall_mem_cons.mp h.1
    exact typed_statement ⟨hrest, h.2⟩ hs
  · exact typed_retest h
  · exact typed_items h

/-! ### Runs -/

variable {m' : Machine α σ} {work' : List (Work α)} {stop : Stop α} {e : Error α}

/-- A run keeps the types up to its end. -/
theorem Halts.typed {c : List (Work α) × Machine α σ} (h : Halts c stop work m)
    (hc : Typed declared c.1 c.2) : Typed declared work m := by
  obtain ⟨before, hreach, hstop⟩ := h
  have hbefore : Typed declared work before :=
    hreach.keeps (fun _ _ h => (typed_step h).mono (fun _ _ h => h) fun _ _ _ => trivial) hc
  have hafter := typed_step hbefore
  rw [hstop] at hafter
  exact ⟨hbefore.1, hafter.1⟩

/-- A run that fails does so at a point where the world gives the reason. -/
theorem Halts.failure {c : List (Work α) × Machine α σ} (h : Halts c (.failed e) work m)
    (hc : Typed declared c.1 c.2) : ∃ before, Reaches c (work, before) ∧ before.Failure e := by
  obtain ⟨before, hreach, hstop⟩ := h
  have hbefore : Typed declared work before :=
    hreach.keeps (fun _ _ h => (typed_step h).mono (fun _ _ h => h) fun _ _ _ => trivial) hc
  have hafter := typed_step hbefore
  rw [hstop] at hafter
  exact ⟨before, hreach, hafter.2 e rfl⟩

/-- A reference machine with a program without defects, between two runs. -/
structure Checked (r : Reference α) : Prop where
  program : r.program.check = .ok ()
  work : ∀ w ∈ r.work, w.Checked r.program.globals
  signature : r.globals.signature = r.program.globals.signature

omit [Scalar α] [Environment α σ] in
private theorem Checked.initial {program : Program α} (h : program.check = .ok ())
    (worm : Option EntityId) : (initial program worm).Checked :=
  ⟨h, List.forall_mem_singleton.mpr h, rfl⟩

omit [Scalar α] [Environment α σ] in
/-- What a run begins with has its types. -/
theorem Checked.begins {r : Reference α} (h : r.Checked) (view : View α) (worm : EntityId)
    (state : σ) (budget : Nat) : Typed r.program.globals (Work.resume view r.work)
      { worm, state, globals := r.globals, budget } :=
  ⟨Work.checked_resume view h.work, h.signature, fun _ _ h => absurd h List.not_mem_nil⟩

private theorem Checked.ran {r r' : Reference α} {call : Call σ} {report : Report α σ}
    (h : r.Checked) (hran : Ran r call report r') : r'.Checked ∧ ∀ name value,
      .assigned name value ∈ report.effects → r.program.globals.type? name = some value.type := by
  cases hran with
  | refused _ => exact ⟨h, fun _ _ hmem => absurd hmem List.not_mem_nil⟩
  | @stopped worm stop work m _ hhalts =>
    have hend := hhalts.typed (h.begins _ worm call.state call.budget)
    refine ⟨?_, fun name value hmem => hend.2.assigned name value (List.mem_reverse.mp hmem)⟩
    cases stop with
    | suspended _ => exact ⟨h.program, hend.1, hend.2.signature⟩
    | completed | wormDied | failed _ =>
      exact ⟨h.program, List.forall_mem_singleton.mpr h.program, hend.2.signature⟩

end Reference

namespace ProgramInstance

variable {i : ProgramInstance α}

omit [Environment α σ] in
/-- Every instance of a program without defects is a machine of which the types are kept. -/
theorem Made.checked (h : i.Made) (hcheck : i.program.check = .ok ()) :
    ∃ r : Reference α, r.Represents i ∧ r.Checked := by
  induction h with
  | of program budget observed =>
    exact ⟨_, Reference.represents_initial program budget observed, .initial hcheck none⟩
  | freshCopy _ ih =>
    obtain ⟨r, hr, -⟩ := ih hcheck
    exact ⟨_, hr.freshCopy, .initial hcheck none⟩
  | bind worm _ ih =>
    obtain ⟨r, hr, hchecked⟩ := ih hcheck
    exact ⟨_, hr.bind worm, ⟨hchecked.program, hchecked.work, hchecked.signature⟩⟩
  | @run i _ _ budget state _ ih =>
    rw [runWith_program] at hcheck
    obtain ⟨r, hr, hchecked⟩ := ih hcheck
    obtain ⟨r', hran, hr'⟩ := hr.ran ⟨budget, state⟩
    exact ⟨r', hr', (hchecked.ran hran).1⟩

/-- A program that runs has no defects. -/
theorem Made.check_of_ready {state : σ} {worm : EntityId} (h : i.Made)
    (hready : i.readyWorm state = .ok worm) : i.program.check = .ok () := by
  have hwellFormed := (readyWorm_eq_ok_iff.mp hready).1
  rw [h.wellFormed, Program.isWellFormed] at hwellFormed
  cases hcheck : i.program.check with
  | ok _ => rfl
  | error _ => simp [hcheck] at hwellFormed

/-- **The variables keep their kinds**: there are exactly the declared ones, each with a value of
its declared kind, whatever runs there were. -/
theorem Made.signature (h : i.Made) (hcheck : i.program.check = .ok ()) :
    i.globals.signature = i.program.globals.signature := by
  obtain ⟨r, hr, hchecked⟩ := h.checked hcheck
  rw [← hr.globals, ← hr.program]
  exact hchecked.signature

/-- Whatever a run assigns is of the declared kind. -/
theorem Made.assigned (h : i.Made) (hcheck : i.program.check = .ok ()) {budget : Nat} {state : σ}
    {name : String} {value : Value α}
    (hmem : .assigned name value ∈ (i.runWith budget state).effects) :
    i.program.globals.type? name = some value.type := by
  obtain ⟨r, hr, hchecked⟩ := h.checked hcheck
  obtain ⟨r', hran, -⟩ := hr.ran ⟨budget, state⟩
  rw [← hr.program]
  exact (hchecked.ran hran).2 name value hmem

/-- A run that has begun and fails does so at a point where the world gives the reason. What holds
at every point of the run holds there. -/
theorem Made.run_failure {P : Machine α σ → Prop} (h : i.Made) (hcheck : i.program.check = .ok ())
    {budget : Nat} {state : σ} {worm : EntityId} {e : Error α}
    (hready : i.readyWorm state = .ok worm)
    (hstep : ∀ m m' : Machine α σ, P m → m.Onward m' → P m')
    (hP : P { worm, state, globals := i.globals, budget })
    (hfailed : (i.runWith budget state).result = .error e) : ∃ m, P m ∧ m.Failure e := by
  obtain ⟨r, hr, hchecked⟩ := h.checked hcheck
  rcases h.run_cases budget state with ⟨e', hrefused, -⟩ |
    ⟨worm', stop, work, m, hready', hhalts, hresult, -⟩
  · rw [hready] at hrefused
    cases hrefused
  · rw [hready] at hready'
    cases hready'
    rw [hfailed] at hresult
    cases stop with
    | completed | suspended _ | wormDied => cases hresult
    | failed e' =>
      cases hresult
      -- The machine that represents the instance makes the same run, and its work is checked.
      rw [← hr.work] at hhalts
      have hbegins := hchecked.begins (Environment.view state) worm state budget
      rw [hr.globals] at hbegins
      obtain ⟨before, hreach, hfailure⟩ := hhalts.failure hbegins
      exact ⟨before, hreach.keeps_machine hstep hP, hfailure⟩

end ProgramInstance

end WormBattle
