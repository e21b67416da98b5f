import Mathlib.Logic.Relation
import WormBattle.Program.Instance

/-!
# The reference machine

A machine that executes a program with an explicit list of **work** and nothing else: what is to be
done next stands at the front of the list, and a run that stops keeps the list as it is. The law of
execution (`Proofs/Execution/Refinement`) says that cursors are another form of these lists.

* `Reference.step` does the work at the front, or stops there. A branch or a test costs a unit of
  the budget, and so does each entity that a loop starts on and each statement without parts.
  An action that is asked for leaves `asked` in the trace, and `done` right after it exactly when
  it succeeds.
* `Work.resume` is what a new run does first: of the loops over entities, the outermost one whose
  present entity has left the world drops the rest of its body.
* `Reference.Reports` are the reports of the machine on a sequence of calls, each with a budget and
  a state of the world of its own.
-/

namespace WormBattle

/-- Something that is still to be done. -/
inductive Work (α : Type) where
  /-- Execute a statement. -/
  | statement (s : Statement α)
  /-- Test the condition of a loop, and if it holds, execute the body and come back. -/
  | retest (condition : Expression α) (body : Statement α)
  /-- Execute the body of a loop for each entity of `rest`. All work that stands before this one in
  the list belongs to the body for the entity `current`. -/
  | items (current : Option EntityId) (rest : List EntityId) (name : String) (body : Statement α)

namespace Work

variable {α : Type}

/-- Whether the present entity of a loop has left the world. -/
def hasLost (view : View α) : Work α → Bool
  | items (some id) _ _ _ => (view.kindOf id).isNone
  | _ => false

/-- A loop without its present entity. -/
def letGo : Work α → Work α
  | items _ rest name body => items none rest name body
  | work => work

/-- The work that is left when a run begins: outer loops, which stand further back, are looked at
first, and one that has lost its present entity drops all that stands before it. -/
def resume (view : View α) : List (Work α) → List (Work α)
  | [] => []
  | work :: rest =>
    if rest.any (hasLost view) then resume view rest
    else if work.hasLost view then work.letGo :: rest
    else work :: rest

end Work

/-- Why the reference machine stops. -/
inductive Stop (α : Type) where
  /-- All work is done. -/
  | completed
  /-- A run cannot go on now. -/
  | suspended (reason : SuspendReason)
  /-- The worm has left the world. -/
  | wormDied
  /-- A statement failed. -/
  | failed (e : Error α)

/-- What one step of the reference machine comes to. -/
inductive Next (α σ : Type) where
  /-- It goes on with a list of work. -/
  | go (work : List (Work α)) (m : Machine α σ)
  /-- It stops, and the list of work stays. -/
  | stop (stop : Stop α) (m : Machine α σ)

namespace Reference

variable {α σ : Type} [Scalar α] [Environment α σ]

/-! ### Steps -/

/-- Go on with one unit less, or stop. -/
def pay (m : Machine α σ) (go : Machine α σ → Next α σ) : Next α σ :=
  match m.budget with
  | 0 => .stop (.suspended .budget) m
  | left + 1 => go { m with budget := left }

/-- Go on with a value, or fail. -/
def require {β : Type} (m : Machine α σ) (value : Except (Error α) β) (go : β → Next α σ) :
    Next α σ :=
  match value with
  | .ok v => go v
  | .error e => .stop (.failed e) m

/-- The world is asked for an action that the worm can pay for. It is told of exactly when it
succeeds, and the machine stops if the worm has died of it. -/
def ask (m : Machine α σ) (action : Action α) (rest : List (Work α)) : Next α σ :=
  match Environment.perform m.state m.worm action with
  | (.error _, state) => .go rest { m with state, trace := .asked m.worm action :: m.trace }
  | (.ok _, state) =>
    let m := { m with
      state, trace := .done m.worm action :: .asked m.worm action :: m.trace }
    if (Environment.view state).kindOf m.worm = some .worm then .go rest m
    else .stop .wormDied m

/-- An action: passed over if it cannot be planned, put off if the worm cannot pay for it. -/
def act (m : Machine α σ) (action : Action α) (rest : List (Work α)) : Next α σ :=
  match Environment.actionCost m.state m.worm action with
  | .error _ => pay m (.go rest)
  | .ok cost =>
    require m (Environment.actionPoints m.state m.worm) fun available =>
      if available < cost then .stop (.suspended (.actionPoints cost available)) m
      else pay m fun m => ask m action rest

/-- Do a statement that is at the front of the work. -/
def stepStatement (m : Machine α σ) (rest : List (Work α)) : Statement α → Next α σ
  | .skip => pay m (.go rest)
  | .assign name value =>
    pay m fun m =>
      require m (m.eval value) fun v =>
        require m (m.checkAssignment name v) fun _ => .go rest (m.setGlobal name v)
  | .print value =>
    pay m fun m =>
      require m (m.eval value) fun v => .go rest { m with trace := .printed v :: m.trace }
  | .turn angle => require m (m.evalDouble angle) fun x => act m (.turn x) rest
  | .move => act m .move rest
  | .jump => act m .jump rest
  | .toggleWeapon => act m .toggleWeapon rest
  | .fire yieldPercent =>
    require m (m.evalDouble yieldPercent) fun x =>
      match Machine.yield? x with
      | some percent => act m (.fire percent) rest
      | none => pay m (.go rest)
  | .ifElse condition then_ otherwise =>
    pay m fun m =>
      require m (m.evalBool condition) fun holds =>
        .go (.statement (if holds then then_ else otherwise) :: rest) m
  | .whileLoop condition body => .go (.retest condition body :: rest) m
  | .forEach filter name body =>
    .go (.items none ((Environment.view m.state).entities filter) name body :: rest) m
  | .sequence statements => .go (statements.map .statement ++ rest) m

/-- Do the work at the front. -/
def step : List (Work α) → Machine α σ → Next α σ
  | [], m => .stop .completed m
  | .statement s :: rest, m => stepStatement m rest s
  | .retest condition body :: rest, m =>
    pay m fun m =>
      require m (m.evalBool condition) fun holds =>
        if holds then .go (.statement body :: .retest condition body :: rest) m else .go rest m
  | .items (some _) ids name body :: rest, m => .go (.items none ids name body :: rest) m
  | .items none [] _ _ :: rest, m => .go rest m
  | .items none (id :: ids) name body :: rest, m =>
    if (m.kindOf id).isNone then
      .go (.items none ids name body :: rest) m
    else
      pay m fun m =>
        .go (.statement body :: .items (some id) ids name body :: rest)
          (m.setGlobal name (.entity (some id)))

/-- The machine gets from one list of work to another. -/
def Reaches (c c' : List (Work α) × Machine α σ) : Prop :=
  Relation.ReflTransGen (fun a b => step a.1 a.2 = .go b.1 b.2) c c'

/-- The machine gets from a list of work to one where it stops. -/
def Halts (c : List (Work α) × Machine α σ) (stop : Stop α) (work : List (Work α))
    (m : Machine α σ) : Prop :=
  ∃ before, Reaches c (work, before) ∧ step work before = .stop stop m

end Reference

/-! ### Runs -/

/-- A call for a run: its budget and the world it is to be played in. -/
structure Call (σ : Type) where
  /-- The budget of the run. -/
  budget : Nat
  /-- The world before the run. -/
  state : σ

/-- What can be seen of a run. -/
structure Report (α σ : Type) where
  /-- How the run ended, or why it failed or was refused. -/
  result : Except (Error α) Outcome
  /-- What was done, in order. -/
  effects : List (Effect α)
  /-- The global variables after the run. -/
  globals : Globals α
  /-- The world after the run. -/
  state : σ

/-- The reference machine between two runs. -/
structure Reference (α : Type) where
  /-- The program. -/
  program : Program α
  /-- The worm that runs the program. -/
  worm : Option EntityId
  /-- The global variables. -/
  globals : Globals α
  /-- What is still to be done. -/
  work : List (Work α)
  /-- Whether a run has failed. -/
  faulted : Bool

namespace Reference

variable {α σ : Type}

/-- The machine before its first run. -/
def initial (program : Program α) (worm : Option EntityId) : Reference α :=
  { program, worm, globals := program.globals, work := [.statement program.root], faulted := false }

/-- The machine after a run: it keeps its list of work only if it has been suspended. -/
def after (r : Reference α) (stop : Stop α) (work : List (Work α)) (m : Machine α σ) :
    Reference α :=
  match stop with
  | .suspended _ => { r with globals := m.globals, work }
  | .completed | .wormDied => { r with globals := m.globals, work := [.statement r.program.root] }
  | .failed _ =>
    { r with globals := m.globals, work := [.statement r.program.root], faulted := true }

/-- How a run ended. -/
def outcome : Stop α → Except (Error α) Outcome
  | .completed => .ok .completed
  | .suspended reason => .ok (.suspended reason)
  | .wormDied => .ok .wormDied
  | .failed e => .error e

/-- Why a run is refused, if it is. -/
def refusal? [Environment α σ] (r : Reference α) (state : σ) : Except (Error α) EntityId :=
  match r.program.isWellFormed, r.faulted, r.worm with
  | false, _, _ => .error .cannotRunIllFormed
  | true, true, _ => .error .faulted
  | true, false, none => .error .unbound
  | true, false, some worm =>
    if (Environment.view state).kindOf worm = some .worm then .ok worm
    else .error (.notAWorm worm)

variable [Scalar α] [Environment α σ]

/-- One run of the machine. A refused run changes nothing. -/
inductive Ran (r : Reference α) (call : Call σ) : Report α σ → Reference α → Prop where
  /-- The run was refused. -/
  | refused {e : Error α} : r.refusal? call.state = .error e →
      Ran r call ⟨.error e, [], r.globals, call.state⟩ r
  /-- The run began with the work that was left, and stopped. -/
  | stopped {worm : EntityId} {stop : Stop α} {work : List (Work α)} {m : Machine α σ} :
      r.refusal? call.state = .ok worm →
      Halts (Work.resume (Environment.view call.state) r.work,
        { worm, state := call.state, globals := r.globals, budget := call.budget }) stop work m →
      Ran r call ⟨outcome stop, m.trace.reverse, m.globals, m.state⟩ (r.after stop work m)

/-- The reports of the machine on a sequence of calls. -/
inductive Reports : Reference α → List (Call σ) → List (Report α σ) → Prop where
  /-- No calls. -/
  | nil {r : Reference α} : Reports r [] []
  /-- A call and those after it. -/
  | cons {r r' : Reference α} {call : Call σ} {report : Report α σ} {calls : List (Call σ)}
      {reports : List (Report α σ)} : Ran r call report r' → Reports r' calls reports →
      Reports r (call :: calls) (report :: reports)

end Reference

namespace ProgramInstance

variable {α σ : Type} [Scalar α] [Environment α σ]

/-- What can be seen of the run of a program instance on a call. -/
def reportOf (i : ProgramInstance α) (call : Call σ) : Report α σ :=
  let run := i.runWith call.budget call.state
  ⟨run.result, run.effects, run.instanceAfter.globals, run.stateAfter⟩

/-- The reports of a program instance on a sequence of calls. -/
def reports (i : ProgramInstance α) : List (Call σ) → List (Report α σ)
  | [] => []
  | call :: calls =>
    i.reportOf call :: (i.runWith call.budget call.state).instanceAfter.reports calls

end ProgramInstance

end WormBattle
