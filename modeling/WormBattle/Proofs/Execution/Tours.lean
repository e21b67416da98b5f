import WormBattle.Proofs.Execution.Quiet

/-!
# Loops over entities keep to what they found

A loop over entities takes down which entities there are when it is entered, the **snapshot**, and
comes to each of them in that order, over as many runs as it takes. A `Tour` follows one execution
of such a loop, from its entry through all steps and all suspensions in it, while the world may
become any other between two runs. It keeps the **rounds** so far: one for each entity that the loop
has come to, with the moment at which it did and the next one.

However a tour goes, the entities that had their round and those that are left make up the snapshot
(`Tour.keeps_snapshot`). For an entity that is there when its round comes the body is begun, with
the variable set to it, and one that is gone is passed over. If the entity leaves while the run is
suspended in the body, the loop goes on with the next one, wherever in the body the run has stopped.
-/

namespace WormBattle

variable {α σ : Type}

/-! ### Steps of a loop -/

namespace Statement

variable [Scalar α] [Environment α σ] {filter : EntityFilter} {name : String}
  {body s : Statement α} {items rest : List EntityId} {item : EntityId} {inBody : Bool}
  {cursor inner c : List Frame} {m m' : Machine α σ} {x : Moment α σ}

/-- What a step of a loop over entities comes to, as long as the loop goes on. -/
inductive ForEachStep (name : String) (body : Statement α) :
    List EntityId → Bool → List Frame → Machine α σ → Moment α σ → Prop where
  /-- The entity is gone, and what is left of its body with it. -/
  | lost {item : EntityId} {rest : List EntityId} {inBody : Bool} {inner : List Frame}
      {m : Machine α σ} : (m.kindOf item).isNone = true →
      ForEachStep name body (item :: rest) inBody inner m ⟨[.forEach rest false], m⟩
  /-- The body is begun for the entity. -/
  | begins {item : EntityId} {rest : List EntityId} {inner : List Frame} {m m' : Machine α σ} :
      ¬(m.kindOf item).isNone = true → m.spend? = some m' →
      ForEachStep name body (item :: rest) false inner m
        ⟨[.forEach (item :: rest) true], m'.setGlobal name (.entity (some item))⟩
  /-- The body goes on. -/
  | goesOn {item : EntityId} {rest : List EntityId} {inner : List Frame} {m : Machine α σ}
      {x : Moment α σ} : ¬(m.kindOf item).isNone = true → body.advance inner m = .onward x →
      ForEachStep name body (item :: rest) true inner m
        ⟨.forEach (item :: rest) true :: x.cursor, x.machine⟩
  /-- The body is done. -/
  | finishes {item : EntityId} {rest : List EntityId} {inner : List Frame} {m m' : Machine α σ} :
      ¬(m.kindOf item).isNone = true → body.advance inner m = .ended .done m' →
      ForEachStep name body (item :: rest) true inner m ⟨[.forEach rest false], m'⟩

/-- Every step of a loop that goes on is one of the four. -/
theorem forEachStep_of_onward
    (h : (forEach filter name body).advance (.forEach items inBody :: inner) m = .onward x) :
    ForEachStep name body items inBody inner m x := by
  rcases items with - | ⟨item, rest⟩
  · cases h
  · by_cases hgone : (m.kindOf item).isNone = true
    · rw [advance_lostItem rest inBody inner hgone] at h
      cases h
      exact .lost hgone
    · cases inBody with
      | true =>
        rw [advance_item rest inner hgone] at h
        obtain ⟨y, hbody, rfl⟩ | ⟨m', hbody, hnext⟩ := Advance.onward_of_under h
        · exact .goesOn hgone hbody
        · cases hnext
          exact .finishes hgone hbody
      | false =>
        rw [advance_nextItem rest inner hgone] at h
        obtain ⟨m', hm, hnext⟩ := Advance.onward_of_charge h
        cases hnext
        exact .begins hgone hm

/-- A loop that is suspended stays where it is, though its body may have gone on. -/
theorem cursor_of_suspended {reason : SuspendReason}
    (h : (forEach filter name body).advance (.forEach items inBody :: inner) m =
      .ended (.suspended reason c) m') :
    ∃ inner', c = .forEach items inBody :: inner' ∧ (inBody = false → inner' = []) := by
  rcases items with - | ⟨item, rest⟩
  · cases h
  · by_cases hgone : (m.kindOf item).isNone = true
    · rw [advance_lostItem rest inBody inner hgone] at h
      cases h
    · cases inBody with
      | true =>
        rw [advance_item rest inner hgone] at h
        obtain hpart | ⟨m'', -, hnext⟩ := Advance.under_cases (body.advance inner m)
          (.forEach (item :: rest) true) fun m => .onward ⟨[.forEach rest false], m⟩
        · obtain ⟨inner', -, rfl⟩ := Advance.suspended_of_beneath (hpart.symm.trans h)
          exact ⟨inner', rfl, nofun⟩
        · cases hnext.symm.trans h
      | false =>
        rw [advance_nextItem rest inner hgone, Advance.charge] at h
        cases hm : m.spend? <;> rw [hm] at h <;> cases h
        exact ⟨[], rfl, fun _ => rfl⟩

/-- A loop that has an entity left goes on or is suspended, unless its body fails. -/
theorem stays_of_item (hquiet : body.containsAction = false) (filter : EntityFilter)
    (name : String) (item : EntityId) (rest : List EntityId) (inBody : Bool)
    (inner : List Frame) (m : Machine α σ) :
    (¬((forEach filter name body).advance (.forEach (item :: rest) inBody :: inner) m).IsDone ∧
      ∃ frame c, ((forEach filter name body).advance (.forEach (item :: rest) inBody :: inner)
        m).cursor? = some (frame :: c)) ∨
      ∃ e m', (forEach filter name body).advance (.forEach (item :: rest) inBody :: inner) m =
        .ended (.failed e) m' := by
  by_cases hgone : (m.kindOf item).isNone = true
  · rw [advance_lostItem rest inBody inner hgone]
    exact .inl ⟨id, _, _, rfl⟩
  · cases inBody with
    | true =>
      have hcalm := calm_advance hquiet inner m
      rw [advance_item rest inner hgone]
      generalize body.advance inner m = a at hcalm
      cases hcalm with
      | onward | done | spent => exact .inl ⟨id, _, _, rfl⟩
      | failed => exact .inr ⟨_, _, rfl⟩
    | false =>
      rw [advance_nextItem rest inner hgone, Advance.charge]
      cases m.spend? <;> exact .inl ⟨id, _, _, rfl⟩

/-- A statement that goes on has been entered. -/
theorem cursor_ne_nil_of_onward (hstands : s.Stands cursor)
    (h : s.advance cursor m = .onward x) : x.cursor ≠ [] := by
  cases hstands with
  | begun =>
    cases hcontrol : s.isControlFlow with
    | false =>
      rw [advance_leaf hcontrol] at h
      cases h
    | true =>
      cases s with
      | ifElse condition then_ otherwise =>
        obtain ⟨m', -, h⟩ := Advance.onward_of_charge h
        obtain ⟨holds, -, h⟩ := Advance.onward_of_withValue h
        cases h
        exact List.cons_ne_nil _ _
      | whileLoop | forEach | sequence =>
        cases h
        exact List.cons_ne_nil _ _
      | _ => cases hcontrol
  | branch =>
    rw [advance_branch] at h
    obtain ⟨y, -, rfl⟩ | ⟨m', -, hnext⟩ := Advance.onward_of_under h
    · exact List.cons_ne_nil _ _
    · cases hnext
  | retest =>
    obtain ⟨m', -, h⟩ := Advance.onward_of_charge h
    obtain ⟨holds, -, h⟩ := Advance.onward_of_withValue h
    cases holds <;> cases h
    exact List.cons_ne_nil _ _
  | inBody =>
    obtain ⟨y, -, rfl⟩ | ⟨m', -, hnext⟩ := Advance.onward_of_under h
    · exact List.cons_ne_nil _ _
    · cases hnext
      exact List.cons_ne_nil _ _
  | nextItem | item => cases forEachStep_of_onward h <;> exact List.cons_ne_nil _ _
  | sequenceEnd hdrop =>
    rw [advance_end hdrop] at h
    cases h
  | member hdrop =>
    rw [advance_member hdrop] at h
    obtain ⟨y, -, rfl⟩ | ⟨m', -, hnext⟩ := Advance.onward_of_under h
    · exact List.cons_ne_nil _ _
    · cases hnext
      exact List.cons_ne_nil _ _

end Statement

/-! ### Tours -/

/-- What a loop does when it comes to an entity. -/
structure Round (α σ : Type) where
  /-- The entity. -/
  item : EntityId
  /-- The moment at which the loop has come to it. -/
  before : Moment α σ
  /-- The next moment. -/
  after : Moment α σ

namespace Round

/-- The round that is taken in a step of the loop at the end of a path: if the loop is before an
entity, it is the round of that one. -/
def taken (path : List Frame) (x y : Moment α σ) : List (Round α σ) :=
  match x.cursor.drop path.length with
  | .forEach (item :: _) false :: _ => [⟨item, x, y⟩]
  | _ => []

variable [Environment α σ]

/-- Whether the entity is there when its round comes. -/
def Present (round : Round α σ) : Prop :=
  ¬(round.before.machine.kindOf round.item).isNone = true

/-- The body is begun for the entity, and the variable is set to it. -/
def Starts (path : List Frame) (name : String) (round : Round α σ) : Prop :=
  (∃ rest, round.after.cursor = path ++ [.forEach (round.item :: rest) true]) ∧
    round.after.machine.globals.get? name = some (.entity (some round.item))

/-- The entity is passed over, and nothing else happens. -/
def Passes (path : List Frame) (round : Round α σ) : Prop :=
  ∃ rest, round.after = ⟨path ++ [.forEach rest false], round.before.machine⟩

end Round

variable [Scalar α] [Environment α σ]

/-- An execution of a loop over entities, from the moment at which it is entered, through the steps
and the suspensions in it, to the present one, with the rounds that were taken. Each suspension is
followed by a run with a budget of its own, in any world and for any worm. -/
inductive Tour (path : List Frame) (filter : EntityFilter) (name : String) (body : Statement α)
    (snapshot : List EntityId) :
    ProgramInstance α → Nat → σ → Moment α σ → List (Round α σ) → Prop where
  /-- The loop is entered, and the entities that are there are taken down. -/
  | enters {i : ProgramInstance α} {budget : Nat} {state : σ} {x y : Moment α σ} :
      i.Made → i.InRun budget state x → x.cursor = path →
      i.program.root.at? path = some (.forEach filter name body) →
      (Environment.view x.machine.state).entities filter = snapshot →
      i.program.root.advance x.cursor x.machine = .onward y → Frame.Inside path y.cursor →
      Tour path filter name body snapshot i budget state y []
  /-- The run goes on in the loop. -/
  | goesOn {i : ProgramInstance α} {budget : Nat} {state : σ} {x y : Moment α σ}
      {rounds : List (Round α σ)} : Tour path filter name body snapshot i budget state x rounds →
      i.program.root.advance x.cursor x.machine = .onward y → Frame.Inside path y.cursor →
      Tour path filter name body snapshot i budget state y (rounds ++ Round.taken path x y)
  /-- The run is suspended in the loop, and another one goes on there. -/
  | resumes {i : ProgramInstance α} {budget : Nat} {state : σ} {x : Moment α σ}
      {rounds : List (Round α σ)} {reason : SuspendReason} {cursor : List Frame}
      {m : Machine α σ} {again : ProgramInstance α} {worm : EntityId} {budget' : Nat} {state' : σ} :
      Tour path filter name body snapshot i budget state x rounds →
      i.program.root.advance x.cursor x.machine = .ended (.suspended reason cursor) m →
      Frame.Inside path cursor → (i.runWith budget state).instanceAfter.bind worm = again →
      again.readyWorm state' = .ok worm →
      Tour path filter name body snapshot again budget' state' (again.start worm budget' state')
        rounds

/-- Where a tour is: the loop has come to the entities `items`, and is in the body for the first of
them or before it. -/
structure Tour.Located (path : List Frame) (name : String) (snapshot : List EntityId)
    (x : Moment α σ) (rounds : List (Round α σ)) (items : List EntityId) (inBody : Bool)
    (inner : List Frame) : Prop where
  cursor_eq : x.cursor = path ++ .forEach items inBody :: inner
  inner_eq : inBody = false → inner = []
  /-- Those that had their round and those that are left are the snapshot, in its order. -/
  in_order : rounds.map Round.item ++ (if inBody then items.tail else items) = snapshot
  /-- The body is that of the entity whose round was the last. -/
  visited : inBody = true → ∃ round rest, rounds.getLast? = some round ∧ round.Starts path name ∧
    items = round.item :: rest
  /-- Those that were there when their round came were started, and the others passed over. -/
  fair : ∀ round ∈ rounds,
    round.Present ∧ round.Starts path name ∨ ¬round.Present ∧ round.Passes path

namespace Tour

variable {path inner : List Frame} {filter : EntityFilter} {name : String} {body root : Statement α}
  {snapshot items : List EntityId} {i : ProgramInstance α} {budget : Nat} {state : σ}
  {x y : Moment α σ} {rounds : List (Round α σ)} {inBody : Bool}

/-- A tour goes through runs of one program, of instances that come about. -/
theorem inRun (h : Tour path filter name body snapshot i budget state x rounds) :
    i.Made ∧ i.InRun budget state x ∧
      i.program.root.at? path = some (.forEach filter name body) := by
  induction h with
  | enters hmade hx _ hat _ hgo _ => exact ⟨hmade, .goesOn hx hgo, hat⟩
  | goesOn _ hgo _ ih => exact ⟨ih.1, .goesOn ih.2.1 hgo, ih.2.2⟩
  | @resumes i budget state _ _ _ _ _ again worm _ _ _ _ _ hagain hready ih =>
    have hroot : again.program = i.program := by
      rw [← hagain]
      exact i.runWith_program budget state
    refine ⟨?_, .begins hready, ?_⟩
    · rw [← hagain]
      exact .bind worm (.run budget state ih.1)
    · rw [hroot]
      exact ih.2.2

omit [Scalar α] in
/-- A round is taken before an entity, and not in a body. -/
theorem Located.taken_eq (h : Located path name snapshot x rounds items inBody inner)
    (y : Moment α σ) : Round.taken path x y =
      if inBody then [] else items.head?.toList.map fun item => ⟨item, x, y⟩ := by
  rw [Round.taken, h.cursor_eq, List.drop_left]
  cases inBody with
  | true => cases items <;> rfl
  | false => cases items <;> rfl

/-- Unless a loop around it has lost its entity, the loop of a tour determines the step. -/
theorem Located.advance_eq (h : Located path name snapshot x rounds items inBody inner)
    (hat : root.at? path = some (.forEach filter name body))
    (hkept : ∀ frame ∈ path, ¬frame.HasLost (Environment.view x.machine.state)) {a : Advance α σ}
    (ha : (Statement.forEach filter name body).advance (.forEach items inBody :: inner) x.machine =
      a) (hnot : ¬a.IsDone) : root.advance x.cursor x.machine = a.beneath path := by
  rw [h.cursor_eq, ← ha]
  exact Statement.advance_append hat hkept (ha ▸ hnot)

/-- The step of a tour that stays in the loop is one of the loop. -/
theorem Located.onward_of_inside (h : Located path name snapshot x rounds items inBody inner)
    (hat : root.at? path = some (.forEach filter name body))
    (hgo : root.advance x.cursor x.machine = .onward y) (hinside : Frame.Inside path y.cursor) :
    ∃ z, Statement.ForEachStep name body items inBody inner x.machine z ∧
      y = ⟨path ++ z.cursor, z.machine⟩ := by
  rw [h.cursor_eq] at hgo
  rw [Statement.advance_of_inside hat (congrArg Advance.cursor? hgo) hinside] at hgo
  obtain ⟨z, hz, hy⟩ := Advance.onward_of_beneath hgo
  exact ⟨z, Statement.forEachStep_of_onward hz, hy⟩

/-- A tour that goes on in the loop has come to a new place, or taken a round. -/
theorem Located.goesOn (h : Located path name snapshot x rounds items inBody inner)
    (hat : root.at? path = some (.forEach filter name body))
    (hgo : root.advance x.cursor x.machine = .onward y) (hinside : Frame.Inside path y.cursor) :
    ∃ items' inBody' inner',
      Located path name snapshot y (rounds ++ Round.taken path x y) items' inBody' inner' := by
  have horder := h.in_order
  obtain ⟨z, hstep, rfl⟩ := h.onward_of_inside hat hgo hinside
  rw [h.taken_eq]
  cases hstep with
  | @lost item rest _ _ _ hgone =>
    refine ⟨rest, false, [], rfl, fun _ => rfl, ?_, by simp, ?_⟩
    · cases inBody <;> simpa using horder
    · cases inBody with
      | true => simpa using h.fair
      | false =>
        have hpassed : ¬Round.Present ⟨item, x, ⟨path ++ [.forEach rest false], x.machine⟩⟩ ∧
            Round.Passes path ⟨item, x, ⟨path ++ [.forEach rest false], x.machine⟩⟩ :=
          ⟨fun hhere => hhere hgone, rest, rfl⟩
        exact List.forall_mem_append.mpr ⟨h.fair, by simpa using .inr hpassed⟩
  | @begins item rest _ _ m' hhere hm =>
    have hset : (m'.setGlobal name (.entity (some item))).globals.get? name =
        some (.entity (some item)) := by
      simp [Machine.setGlobal, Machine.note, Globals.get?_insert]
    refine ⟨item :: rest, true, [], rfl, by simp, ?_, fun _ => ?_, ?_⟩
    · simpa using horder
    · exact ⟨_, rest, List.getLast?_concat, ⟨⟨rest, rfl⟩, hset⟩, rfl⟩
    · refine List.forall_mem_append.mpr ⟨h.fair, ?_⟩
      simpa using .inl ⟨hhere, ⟨rest, rfl⟩, hset⟩
  | @goesOn item rest _ _ z hhere hbody =>
    refine ⟨item :: rest, true, z.cursor, rfl, by simp, ?_, ?_, ?_⟩
    · simpa using horder
    · simpa using h.visited rfl
    · simpa using h.fair
  | @finishes item rest _ _ m' hhere hbody =>
    refine ⟨rest, false, [], rfl, fun _ => rfl, ?_, by simp, ?_⟩
    · simpa using horder
    · simpa using h.fair

/-- A tour that is suspended in the loop is in the same place of it when the next run begins. -/
theorem Located.resumes (h : Located path name snapshot x rounds items inBody inner)
    (hat : root.at? path = some (.forEach filter name body)) {reason : SuspendReason}
    {cursor : List Frame} {m : Machine α σ}
    (hend : root.advance x.cursor x.machine = .ended (.suspended reason cursor) m)
    (hinside : Frame.Inside path cursor) (hy : y.cursor = cursor) :
    ∃ inner', Located path name snapshot y rounds items inBody inner' := by
  rw [h.cursor_eq] at hend
  obtain ⟨c, hc, rfl⟩ : ∃ c, (Statement.forEach filter name body).advance
      (.forEach items inBody :: inner) x.machine = .ended (.suspended reason c) m ∧
        cursor = path ++ c := by
    rw [Statement.advance_of_inside hat (congrArg Advance.cursor? hend) hinside] at hend
    exact Advance.suspended_of_beneath hend
  obtain ⟨inner', rfl, hinner⟩ := Statement.cursor_of_suspended hc
  exact ⟨inner', hy, hinner, h.in_order, h.visited, h.fair⟩

/-- A tour is always somewhere in its loop. -/
theorem located (h : Tour path filter name body snapshot i budget state x rounds) :
    ∃ items inBody inner, Located path name snapshot x rounds items inBody inner := by
  induction h with
  | @enters i budget state x y _ _ hx hat hsnapshot hgo hinside =>
    obtain ⟨z, hz, rfl⟩ : ∃ z : Moment α σ, (Statement.forEach filter name body).advance []
        x.machine = .onward z ∧ y = ⟨path ++ z.cursor, z.machine⟩ := by
      rw [hx, ← List.append_nil path] at hgo
      rw [Statement.advance_of_inside hat (congrArg Advance.cursor? hgo) hinside] at hgo
      exact Advance.onward_of_beneath hgo
    cases hz
    exact ⟨_, false, [], rfl, fun _ => rfl, hsnapshot, nofun, nofun⟩
  | @goesOn i budget state x y rounds htour hgo hinside ih =>
    obtain ⟨items, inBody, inner, hlocated⟩ := ih
    exact hlocated.goesOn htour.inRun.2.2 hgo hinside
  | @resumes i budget state x rounds reason cursor m again worm budget' state' htour hend hinside
      hagain hready ih =>
    obtain ⟨items, inBody, inner, hlocated⟩ := ih
    obtain ⟨hmade, hx, hat⟩ := htour.inRun
    have hcursor : (again.start worm budget' state').cursor = cursor := by
      rw [← hagain, hx.settles hmade hend]
      rfl
    obtain ⟨inner', hlocated'⟩ := hlocated.resumes hat hend hinside hcursor
    exact ⟨items, inBody, inner', hlocated'⟩

/-- A tour that is before an entity that is there begins the body for it. -/
theorem Located.begins {item : EntityId} {rest : List EntityId} {m : Machine α σ}
    (h : Located path name snapshot x rounds (item :: rest) false inner)
    (hat : root.at? path = some (.forEach filter name body))
    (hhere : ¬(x.machine.kindOf item).isNone = true)
    (hkept : ∀ frame ∈ path, ¬frame.HasLost (Environment.view x.machine.state))
    (hm : x.machine.spend? = some m) : root.advance x.cursor x.machine =
      .onward ⟨path ++ [.forEach (item :: rest) true],
        m.setGlobal name (.entity (some item))⟩ := by
  have hstep : (Statement.forEach filter name body).advance
      (.forEach (item :: rest) false :: inner) x.machine =
        .onward ⟨[.forEach (item :: rest) true], m.setGlobal name (.entity (some item))⟩ := by
    rw [Statement.advance_nextItem rest inner hhere, Advance.charge, hm]
  exact h.advance_eq hat hkept hstep id

/-- A tour that has come to an entity that is gone drops it, with the rest of its body. -/
theorem Located.drops {item : EntityId} {rest : List EntityId}
    (h : Located path name snapshot x rounds (item :: rest) inBody inner)
    (hat : root.at? path = some (.forEach filter name body))
    (hgone : (x.machine.kindOf item).isNone = true)
    (hkept : ∀ frame ∈ path, ¬frame.HasLost (Environment.view x.machine.state)) :
    root.advance x.cursor x.machine = .onward ⟨path ++ [.forEach rest false], x.machine⟩ :=
  h.advance_eq hat hkept (Statement.advance_lostItem rest inBody inner hgone) id

/-- The body of a tour is not begun again from within. -/
theorem Located.once (h : Located path name snapshot x rounds items true inner)
    (hat : root.at? path = some (.forEach filter name body)) (hstands : root.Stands x.cursor)
    (hgo : root.advance x.cursor x.machine = .onward y) (items' : List EntityId) :
    y.cursor ≠ path ++ [.forEach items' true] := by
  intro hy
  obtain ⟨z, hstep, rfl⟩ := h.onward_of_inside hat hgo ⟨_, [], hy⟩
  have hz : z.cursor = [.forEach items' true] := List.append_cancel_left hy
  rw [h.cursor_eq] at hstands
  cases hstep with
  | lost | finishes => cases hz
  | goesOn _ hbody =>
    have hinner : body.Stands inner := (hstands.at hat).part rfl
    exact Statement.cursor_ne_nil_of_onward hinner hbody (List.cons.inj hz).2

/-- A tour leaves the loop when all entities have had their round, when a loop around it has lost
its entity, or when something fails. -/
theorem Located.stays (h : Located path name snapshot x rounds items inBody inner)
    (hat : root.at? path = some (.forEach filter name body)) (hquiet : body.containsAction = false)
    (hleft : ∀ c, (root.advance x.cursor x.machine).cursor? = some c → ¬Frame.Inside path c) :
    items = [] ∨ (∃ frame ∈ path, frame.HasLost (Environment.view x.machine.state)) ∨
      ∃ e m, root.advance x.cursor x.machine = .ended (.failed e) m := by
  rcases items with - | ⟨item, rest⟩
  · exact .inl rfl
  · by_cases hkept : ∃ frame ∈ path, frame.HasLost (Environment.view x.machine.state)
    · exact .inr (.inl hkept)
    · refine .inr (.inr ?_)
      have hkept : ∀ frame ∈ path, ¬frame.HasLost (Environment.view x.machine.state) :=
        fun frame hmem hlost => hkept ⟨frame, hmem, hlost⟩
      obtain ⟨hnot, frame, c, hc⟩ | ⟨e, m, hfailed⟩ :=
        Statement.stays_of_item hquiet filter name item rest inBody inner x.machine
      · -- A step of the loop that is not its last one stays inside.
        have hstep := h.advance_eq hat hkept rfl hnot
        refine absurd ⟨frame, c, rfl⟩ (hleft (path ++ frame :: c) ?_)
        rw [hstep, Advance.cursor?_beneath, hc]
        rfl
      · exact ⟨e, m, h.advance_eq hat hkept hfailed id⟩

/-- What a loop over entities does with its snapshot, at a moment of a tour: where it is, and what
comes next. -/
structure KeepsSnapshot (path : List Frame) (name : String) (snapshot : List EntityId)
    (i : ProgramInstance α) (budget : Nat) (state : σ) (x : Moment α σ)
    (rounds : List (Round α σ)) (items : List EntityId) (inBody : Bool) (inner : List Frame) :
    Prop extends Located path name snapshot x rounds items inBody inner where
  /-- The run is what the executor makes of the moment. -/
  runWith_eq : i.runWith budget state =
    (fun ended => i.settle ended.1 ended.2) (i.program.root.exec x.cursor x.machine)
  /-- Who came later has no round. -/
  mem_snapshot : ∀ round ∈ rounds, round.item ∈ snapshot
  /-- An entity that is there gets the body begun as soon as there is a unit for it. -/
  begins : ∀ item rest m', items = item :: rest → inBody = false →
    ¬(x.machine.kindOf item).isNone = true →
    (∀ frame ∈ path, ¬frame.HasLost (Environment.view x.machine.state)) →
    x.machine.spend? = some m' → i.program.root.advance x.cursor x.machine =
      .onward ⟨path ++ [.forEach items true], m'.setGlobal name (.entity (some item))⟩
  /-- The rest of the body of an entity that is gone is dropped, however much is left of it. -/
  drops : ∀ item rest, items = item :: rest → (x.machine.kindOf item).isNone = true →
    (∀ frame ∈ path, ¬frame.HasLost (Environment.view x.machine.state)) →
    i.program.root.advance x.cursor x.machine =
      .onward ⟨path ++ [.forEach rest false], x.machine⟩
  /-- A body that has been begun is not begun again. -/
  once : inBody = true → ∀ y items', i.program.root.advance x.cursor x.machine = .onward y →
    y.cursor ≠ path ++ [.forEach items' true]
  /-- The loop is left when all entities have had their round, when a loop around it has lost its
  entity, or when something fails. -/
  stays : (∀ c, (i.program.root.advance x.cursor x.machine).cursor? = some c →
      ¬Frame.Inside path c) →
    items = [] ∨ (∃ frame ∈ path, frame.HasLost (Environment.view x.machine.state)) ∨
      ∃ e m, i.program.root.advance x.cursor x.machine = .ended (.failed e) m

/-- **A loop over entities keeps to its snapshot**, over all runs that it spans and whatever becomes
of the world between them. -/
theorem keeps_snapshot (h : Tour path filter name body snapshot i budget state x rounds) :
    ∃ items inBody inner,
      KeepsSnapshot path name snapshot i budget state x rounds items inBody inner := by
  obtain ⟨items, inBody, inner, hlocated⟩ := h.located
  obtain ⟨hmade, hx, hat⟩ := h.inRun
  have hcheck := Statement.check_at (hx.check hmade) hat
  refine ⟨items, inBody, inner, hlocated, hx.runWith_eq hmade, ?_, ?_, ?_, ?_, ?_⟩
  case refine_1 =>
    intro round hmem
    rw [← hlocated.in_order]
    exact List.mem_append_left _ (List.mem_map_of_mem hmem)
  case refine_2 =>
    rintro item rest m' rfl rfl hhere hkept hm
    exact hlocated.begins hat hhere hkept hm
  case refine_3 =>
    rintro item rest rfl hgone hkept
    exact hlocated.drops hat hgone hkept
  case refine_4 =>
    rintro rfl y items' hgo
    exact hlocated.once hat (hx.stands hmade) hgo items'
  case refine_5 =>
    intro hleft
    exact hlocated.stays hat (Statement.check_forEach hcheck).1 hleft

end Tour

/-! ### A loop whose ration is eaten -/

/-- A worm and two rations. -/
def Simulation.twoRations : Simulation Rat :=
  let ration (n : Nat) : Food Rat := ⟨⟨⟨n⟩, ⟨8, 8⟩, 0.2, leastRadius, .detached⟩⟩
  gazing.after [.addFood (ration 2), .addFood (ration 3)]

/-- The first ration is gone, and there is another one. -/
def Simulation.otherRations : Simulation Rat :=
  twoRations.after [.removeFood ⟨2⟩, .addFood ⟨⟨⟨4⟩, ⟨8, 8⟩, 0.2, leastRadius, .detached⟩⟩]

/-- A program that takes its time over each ration. -/
def ProgramInstance.dwelling : ProgramInstance Rat :=
  let program : Program Rat :=
    { root := .forEach .food "seen" (.sequence [.skip, .skip])
      globals := .ofList [("seen", .entity none)] }
  (ProgramInstance.of program 2).bind ⟨1⟩

/-- The run with two units stops in the body for the first ration. The next one drops the rest of
that body, goes on with the second ration, and does not come to the new one. -/
theorem Tour.keeps_snapshot_otherRations : ∃ again x rounds items inBody inner,
    Tour [] .food "seen" (.sequence [.skip, .skip]) [⟨2⟩, ⟨3⟩] again 1 Simulation.otherRations x
      rounds ∧
    rounds.map Round.item = [⟨2⟩, ⟨3⟩] ∧ x.cursor = [.forEach [⟨3⟩] true] ∧
    KeepsSnapshot [] "seen" [⟨2⟩, ⟨3⟩] again 1 Simulation.otherRations x rounds items inBody
      inner := by
  let i := ProgramInstance.dwelling
  let again := (i.runWith 2 Simulation.twoRations).instanceAfter.bind ⟨1⟩
  have hmade : i.Made := .bind _ (.of _ 2 true)
  have hready : i.readyWorm Simulation.twoRations = .ok ⟨1⟩ := by decide +kernel
  have hagain : again.readyWorm Simulation.otherRations = .ok ⟨1⟩ := by decide +kernel
  have hinside : ∀ frame inner, Frame.Inside [] (frame :: inner) :=
    fun frame inner => ⟨frame, inner, rfl⟩
  have hentered : Tour [] .food "seen" (.sequence [.skip, .skip]) [⟨2⟩, ⟨3⟩] i 2
      Simulation.twoRations _ [] :=
    .enters hmade (.begins hready) rfl rfl rfl rfl (hinside _ _)
  have hfirst := ((hentered.goesOn rfl (hinside _ _)).goesOn rfl (hinside _ _)).goesOn rfl
    (hinside _ _)
  have hresumed : Tour [] .food "seen" (.sequence [.skip, .skip]) [⟨2⟩, ⟨3⟩] again 1
      Simulation.otherRations (again.start ⟨1⟩ 1 Simulation.otherRations) _ :=
    .resumes hfirst rfl (hinside _ _) rfl hagain
  have hsecond := (hresumed.goesOn rfl (hinside _ _)).goesOn rfl (hinside _ _)
  obtain ⟨items, inBody, inner, hkeeps⟩ := hsecond.keeps_snapshot
  exact ⟨again, _, _, items, inBody, inner, hsecond, rfl, rfl, hkeeps⟩

end WormBattle
