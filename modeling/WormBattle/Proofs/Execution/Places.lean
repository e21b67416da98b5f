import WormBattle.Proofs.Execution.Moments

/-!
# Places in a program

Where the moments of a run are. A cursor **stands** in a statement when each of its frames is of the
kind of the statement that it is found in (`Statement.Stands`). That is a little weaker than to fit:
between two steps an execution may have come to the end of a sequence, or of the entities of a loop.
It stands in the statement from its first moment to its last (`Statement.Stands.advance`).

A **path** leads down to one of the statements that are in execution (`Statement.at?`). As long as
the part at the end of a path has not come to an end, and no loop on the way has lost its entity,
the steps of the whole are those of the part (`Statement.advance_append`). Otherwise the execution
leaves the path (`Statement.not_inside_of_left`).
-/

namespace WormBattle

variable {α σ : Type}

/-! ### Cursors that stand in a statement -/

namespace Statement

/-- Where an execution of a statement can stand. -/
inductive Stands : Statement α → List Frame → Prop where
  /-- Before the statement. -/
  | begun (s : Statement α) : Stands s []
  /-- In the branch that was taken. -/
  | branch {condition : Expression α} {then_ otherwise : Statement α} {holds : Bool}
      {cursor : List Frame} : Stands (if holds then then_ else otherwise) cursor →
      Stands (.ifElse condition then_ otherwise) (.ifElse holds :: cursor)
  /-- Before a test of a loop. -/
  | retest {condition : Expression α} {body : Statement α} :
      Stands (.whileLoop condition body) [.whileLoop false]
  /-- In the body of a loop. -/
  | inBody {condition : Expression α} {body : Statement α} {cursor : List Frame} :
      Stands body cursor → Stands (.whileLoop condition body) (.whileLoop true :: cursor)
  /-- Before the next entity of a loop, or after the last. -/
  | nextItem {filter : EntityFilter} {name : String} {body : Statement α}
      {items : List EntityId} : Stands (.forEach filter name body) [.forEach items false]
  /-- In the body of a loop for an entity. -/
  | item {filter : EntityFilter} {name : String} {body : Statement α} {item : EntityId}
      {rest : List EntityId} {cursor : List Frame} : Stands body cursor →
      Stands (.forEach filter name body) (.forEach (item :: rest) true :: cursor)
  /-- After the last statement of a sequence. -/
  | sequenceEnd {statements : List (Statement α)} {index : Nat} : statements.drop index = [] →
      Stands (.sequence statements) [.sequence index]
  /-- In a statement of a sequence. -/
  | member {statements rest : List (Statement α)} {s : Statement α} {index : Nat}
      {cursor : List Frame} : statements.drop index = s :: rest → Stands s cursor →
      Stands (.sequence statements) (.sequence index :: cursor)

/-- A cursor that fits a statement stands in it. -/
theorem stands_of_fits {s : Statement α} {cursor : List Frame} (h : s.Fits cursor) :
    s.Stands cursor := by
  induction s using Statement.inductionOn generalizing cursor with
  | leaf s hleaf =>
    rw [eq_nil_of_fits_of_leaf hleaf h]
    exact .begun s
  | ifElse condition then_ otherwise ihthen ihotherwise =>
    rcases cursor with - | ⟨_ | ⟨_ | _⟩ | _ | _, cursor⟩
    · exact .begun _
    · simp [Fits] at h
    · exact .branch (ihotherwise h)
    · exact .branch (ihthen h)
    · simp [Fits] at h
    · simp [Fits] at h
  | whileLoop condition body ih =>
    rcases cursor with - | ⟨_ | _ | ⟨_ | _⟩ | _, cursor⟩
    · exact .begun _
    · simp [Fits] at h
    · simp [Fits] at h
    · obtain rfl : cursor = [] := by simpa [Fits] using h
      exact .retest
    · exact .inBody (ih (by simpa [Fits] using h))
    · simp [Fits] at h
  | forEach filter name body ih =>
    rcases cursor with - | ⟨_ | _ | _ | ⟨_ | ⟨item, rest⟩, _ | _⟩, cursor⟩
    · exact .begun _
    · simp [Fits] at h
    · simp [Fits] at h
    · simp [Fits] at h
    · simp [Fits] at h
    · simp [Fits] at h
    · obtain rfl : cursor = [] := by simpa [Fits] using h
      exact .nextItem
    · exact .item (ih (by simpa [Fits] using h))
  | sequence statements ih =>
    rcases cursor with - | ⟨⟨index⟩ | _ | _ | _, cursor⟩
    · exact .begun _
    · rw [Fits, fitsAt_iff] at h
      obtain ⟨s, rest, hdrop, hs⟩ := h
      have hmem : s ∈ statements := mem_of_drop_eq_cons hdrop
      exact .member hdrop (ih s hmem hs)
    · simp [Fits] at h
    · simp [Fits] at h
    · simp [Fits] at h

end Statement

/-! ### Where a step leads -/

namespace Advance

/-- Where the execution is after the step, if it has not come to an end. -/
def cursor? : Advance α σ → Option (List Frame)
  | onward next => some next.cursor
  | ended (.suspended _ cursor) _ => some cursor
  | ended _ _ => none

/-- Whether the step is the last of the statement, which is done. -/
def IsDone : Advance α σ → Prop
  | ended .done _ => True
  | _ => False

/-- The step at the end of a path as one of the whole. -/
def beneath (path : List Frame) : Advance α σ → Advance α σ
  | onward x => onward ⟨path ++ x.cursor, x.machine⟩
  | ended (.suspended reason cursor) m => ended (.suspended reason (path ++ cursor)) m
  | ended flow m => ended flow m

variable {m : Machine α σ} {a : Advance α σ} {frame : Frame} {cursor : List Frame}
  {next : Machine α σ → Advance α σ}

/-- A step at the root is the step itself. -/
@[simp] theorem beneath_nil (a : Advance α σ) : a.beneath [] = a := by
  rcases a with x | ⟨_ | _ | _ | _, m⟩ <;> rfl

private theorem eq_of_isDone (h : a.IsDone) : ∃ m, a = .ended .done m := by
  rcases a with x | ⟨_ | _ | _ | _, m⟩
  · exact absurd h id
  · exact ⟨m, rfl⟩
  all_goals exact absurd h id

private theorem under_of_not_done (h : ¬a.IsDone) : a.under frame next = a.beneath [frame] := by
  rcases a with x | ⟨_ | _ | _ | _, m⟩
  · rfl
  · exact absurd trivial h
  · rfl
  · rfl
  · rfl

private theorem beneath_beneath (path path' : List Frame) (a : Advance α σ) :
    (a.beneath path').beneath path = a.beneath (path ++ path') := by
  rcases a with x | ⟨_ | _ | _ | _, m⟩ <;> simp [beneath]

/-- A step beneath a path is done if the step is. -/
@[simp] theorem isDone_beneath (path : List Frame) (a : Advance α σ) :
    (a.beneath path).IsDone ↔ a.IsDone := by
  rcases a with x | ⟨_ | _ | _ | _, m⟩ <;> rfl

/-- A step beneath a path is at a place beneath the path. -/
@[simp] theorem cursor?_beneath (path : List Frame) (a : Advance α σ) :
    (a.beneath path).cursor? = a.cursor?.map (path ++ ·) := by
  rcases a with x | ⟨_ | _ | _ | _, m⟩ <;> rfl

/-- A charged step goes on, or stops where it was. -/
theorem charge_cases (cursor : List Frame) (m : Machine α σ) (go : Machine α σ → Advance α σ) :
    charge cursor m go = .ended (.suspended .budget cursor) m ∨
      ∃ m', m.spend? = some m' ∧ charge cursor m go = go m' := by
  rw [charge]
  cases m.spend? with
  | none => exact .inl rfl
  | some m' => exact .inr ⟨m', rfl, rfl⟩

/-- A step with a value goes on, or fails. -/
theorem withValue_cases {β : Type} (m : Machine α σ) (value : Except (Error α) β)
    (go : β → Advance α σ) :
    (∃ e, withValue m value go = .ended (.failed e) m) ∨
      ∃ v, value = .ok v ∧ withValue m value go = go v := by
  cases value with
  | ok v => exact .inr ⟨v, rfl, rfl⟩
  | error e => exact .inl ⟨e, rfl⟩

/-- After the step of a part the whole is in the part, or goes on when that is done. -/
theorem under_cases (a : Advance α σ) (frame : Frame) (next : Machine α σ → Advance α σ) :
    a.under frame next = a.beneath [frame] ∨
      ∃ m, a = .ended .done m ∧ a.under frame next = next m := by
  by_cases hdone : a.IsDone
  · obtain ⟨m, rfl⟩ := eq_of_isDone hdone
    exact .inr ⟨m, rfl, rfl⟩
  · exact .inl (under_of_not_done hdone)

/-- Where a charged step leads: to where it was, or on. -/
theorem cursor?_charge {go : Machine α σ → Advance α σ} {c : List Frame}
    (h : (charge cursor m go).cursor? = some c) :
    c = cursor ∨ ∃ m', m.spend? = some m' ∧ (go m').cursor? = some c := by
  obtain hstop | ⟨m', hm, hgo⟩ := charge_cases cursor m go
  · rw [hstop] at h
    exact .inl (Option.some.inj h).symm
  · exact .inr ⟨m', hm, hgo ▸ h⟩

/-- A place is come to only if there is a value. -/
theorem cursor?_withValue {β : Type} {value : Except (Error α) β} {go : β → Advance α σ}
    {c : List Frame} (h : (withValue m value go).cursor? = some c) :
    ∃ v, value = .ok v ∧ (go v).cursor? = some c := by
  obtain ⟨e, hfailed⟩ | ⟨v, hv, hgo⟩ := withValue_cases m value go
  · rw [hfailed] at h
    cases h
  · exact ⟨v, hv, hgo ▸ h⟩

/-- Where the step of a part leads: further in the part, or on when it is done. -/
theorem cursor?_under {c : List Frame} (h : (a.under frame next).cursor? = some c) :
    (∃ inner, a.cursor? = some inner ∧ c = frame :: inner) ∨
      ∃ m', a = .ended .done m' ∧ (next m').cursor? = some c := by
  obtain hpart | ⟨m', hdone, hnext⟩ := under_cases a frame next
  · rw [hpart, cursor?_beneath, Option.map_eq_some_iff] at h
    obtain ⟨inner, hinner, rfl⟩ := h
    exact .inl ⟨inner, hinner, rfl⟩
  · exact .inr ⟨m', hdone, hnext ▸ h⟩

/-- A step that is charged for goes on only if a unit is left. -/
theorem onward_of_charge {go : Machine α σ → Advance α σ} {x : Moment α σ}
    (h : charge cursor m go = .onward x) : ∃ m', m.spend? = some m' ∧ go m' = .onward x := by
  obtain hstop | ⟨m', hm, hgo⟩ := charge_cases cursor m go
  · cases hstop.symm.trans h
  · exact ⟨m', hm, hgo.symm.trans h⟩

/-- A step that needs a value goes on only if there is one. -/
theorem onward_of_withValue {β : Type} {value : Except (Error α) β} {go : β → Advance α σ}
    {x : Moment α σ} (h : withValue m value go = .onward x) :
    ∃ v, value = .ok v ∧ go v = .onward x := by
  obtain ⟨e, hfailed⟩ | ⟨v, hv, hgo⟩ := withValue_cases m value go
  · cases hfailed.symm.trans h
  · exact ⟨v, hv, hgo.symm.trans h⟩

/-- A step beneath a path goes on only if the step does. -/
theorem onward_of_beneath {path : List Frame} {x : Moment α σ} (h : a.beneath path = .onward x) :
    ∃ y, a = .onward y ∧ x = ⟨path ++ y.cursor, y.machine⟩ := by
  rcases a with y | ⟨_ | _ | _ | _, m'⟩
  · cases h
    exact ⟨y, rfl, rfl⟩
  all_goals cases h

/-- A step beneath a path is suspended only if the step is, at a place beneath the path. -/
theorem suspended_of_beneath {path c : List Frame} {reason : SuspendReason}
    (h : a.beneath path = .ended (.suspended reason c) m) :
    ∃ inner, a = .ended (.suspended reason inner) m ∧ c = path ++ inner := by
  rcases a with y | ⟨_ | ⟨reason', inner⟩ | _ | _, m'⟩
  case ended.suspended =>
    cases h
    exact ⟨inner, rfl, rfl⟩
  all_goals cases h

/-- A whole that goes on is in the part, or behind it. -/
theorem onward_of_under {x : Moment α σ} (h : a.under frame next = .onward x) :
    (∃ y, a = .onward y ∧ x = ⟨frame :: y.cursor, y.machine⟩) ∨
      ∃ m', a = .ended .done m' ∧ next m' = .onward x := by
  obtain hpart | ⟨m', hdone, hnext⟩ := under_cases a frame next
  · exact .inl (onward_of_beneath (hpart.symm.trans h))
  · exact .inr ⟨m', hdone, hnext.symm.trans h⟩

end Advance

namespace Statement

variable [Scalar α] [Environment α σ] {s : Statement α} {cursor c : List Frame} {m : Machine α σ}

/-- A statement without parts stops before it, if it stops. -/
theorem eq_nil_of_cursor?_leaf (hleaf : s.isControlFlow = false)
    (hstep : (s.advance cursor m).cursor? = some c) : c = [] := by
  rw [advance_leaf hleaf] at hstep
  rcases hend : s.exec cursor m with ⟨_ | ⟨reason, cursor'⟩ | _ | _, m'⟩
  · simp [hend, Advance.cursor?] at hstep
  · obtain rfl : cursor' = c := by simpa [hend, Advance.cursor?] using hstep
    exact cursor_eq_nil_of_leaf hleaf hend
  · simp [hend, Advance.cursor?] at hstep
  · simp [hend, Advance.cursor?] at hstep

omit [Scalar α] in
/-- In a sequence there is a statement at each place up to the end. -/
theorem stands_sequence (statements : List (Statement α)) (index : Nat) :
    (sequence statements).Stands [.sequence index] := by
  rcases hdrop : statements.drop index with - | ⟨s, rest⟩
  · exact .sequenceEnd hdrop
  · exact .member hdrop (.begun s)

/-- A statement that is begun is entered. -/
theorem stands_of_begun (hstep : (s.advance [] m).cursor? = some c) : s.Stands c := by
  cases hcontrol : s.isControlFlow with
  | false =>
    rw [eq_nil_of_cursor?_leaf hcontrol hstep]
    exact .begun s
  | true =>
    cases s with
    | ifElse condition then_ otherwise =>
      obtain rfl | ⟨m', -, hgo⟩ := Advance.cursor?_charge hstep
      · exact .begun _
      · obtain ⟨holds, -, hgo⟩ := Advance.cursor?_withValue hgo
        obtain rfl := Option.some.inj hgo
        exact .branch (.begun _)
    | whileLoop condition body =>
      obtain rfl := Option.some.inj hstep
      exact .retest
    | forEach filter name body =>
      obtain rfl := Option.some.inj hstep
      exact .nextItem
    | sequence statements =>
      obtain rfl := Option.some.inj hstep
      exact stands_sequence statements 0
    | _ => cases hcontrol

/-- **An execution of a statement stands in it** at each of its moments, and where it stops. -/
theorem Stands.advance (h : s.Stands cursor) (hstep : (s.advance cursor m).cursor? = some c) :
    s.Stands c := by
  induction h generalizing c with
  | begun s => exact stands_of_begun hstep
  | @branch condition then_ otherwise holds cursor _ ih =>
    rw [advance_branch] at hstep
    obtain ⟨inner, hinner, rfl⟩ | ⟨m', -, hdone⟩ := Advance.cursor?_under hstep
    · exact .branch (ih hinner)
    · cases hdone
  | retest =>
    obtain rfl | ⟨m', -, hgo⟩ := Advance.cursor?_charge hstep
    · exact .retest
    · obtain ⟨holds, -, hgo⟩ := Advance.cursor?_withValue hgo
      cases holds with
      | false => cases hgo
      | true =>
        obtain rfl := Option.some.inj hgo
        exact .inBody (.begun _)
  | inBody _ ih =>
    obtain ⟨inner, hinner, rfl⟩ | ⟨m', -, hdone⟩ := Advance.cursor?_under hstep
    · exact .inBody (ih hinner)
    · obtain rfl := Option.some.inj hdone
      exact .retest
  | @nextItem filter name body items =>
    rcases items with - | ⟨item, rest⟩
    · cases hstep
    · by_cases hgone : (m.kindOf item).isNone = true
      · rw [advance_lostItem rest false [] hgone] at hstep
        obtain rfl := Option.some.inj hstep
        exact .nextItem
      · rw [advance_nextItem rest [] hgone] at hstep
        obtain rfl | ⟨m', -, hgo⟩ := Advance.cursor?_charge hstep
        · exact .nextItem
        · obtain rfl := Option.some.inj hgo
          exact .item (.begun _)
  | @item filter name body item rest cursor _ ih =>
    by_cases hgone : (m.kindOf item).isNone = true
    · rw [advance_lostItem rest true cursor hgone] at hstep
      obtain rfl := Option.some.inj hstep
      exact .nextItem
    · rw [advance_item rest cursor hgone] at hstep
      obtain ⟨inner, hinner, rfl⟩ | ⟨m', -, hdone⟩ := Advance.cursor?_under hstep
      · exact .item (ih hinner)
      · obtain rfl := Option.some.inj hdone
        exact .nextItem
  | sequenceEnd hdrop =>
    rw [advance_end hdrop] at hstep
    cases hstep
  | @member statements rest s index cursor hdrop _ ih =>
    rw [advance_member hdrop] at hstep
    obtain ⟨inner, hinner, rfl⟩ | ⟨m', -, hdone⟩ := Advance.cursor?_under hstep
    · exact .member hdrop (ih hinner)
    · obtain rfl := Option.some.inj hdone
      exact stands_sequence statements (index + 1)

end Statement

/-- The moments of a run stand in the program. -/
theorem ProgramInstance.InRun.stands [Scalar α] [Environment α σ] {i : ProgramInstance α}
    {budget : Nat} {state : σ} {x : Moment α σ} (h : i.InRun budget state x) (hmade : i.Made) :
    i.program.root.Stands x.cursor := by
  induction h with
  | begins _ => exact Statement.stands_of_fits hmade.fits
  | goesOn _ hgo ih => exact ih.advance (congrArg Advance.cursor? hgo)

/-! ### Paths -/

/-- The part of a statement that is in execution behind a frame. Behind a loop over entities there
is one as long as the loop is on an entity. -/
def Statement.part? : Statement α → Frame → Option (Statement α)
  | .ifElse _ then_ otherwise, .ifElse holds => some (if holds then then_ else otherwise)
  | .whileLoop _ body, .whileLoop true => some body
  | .forEach _ _ body, .forEach (_ :: _) true => some body
  | .sequence statements, .sequence index => statements[index]?
  | _, _ => none

/-- The statement that a path leads to, from part to part. -/
def Statement.at? (s : Statement α) (path : List Frame) : Option (Statement α) :=
  path.foldlM part? s

/-- Whether a loop over entities has lost the entity that it is on. -/
def Frame.HasLost (view : View α) : Frame → Prop
  | .forEach (item :: _) _ => (view.kindOf item).isNone = true
  | _ => False

/-- Whether a cursor is inside the statement that a path leads to. -/
def Frame.Inside (path cursor : List Frame) : Prop :=
  ∃ frame inner, cursor = path ++ frame :: inner

namespace Statement

variable [Scalar α] [Environment α σ] {s t : Statement α} {path cursor : List Frame}
  {m : Machine α σ}

omit [Scalar α] [Environment α σ] in
/-- What each part has from the whole is had along a path. -/
theorem at?_keeps {P : Statement α → Prop}
    (hkeeps : ∀ s frame part, P s → s.part? frame = some part → P part) (hs : P s)
    (hat : s.at? path = some t) : P t := by
  induction path generalizing s with
  | nil =>
    obtain rfl := Option.some.inj hat
    exact hs
  | cons frame path ih =>
    obtain ⟨part, hpart, hat⟩ := Option.bind_eq_some_iff.mp hat
    exact ih (hkeeps s frame part hs hpart) hat

/-- How the first frame of a path is passed. While it has lost no entity, a step is one of the part
behind the frame, and another frame follows when the part is done. An entity that is lost changes
the frame at once. -/
structure Passes (σ : Type) [Environment α σ] (s : Statement α) (frame : Frame)
    (part : Statement α) (next : Machine α σ → Advance α σ) : Prop where
  advance_kept : ∀ (cursor : List Frame) (m : Machine α σ),
    ¬frame.HasLost (Environment.view m.state) →
    s.advance (frame :: cursor) m = (part.advance cursor m).under frame next
  head_next : ∀ (m : Machine α σ) (c : List Frame),
    (next m).cursor? = some c → c.head? ≠ some frame
  advance_lost : ∀ (cursor : List Frame) (m : Machine α σ),
    frame.HasLost (Environment.view m.state) →
    ∃ c, s.advance (frame :: cursor) m = .onward ⟨c, m⟩ ∧ c.head? ≠ some frame

variable (σ) in
/-- Every frame of a path is passed in this way. -/
theorem exists_passes {frame : Frame} {part : Statement α} (hpart : s.part? frame = some part) :
    ∃ next, Passes σ s frame part next := by
  unfold part? at hpart
  split at hpart
  next condition then_ otherwise holds =>
    obtain rfl := Option.some.inj hpart
    exact ⟨.ended .done, fun cursor m _ => advance_branch holds cursor m, nofun, nofun⟩
  next condition body =>
    obtain rfl := Option.some.inj hpart
    refine ⟨fun m => .onward ⟨[.whileLoop false], m⟩, fun _ _ _ => rfl, ?_, nofun⟩
    rintro m c hc
    obtain rfl := Option.some.inj hc
    simp
  next filter name body item rest =>
    obtain rfl := Option.some.inj hpart
    refine ⟨fun m => .onward ⟨[.forEach rest false], m⟩, ?_, ?_, ?_⟩
    · exact fun cursor m hkept => advance_item rest cursor hkept
    · rintro m c hc
      obtain rfl := Option.some.inj hc
      simp
    · exact fun cursor m hlost => ⟨_, advance_lostItem rest true cursor hlost, by simp⟩
  next statements index =>
    obtain ⟨hindex, rfl⟩ := List.getElem?_eq_some_iff.mp hpart
    have hdrop := List.drop_eq_getElem_cons hindex
    refine ⟨fun m => .onward ⟨[.sequence (index + 1)], m⟩, ?_, ?_, nofun⟩
    · exact fun cursor m _ => advance_member hdrop cursor m
    · rintro m c hc
      obtain rfl := Option.some.inj hc
      simp
  next => cases hpart

/-- **The steps at the end of a path are steps of the whole**, as long as the part is not done and
no loop on the path has lost its entity. -/
theorem advance_append (hat : s.at? path = some t)
    (hkept : ∀ frame ∈ path, ¬frame.HasLost (Environment.view m.state))
    (hnot : ¬(t.advance cursor m).IsDone) :
    s.advance (path ++ cursor) m = (t.advance cursor m).beneath path := by
  induction path generalizing s with
  | nil =>
    obtain rfl := Option.some.inj hat
    exact (Advance.beneath_nil _).symm
  | cons frame path ih =>
    obtain ⟨part, hpart, hat⟩ := Option.bind_eq_some_iff.mp hat
    obtain ⟨next, hpasses⟩ := exists_passes σ hpart
    have hstep := ih hat fun frame hmem => hkept frame (List.mem_cons_of_mem _ hmem)
    have hframe := hkept frame List.mem_cons_self
    rw [List.cons_append, hpasses.advance_kept _ _ hframe, hstep,
      Advance.under_of_not_done (by simpa using hnot), Advance.beneath_beneath]
    rfl

/-- **The execution leaves a path** when the part is done, or when a loop on the path has lost its
entity. -/
theorem not_inside_of_left (hat : s.at? path = some t)
    (hleft : (t.advance cursor m).IsDone ∨
      ∃ frame ∈ path, frame.HasLost (Environment.view m.state))
    {c : List Frame} (hstep : (s.advance (path ++ cursor) m).cursor? = some c) :
    ¬Frame.Inside path c := by
  induction path generalizing s c with
  | nil =>
    obtain rfl := Option.some.inj hat
    rcases hleft with hdone | ⟨frame, hmem, -⟩
    · obtain ⟨m', hend⟩ := Advance.eq_of_isDone hdone
      rw [List.nil_append, hend] at hstep
      cases hstep
    · cases hmem
  | cons frame path ih =>
    obtain ⟨part, hpart, hat⟩ := Option.bind_eq_some_iff.mp hat
    obtain ⟨next, hpasses⟩ := exists_passes σ hpart
    rintro ⟨frame', inner, rfl⟩
    by_cases hlost : frame.HasLost (Environment.view m.state)
    · obtain ⟨c', hadvance, hhead⟩ := hpasses.advance_lost (path ++ cursor) m hlost
      rw [List.cons_append, hadvance] at hstep
      obtain rfl := Option.some.inj hstep
      exact hhead rfl
    · rw [List.cons_append, hpasses.advance_kept _ _ hlost] at hstep
      obtain ⟨inner', hinner, hc⟩ | ⟨m', -, hnext⟩ := Advance.cursor?_under hstep
      · obtain rfl := (List.cons.inj hc).2
        refine ih hat ?_ hinner ⟨frame', inner, rfl⟩
        rcases hleft with hdone | ⟨lost, hmem, hlost'⟩
        · exact .inl hdone
        · obtain rfl | hmem := List.mem_cons.mp hmem
          · exact absurd hlost' hlost
          · exact .inr ⟨lost, hmem, hlost'⟩
      · exact hpasses.head_next _ _ hnext rfl

/-- A step that stays inside the statement at the end of a path is a step of that statement. -/
theorem advance_of_inside (hat : s.at? path = some t) {c : List Frame}
    (hstep : (s.advance (path ++ cursor) m).cursor? = some c) (hinside : Frame.Inside path c) :
    s.advance (path ++ cursor) m = (t.advance cursor m).beneath path := by
  refine advance_append hat (fun frame hmem hlost => ?_) fun hdone => ?_
  · exact not_inside_of_left hat (.inr ⟨frame, hmem, hlost⟩) hstep hinside
  · exact not_inside_of_left hat (.inl hdone) hstep hinside

omit [Scalar α] in
/-- What stands in a statement behind a frame stands in the part there. -/
theorem Stands.part {frame : Frame} {part : Statement α} (h : s.Stands (frame :: cursor))
    (hpart : s.part? frame = some part) : part.Stands cursor := by
  cases h with
  | branch h =>
    obtain rfl := Option.some.inj hpart
    exact h
  | retest => cases hpart
  | inBody h =>
    obtain rfl := Option.some.inj hpart
    exact h
  | @nextItem _ _ _ items => cases items <;> cases hpart
  | item h =>
    obtain rfl := Option.some.inj hpart
    exact h
  | sequenceEnd hdrop =>
    have hbeyond := List.drop_eq_nil_iff.mp hdrop
    rw [part?, List.getElem?_eq_none hbeyond] at hpart
    cases hpart
  | @member statements rest s index _ hdrop h =>
    have hs : statements[index]? = some s := by
      rw [← List.head?_drop, hdrop, List.head?_cons]
    cases hs.symm.trans hpart
    exact h

omit [Scalar α] in
/-- What stands in a statement behind a path stands in the statement that the path leads to. -/
theorem Stands.at (h : s.Stands (path ++ cursor)) (hat : s.at? path = some t) :
    t.Stands cursor := by
  induction path generalizing s with
  | nil =>
    obtain rfl := Option.some.inj hat
    exact h
  | cons frame path ih =>
    obtain ⟨part, hpart, hat⟩ := Option.bind_eq_some_iff.mp hat
    exact ih (h.part hpart) hat

end Statement

end WormBattle
