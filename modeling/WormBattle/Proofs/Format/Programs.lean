import WormBattle.Format.Program
import WormBattle.Proofs.Execution.Cursor
import WormBattle.Proofs.Format.Forms

/-!
# The form of a program loses nothing

The form of a program, and of each of its parts, is read back as what it is the form of, wherever it
stands, unless it holds a double that is not finite; then it is not read back at all
(`Program.ofJson?_toJson`). The decoders of statements and expressions take a bound on the depth of
the form, and any bound that is not below the depth will do.

References to entities are numbers of 64 bits. Programs that keep to that **fit** their form.
-/

namespace WormBattle

open Json (nat optional object Doubles onlyIf)

/-! ### Names -/

private theorem UnaryOp.ofName?_name (op : UnaryOp) : ofName? op.name = onlyIf true op := by
  cases op <;> rfl

private theorem BinaryOp.ofName?_name (op : BinaryOp) : ofName? op.name = onlyIf true op := by
  cases op <;> rfl

private theorem Property.ofName?_name (property : Property) :
    ofName? property.name = onlyIf true property := by
  cases property <;> rfl

private theorem EntityFilter.ofName?_name (filter : EntityFilter) :
    ofName? filter.name = onlyIf true filter := by
  cases filter <;> rfl

/-! ### Values -/

namespace Value

/-- The doubles of a value. -/
def doubles : Value Float → Doubles
  | double x => .under (.member "value") (.one x)
  | bool _ | entity _ => []

/-- The number of a reference has 64 bits. -/
def FitsForm : Value Float → Prop
  | entity (some id) => id.value < Nat.pow 2 64
  | _ => True

/-- The form of a value shows its double. -/
theorem shows_doubles (v : Value Float) : v.toJson.Shows v.doubles := by
  cases v <;> simp [toJson, doubles]

/-- The form of a value can be read whole. -/
theorem isWhole_toJson (v : Value Float) : v.toJson.isWhole = true := by
  cases v with
  | double x => cases hx : x.isFinite <;>
      simp [toJson, Json.double, hx, Json.isWhole, Json.areWholeMembers]
  | bool b => rfl
  | entity id => cases id <;> rfl

/-- A value whose content is read back. -/
theorem ofJson?_object (place : Json.Place) (type : String) (content : Json) :
    ofJson? place (object [("type", .string type), ("value", content)]) =
      ofContent? type (some content) := by
  show ((object [("type", .string type), ("value", content)]).record? ["type", "value"] >>=
    fun fields => do
      ofContent? (← fields.required "type" (Json.constant? place)) (fields "value")) = _
  rw [Json.record?_object (by rfl) (by decide)]
  rfl

/-- A value that fits its form is read back if its double is finite. -/
theorem ofJson?_toJson {v : Value Float} (h : v.FitsForm) (place : Json.Place) :
    ofJson? place v.toJson = onlyIf v.doubles.areFinite v := by
  cases v with
  | double x =>
    rw [toJson, ofJson?_object]
    show (Json.double x).double?.map double = _
    rw [Json.double?_double, Json.onlyIf_map, doubles, Doubles.areFinite_under,
      Doubles.areFinite_one]
  | bool b =>
    rw [toJson, ofJson?_object]
    rfl
  | entity id =>
    have hid : ∀ n, id = some n → EntityId.ofJson? (nat n.value) = onlyIf true n := by
      rintro n rfl
      rw [EntityId.ofJson?, Json.unsigned?_nat h]
      rfl
    have hread := Json.optional?_optional (fun _ => Json.noConfusion) hid
    have hall : (id.all fun _ => true) = true := by cases id <;> rfl
    rw [hall] at hread
    rw [toJson, ofJson?_object]
    show ((optional (fun id : EntityId => nat id.value) id).optional? EntityId.ofJson?).map
      entity = _
    rw [hread]
    rfl

end Value

/-! ### Expressions -/

namespace Expression

/-- The doubles of an expression. -/
def doubles : Expression Float → Doubles
  | literal value => .under (.member "value") value.doubles
  | selfRef | global _ => []
  | unary _ operand => .under (.member "operand") operand.doubles
  | binary _ lhs rhs =>
    .under (.member "lhs") lhs.doubles ++ .under (.member "rhs") rhs.doubles
  | inspect _ target | sameTeam target | isWorm target | isFood target =>
    .under (.member "target") target.doubles
  | search angle => .under (.member "angle") angle.doubles

/-- The references in an expression have 64 bits. -/
def FitsForm : Expression Float → Prop
  | literal value => value.FitsForm
  | selfRef | global _ => True
  | unary _ operand => operand.FitsForm
  | binary _ lhs rhs => lhs.FitsForm ∧ rhs.FitsForm
  | inspect _ target | sameTeam target | isWorm target | isFood target => target.FitsForm
  | search angle => angle.FitsForm

/-- The form of an expression shows its doubles. -/
theorem shows_doubles (e : Expression Float) : e.toJson.Shows e.doubles := by
  induction e with
  | literal value => simpa [toJson, doubles] using value.shows_doubles
  | _ => simp_all [toJson, doubles]

/-- The form of an expression can be read whole. -/
theorem isWhole_toJson (e : Expression Float) : e.toJson.isWhole = true := by
  induction e with
  | literal value => simp [toJson, Json.isWhole, Json.areWholeMembers, value.isWhole_toJson]
  | _ => simp_all [toJson, Json.isWhole, Json.areWholeMembers]

private theorem ofJsonWithin?_toJson {e : Expression Float} (h : e.FitsForm) {bound : Nat}
    (place : Json.Place) (hbound : e.toJson.depth ≤ bound) :
    ofJsonWithin? bound place e.toJson = onlyIf e.doubles.areFinite e := by
  induction e generalizing bound place with
  | literal value =>
    obtain ⟨room, rfl, -⟩ := Json.exists_room_of_depth_object hbound
    rw [toJson, ofJsonWithin?, Json.tagged?_object_bind (by simp), doubles,
      Doubles.areFinite_under]
    exact Json.record_one literal (Value.ofJson?_toJson h .inner)
  | selfRef =>
    obtain ⟨room, rfl, -⟩ := Json.exists_room_of_depth_object hbound
    rw [toJson, ofJsonWithin?, Json.tagged?_object_bind (by simp)]
    rfl
  | global name =>
    obtain ⟨room, rfl, -⟩ := Json.exists_room_of_depth_object hbound
    rw [toJson, ofJsonWithin?, Json.tagged?_object_bind (by simp)]
    exact Json.record_one global (Json.string?_string name)
  | unary op operand ih =>
    obtain ⟨room, rfl, hparts⟩ := Json.exists_room_of_depth_object hbound
    have hoperand := ih h .inner (hparts ("operand", _) (by simp))
    rw [toJson, ofJsonWithin?, Json.tagged?_object_bind (by simp), doubles,
      Doubles.areFinite_under]
    exact Eq.trans (Json.record_two unary (UnaryOp.ofName?_name op) hoperand (by decide)) rfl
  | binary op lhs rhs ihl ihr =>
    obtain ⟨room, rfl, hparts⟩ := Json.exists_room_of_depth_object hbound
    have hlhs := ihl h.1 .inner (hparts ("lhs", _) (by simp))
    have hrhs := ihr h.2 .inner (hparts ("rhs", _) (by simp))
    rw [toJson, ofJsonWithin?, Json.tagged?_object_bind (by simp), doubles,
      Doubles.areFinite_append, Doubles.areFinite_under, Doubles.areFinite_under]
    exact Eq.trans (Json.record_three binary (BinaryOp.ofName?_name op) hlhs hrhs (by decide)) rfl
  | inspect property target ih =>
    obtain ⟨room, rfl, hparts⟩ := Json.exists_room_of_depth_object hbound
    have htarget := ih h .inner (hparts ("target", _) (by simp))
    rw [toJson, ofJsonWithin?, Json.tagged?_object_bind (by simp), doubles,
      Doubles.areFinite_under]
    exact Eq.trans
      (Json.record_two inspect (Property.ofName?_name property) htarget (by decide)) rfl
  | sameTeam target ih | isWorm target ih | isFood target ih =>
    obtain ⟨room, rfl, hparts⟩ := Json.exists_room_of_depth_object hbound
    have htarget := ih h .inner (hparts ("target", _) (by simp))
    rw [toJson, ofJsonWithin?, Json.tagged?_object_bind (by simp), doubles,
      Doubles.areFinite_under]
    exact Json.record_one _ htarget
  | search angle ih =>
    obtain ⟨room, rfl, hparts⟩ := Json.exists_room_of_depth_object hbound
    have hangle := ih h .inner (hparts ("angle", _) (by simp))
    rw [toJson, ofJsonWithin?, Json.tagged?_object_bind (by simp), doubles,
      Doubles.areFinite_under]
    exact Json.record_one search hangle

/-- An expression that fits its form is read back if its doubles are finite. -/
theorem ofJson?_toJson {e : Expression Float} (h : e.FitsForm) (place : Json.Place) :
    ofJson? place e.toJson = onlyIf e.doubles.areFinite e := by
  rw [ofJson?, e.isWhole_toJson, if_pos rfl, ofJsonWithin?_toJson h place (Nat.le_refl _)]

end Expression

/-! ### Statements -/

namespace Statement

mutual

/-- The doubles of a statement. -/
def doubles : Statement Float → Doubles
  | turn angle => .under (.member "angle") angle.doubles
  | move | jump | toggleWeapon | skip => []
  | fire yieldPercent => .under (.member "yield_percent") yieldPercent.doubles
  | assign _ value | print value => .under (.member "value") value.doubles
  | ifElse condition then_ otherwise =>
    .under (.member "condition") condition.doubles ++ .under (.member "then") then_.doubles ++
      .under (.member "otherwise") otherwise.doubles
  | whileLoop condition body =>
    .under (.member "condition") condition.doubles ++ .under (.member "body") body.doubles
  | forEach _ _ body => .under (.member "body") body.doubles
  | sequence statements => .under (.member "statements") (doublesFrom 0 statements)

/-- The doubles of some statements of a sequence from a number on. -/
def doublesFrom : Nat → List (Statement Float) → Doubles
  | _, [] => []
  | index, s :: rest => .under (.item index) s.doubles ++ doublesFrom (index + 1) rest

end

mutual

/-- The references in a statement have 64 bits. -/
def FitsForm : Statement Float → Prop
  | turn e | fire e | assign _ e | print e => e.FitsForm
  | move | jump | toggleWeapon | skip => True
  | ifElse condition then_ otherwise => condition.FitsForm ∧ then_.FitsForm ∧ otherwise.FitsForm
  | whileLoop condition body => condition.FitsForm ∧ body.FitsForm
  | forEach _ _ body => body.FitsForm
  | sequence statements => AllFitForm statements

/-- The references in some statements have 64 bits. -/
def AllFitForm : List (Statement Float) → Prop
  | [] => True
  | s :: rest => s.FitsForm ∧ AllFitForm rest

end

private theorem allFitForm_iff {statements : List (Statement Float)} :
    AllFitForm statements ↔ ∀ s ∈ statements, s.FitsForm := by
  induction statements with
  | nil => simp [AllFitForm]
  | cons s rest ih => rw [AllFitForm, ih, List.forall_mem_cons]

private theorem doublesFrom_eq (index : Nat) (statements : List (Statement Float)) :
    doublesFrom index statements = .ofItems doubles index statements := by
  induction statements generalizing index with
  | nil => rfl
  | cons s rest ih => rw [doublesFrom, ih, Doubles.ofItems]

private theorem toJsonAll_eq (statements : List (Statement Float)) :
    toJsonAll statements = statements.map toJson := by
  induction statements with
  | nil => rfl
  | cons s rest ih => rw [toJsonAll, ih, List.map_cons]

/-- The form of a statement shows its doubles. -/
theorem shows_doubles (s : Statement Float) : s.toJson.Shows s.doubles := by
  induction s using inductionOn with
  | leaf s hleaf =>
    cases s with
    | ifElse | whileLoop | forEach | sequence => cases hleaf
    | _ => simp [toJson, doubles, Expression.shows_doubles]
  | sequence statements ih =>
    have hitems := Json.shows_ofItems ih []
    simpa [toJson, doubles, toJsonAll_eq, doublesFrom_eq] using hitems
  | _ => simp_all [toJson, doubles, Expression.shows_doubles]

/-- The form of a statement can be read whole. -/
theorem isWhole_toJson (s : Statement Float) : s.toJson.isWhole = true := by
  induction s using inductionOn with
  | leaf s hleaf =>
    cases s with
    | ifElse | whileLoop | forEach | sequence => cases hleaf
    | _ => simp [toJson, Json.isWhole, Json.areWholeMembers, Expression.isWhole_toJson]
  | sequence statements ih =>
    have hitems : Json.areWholeItems (statements.map toJson) = true := by
      induction statements with
      | nil => rfl
      | cons s rest ih' =>
        obtain ⟨hfirst, hrest⟩ := List.forall_mem_cons.mp ih
        rw [List.map_cons, Json.areWholeItems, hfirst, ih' hrest, Bool.and_self]
    simp [toJson, Json.isWhole, Json.areWholeMembers, toJsonAll_eq, hitems]
  | _ => simp_all [toJson, Json.isWhole, Json.areWholeMembers, Expression.isWhole_toJson]

private theorem ofJsonWithin?_toJson {s : Statement Float} (h : s.FitsForm) {bound : Nat}
    (place : Json.Place) (hbound : s.toJson.depth ≤ bound) :
    ofJsonWithin? bound place s.toJson = onlyIf s.doubles.areFinite s := by
  induction s using inductionOn generalizing bound place with
  | leaf s hleaf =>
    obtain ⟨room, rfl⟩ : ∃ room, bound = room + 1 := by
      refine ⟨bound - 1, ?_⟩
      have hpositive := s.toJson.depth_pos
      omega
    have hread : ∀ e : Expression Float, e.FitsForm →
        Expression.ofJson? .inner e.toJson = onlyIf e.doubles.areFinite e :=
      fun e he => Expression.ofJson?_toJson he .inner
    cases s with
    | ifElse | whileLoop | forEach | sequence => cases hleaf
    | turn e | fire e | print e =>
      rw [toJson, ofJsonWithin?, Json.tagged?_object_bind (by simp), doubles,
        Doubles.areFinite_under]
      exact Json.record_one _ (hread e h)
    | assign name e =>
      rw [toJson, ofJsonWithin?, Json.tagged?_object_bind (by simp), doubles,
        Doubles.areFinite_under]
      exact Json.record_two assign (Json.string?_string name) (hread e h) (by decide)
    | move | jump | toggleWeapon | skip =>
      rw [toJson, ofJsonWithin?, Json.tagged?_object_bind (by simp)]
      rfl
  | ifElse condition then_ otherwise ihthen ihelse =>
    obtain ⟨hcondition, hthen, hotherwise⟩ := h
    obtain ⟨room, rfl, hparts⟩ := Json.exists_room_of_depth_object hbound
    have hcondition := Expression.ofJson?_toJson hcondition .inner
    have hthen := ihthen hthen .inner (hparts ("then", _) (by simp))
    have hotherwise := ihelse hotherwise .inner (hparts ("otherwise", _) (by simp))
    rw [toJson, ofJsonWithin?, Json.tagged?_object_bind (by simp)]
    simp only [doubles, Doubles.areFinite_append, Doubles.areFinite_under, Bool.and_assoc]
    exact Json.record_three ifElse hcondition hthen hotherwise (by decide)
  | whileLoop condition body ih =>
    obtain ⟨hcondition, hbody⟩ := h
    obtain ⟨room, rfl, hparts⟩ := Json.exists_room_of_depth_object hbound
    have hcondition := Expression.ofJson?_toJson hcondition .inner
    have hbody := ih hbody .inner (hparts ("body", _) (by simp))
    rw [toJson, ofJsonWithin?, Json.tagged?_object_bind (by simp)]
    simp only [doubles, Doubles.areFinite_append, Doubles.areFinite_under]
    exact Json.record_two whileLoop hcondition hbody (by decide)
  | forEach filter name body ih =>
    obtain ⟨room, rfl, hparts⟩ := Json.exists_room_of_depth_object hbound
    have hbody := ih h .inner (hparts ("body", _) (by simp))
    rw [toJson, ofJsonWithin?, Json.tagged?_object_bind (by simp), doubles,
      Doubles.areFinite_under]
    exact Eq.trans (Json.record_three forEach (EntityFilter.ofName?_name filter)
      (Json.string?_string name) hbody (by decide)) rfl
  | sequence statements ih =>
    obtain ⟨room, rfl, hparts⟩ := Json.exists_room_of_depth_object hbound
    have hroom : (Json.array (statements.map toJson)).depth ≤ room := by
      rw [← toJsonAll_eq]
      exact hparts ("statements", _) (by simp)
    have hstatements := Json.list?_array toJson (ofJsonWithin? room .inner) fun s hs =>
      ih s hs (allFitForm_iff.mp h s hs) .inner
        (Json.depth_le_of_mem_array hroom s.toJson (List.mem_map_of_mem hs))
    rw [toJson, ofJsonWithin?, Json.tagged?_object_bind (by simp), toJsonAll_eq, doubles,
      Doubles.areFinite_under, doublesFrom_eq, Doubles.areFinite_ofItems]
    exact Json.record_one sequence hstatements

/-- A statement that fits its form is read back if its doubles are finite. -/
theorem ofJson?_toJson {s : Statement Float} (h : s.FitsForm) (place : Json.Place) :
    ofJson? place s.toJson = onlyIf s.doubles.areFinite s := by
  rw [ofJson?, s.isWhole_toJson, if_pos rfl, ofJsonWithin?_toJson h place (Nat.le_refl _)]

end Statement

/-! ### Programs -/

namespace Globals

/-- The doubles of a table of variables. -/
def doubles (globals : Globals Float) : Doubles :=
  .ofMembers Value.doubles globals.entries

/-- The references in a table of variables have 64 bits. -/
def FitsForm (globals : Globals Float) : Prop :=
  ∀ e ∈ globals.entries, e.2.FitsForm

/-- The form of a table of variables shows its doubles. -/
theorem shows_doubles (globals : Globals Float) : globals.toJson.Shows globals.doubles :=
  Json.shows_ofMembers globals.nodup fun e _ => e.2.shows_doubles

/-- The form of a table of variables can be read whole. -/
theorem isWhole_toJson (globals : Globals Float) : globals.toJson.isWhole = true := by
  rw [toJson, Json.isWhole]
  induction globals.entries with
  | nil => rfl
  | cons e rest ih =>
    rw [List.map_cons, Json.areWholeMembers, Value.isWhole_toJson, ih, Bool.and_self]

private theorem put_of_not_mem {name : String} {entries : List (String × Value Float)}
    (h : name ∉ entries.map Prod.fst) (value : Value Float) :
    put name value entries = entries ++ [(name, value)] := by
  induction entries with
  | nil => rfl
  | cons e rest ih =>
    obtain ⟨hne, hrest⟩ := not_or.mp (mt List.mem_cons.mpr h)
    rw [put, if_neg fun heq => hne heq.symm, ih hrest, List.cons_append]

/-- A table is made up of its own entries. -/
theorem ofList_entries (globals : Globals Float) : ofList globals.entries = globals := by
  -- Each entry has a name that is not among those before it, so it comes last.
  have hfold : ∀ (entries : List (String × Value Float)) (before : Globals Float),
      ((before.entries ++ entries).map Prod.fst).Nodup →
      (entries.foldl (fun globals e => globals.insert e.1 e.2) before).entries =
        before.entries ++ entries := by
    intro entries
    induction entries with
    | nil => exact fun before _ => (List.append_nil _).symm
    | cons e rest ih =>
      intro before hnodup
      have hnew : e.1 ∉ before.entries.map Prod.fst := by
        rw [List.map_append, List.map_cons] at hnodup
        exact fun hmem => List.disjoint_of_nodup_append hnodup hmem List.mem_cons_self
      have hinsert : (before.insert e.1 e.2).entries = before.entries ++ [e] :=
        put_of_not_mem hnew e.2
      rw [List.foldl_cons, ih (before.insert e.1 e.2) (by simpa [hinsert] using hnodup), hinsert,
        List.append_assoc, List.singleton_append]
  have hentries : (ofList globals.entries).entries = globals.entries :=
    hfold globals.entries .empty globals.nodup
  generalize ofList globals.entries = made at hentries ⊢
  obtain ⟨entries, nodup⟩ := made
  cases hentries
  rfl

/-- A table of variables that fits its form is read back if its doubles are finite. -/
theorem ofJson?_toJson {globals : Globals Float} (h : globals.FitsForm) (place : Json.Place) :
    ofJson? place globals.toJson = onlyIf globals.doubles.areFinite globals := by
  have hentry : ∀ e ∈ globals.entries, (do
      return (e.1, ← Value.ofJson? place e.2.toJson)) = onlyIf e.2.doubles.areFinite e := by
    intro e he
    rw [Value.ofJson?_toJson (h e he) place]
    exact Json.onlyIf_bind_pure _ _ _
  have hentries := Json.mapM_map_onlyIf (fun e => (e.1, e.2.toJson))
    (fun m => do return (m.1, ← Value.ofJson? place m.2)) hentry
  calc ofJson? place globals.toJson
      = (onlyIf (globals.entries.all fun e => e.2.doubles.areFinite) globals.entries).bind
          fun entries => pure (ofList entries) := by
        rw [← hentries]
        rfl
    _ = onlyIf globals.doubles.areFinite globals := by
        rw [← Option.bind_eq_bind, Json.onlyIf_bind_pure, ofList_entries, doubles,
          Json.Doubles.areFinite_ofMembers]

end Globals

namespace Program

/-- The doubles of a program. -/
def doubles (program : Program Float) : Doubles :=
  .under (.member "root") program.root.doubles ++
    .under (.member "globals") program.globals.doubles

/-- The references in a program have 64 bits. -/
def FitsForm (program : Program Float) : Prop :=
  program.root.FitsForm ∧ program.globals.FitsForm

/-- The form of a program shows its doubles. -/
theorem shows_doubles (program : Program Float) : program.toJson.Shows program.doubles := by
  simp [toJson, doubles, Statement.shows_doubles, Globals.shows_doubles]

/-- The form of a program can be read whole. -/
theorem isWhole_toJson (program : Program Float) : program.toJson.isWhole = true := by
  simp [toJson, Json.isWhole, Json.areWholeMembers, Statement.isWhole_toJson,
    Globals.isWhole_toJson]

/-- **The form of a program is read back as the program**, or not at all. -/
theorem ofJson?_toJson {program : Program Float} (h : program.FitsForm) (place : Json.Place) :
    ofJson? place program.toJson = onlyIf program.doubles.areFinite program := by
  have hroot := Statement.ofJson?_toJson h.1 place
  have hglobals := Globals.ofJson?_toJson h.2 place
  rw [ofJson?, toJson, Json.record?_object (by rfl) (by decide)]
  simp only [Json.required_fieldsOf, Json.default_fieldsOf, String.reduceEq, ↓reduceIte,
    Json.some_bind, hroot, hglobals, Json.onlyIf_bind_pure, Json.onlyIf_bind_onlyIf, doubles,
    Doubles.areFinite_append, Doubles.areFinite_under]

end Program

end WormBattle
