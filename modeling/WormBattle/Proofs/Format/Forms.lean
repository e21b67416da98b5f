import Mathlib.Data.List.Nodup
import WormBattle.Json.Tree

/-!
# What a form shows and what is read back from it

JSON has no word for a double that is not finite, so a form keeps a value only if all of its doubles
are finite. Two things are said of the form of a value, and both go by the **doubles** of the value
(`Json.Doubles`), each with the path at which its form stands:

* the form **shows** them (`Json.Shows`): the form of the double, which is `null` if it is not
  finite, stands at its path;
* the decoder gives the value back if all of them are finite, and nothing otherwise
  (`Json.onlyIf`).

Records and tagged choices are read back field by field (`Json.record?_object`,
`Json.tagged?_object`).
-/

namespace WormBattle.Json

variable {β γ : Type}

/-! ### Paths -/

/-- A step from a tree to one that it holds. -/
inductive Step where
  /-- To the member of that name of an object. -/
  | member (name : String)
  /-- To the element of that number of an array. -/
  | item (index : Nat)
  deriving Repr, DecidableEq

/-- The tree at the end of a path. -/
def at? : Json → List Step → Option Json
  | j, [] => some j
  | object members, .member name :: path =>
    (members.find? fun m => m.1 == name).bind fun m => m.2.at? path
  | array items, .item index :: path => items[index]?.bind fun j => j.at? path
  | _, _ => none

/-- The doubles of a value, each with the path of its form. -/
abbrev Doubles : Type :=
  List (List Step × Float)

namespace Doubles

/-- A double that is a value by itself. -/
def one (x : Float) : Doubles :=
  [([], x)]

/-- The doubles of a value whose form stands one step further down. -/
def under (step : Step) (doubles : Doubles) : Doubles :=
  doubles.map fun d => (step :: d.1, d.2)

/-- The doubles of some values whose forms are the elements of an array from a number on. -/
def ofItems (doubles : β → Doubles) : Nat → List β → Doubles
  | _, [] => []
  | index, v :: rest => under (.item index) (doubles v) ++ ofItems doubles (index + 1) rest

/-- The doubles of some values whose forms are members of an object. -/
def ofMembers (doubles : β → Doubles) (entries : List (String × β)) : Doubles :=
  entries.flatMap fun e => under (.member e.1) (doubles e.2)

/-- The doubles of a value that may be absent. -/
def ofOption (doubles : β → Doubles) : Option β → Doubles
  | some v => doubles v
  | none => []

/-- Whether all of some doubles are finite. -/
def areFinite (doubles : Doubles) : Bool :=
  doubles.all fun d => d.2.isFinite

/-- Two lists of doubles are finite together if both are. -/
@[simp] theorem areFinite_append (doubles others : Doubles) :
    areFinite (doubles ++ others) = (doubles.areFinite && others.areFinite) :=
  List.all_append

/-- A single double is finite if it is. -/
@[simp] theorem areFinite_one (x : Float) : (one x).areFinite = x.isFinite :=
  Bool.and_true _

/-- Where doubles stand does not matter for whether they are finite. -/
@[simp] theorem areFinite_under (step : Step) (doubles : Doubles) :
    (doubles.under step).areFinite = doubles.areFinite := by
  simp only [areFinite, under, List.all_map, Function.comp_def]

/-- The doubles of a list of values are finite if those of every value are. -/
@[simp] theorem areFinite_ofItems (doubles : β → Doubles) (index : Nat) (values : List β) :
    (ofItems doubles index values).areFinite = values.all fun v => (doubles v).areFinite := by
  induction values generalizing index with
  | nil => rfl
  | cons v rest ih => rw [ofItems, areFinite_append, areFinite_under, ih, List.all_cons]

/-- The doubles of an optional value are finite if those of the value are. -/
@[simp] theorem areFinite_ofOption (doubles : β → Doubles) (v : Option β) :
    (ofOption doubles v).areFinite = v.all fun v => (doubles v).areFinite := by
  cases v <;> rfl

/-- The doubles of named values are finite if those of every value are. -/
@[simp] theorem areFinite_ofMembers (doubles : β → Doubles) (entries : List (String × β)) :
    (ofMembers doubles entries).areFinite = entries.all fun e => (doubles e.2).areFinite := by
  rw [areFinite, ofMembers, List.all_flatMap]
  congr 1
  funext e
  exact areFinite_under _ _

end Doubles

/-! ### What a form shows -/

/-- The form of each of some doubles stands at its path. -/
def Shows (j : Json) (doubles : Doubles) : Prop :=
  ∀ d ∈ doubles, j.at? d.1 = some (double d.2)

/-- Every form shows no doubles. -/
@[simp] theorem shows_nil (j : Json) : j.Shows [] :=
  fun _ h => absurd h List.not_mem_nil

/-- A form shows two lists of doubles if it shows both. -/
@[simp] theorem shows_append {j : Json} {doubles others : Doubles} :
    j.Shows (doubles ++ others) ↔ j.Shows doubles ∧ j.Shows others :=
  List.forall_mem_append

/-- A form that shows a double at its root is the double. -/
@[simp] theorem shows_one {j : Json} {x : Float} : j.Shows (.one x) ↔ j = double x := by
  rw [Shows, Doubles.one, List.forall_mem_singleton, at?, Option.some.injEq]

/-- The doubles below a member are shown by the first member of that name. -/
@[simp] theorem shows_under_member {name name' : String} {j : Json}
    {members : List (String × Json)} {doubles : Doubles} :
    (object ((name', j) :: members)).Shows (doubles.under (.member name)) ↔
      if name' = name then j.Shows doubles
      else (object members).Shows (doubles.under (.member name)) := by
  simp only [Shows, Doubles.under, List.forall_mem_map, at?, List.find?_cons]
  by_cases h : name' = name
  · simp [h]
  · have hne : (name' == name) = false := beq_eq_false_iff_ne.mpr h
    rw [hne, if_neg h]

/-- The form of an optional value shows the doubles of the value. -/
theorem shows_ofOption {encode : β → Json} {doubles : β → Doubles}
    (h : ∀ v, (encode v).Shows (doubles v)) (v : Option β) :
    (optional encode v).Shows (.ofOption doubles v) := by
  cases v with
  | none => exact shows_nil _
  | some v => exact h v

/-- The doubles of the elements of an array are shown by the elements. -/
theorem shows_ofItems {encode : β → Json} {doubles : β → Doubles} {values : List β}
    (h : ∀ v ∈ values, (encode v).Shows (doubles v)) (before : List Json) :
    (array (before ++ values.map encode)).Shows (.ofItems doubles before.length values) := by
  induction values generalizing before with
  | nil => exact shows_nil _
  | cons v rest ih =>
    obtain ⟨hfirst, hrest⟩ := List.forall_mem_cons.mp h
    refine shows_append.mpr ⟨?_, ?_⟩
    · rw [Shows, Doubles.under, List.forall_mem_map]
      intro d hd
      simpa [at?] using hfirst d hd
    · simpa using ih hrest (before ++ [encode v])

/-- The doubles of members of different names are shown by the members. -/
theorem shows_ofMembers {encode : β → Json} {doubles : β → Doubles} {entries : List (String × β)}
    (hnodup : (entries.map Prod.fst).Nodup)
    (h : ∀ e ∈ entries, (encode e.2).Shows (doubles e.2)) :
    (object (entries.map fun e => (e.1, encode e.2))).Shows (.ofMembers doubles entries) := by
  have hmember : ∀ e ∈ entries, (object (entries.map fun e => (e.1, encode e.2))).Shows
      (Doubles.under (.member e.1) (doubles e.2)) := by
    induction entries with
    | nil => exact fun _ h => absurd h List.not_mem_nil
    | cons first rest ih =>
      obtain ⟨hnew, hnodup⟩ := List.nodup_cons.mp hnodup
      obtain ⟨hfirst, hrest⟩ := List.forall_mem_cons.mp h
      intro e he
      rw [List.map_cons, shows_under_member]
      rcases List.mem_cons.mp he with rfl | he
      · rwa [if_pos rfl]
      · have hne : first.1 ≠ e.1 := fun heq => hnew (heq ▸ List.mem_map_of_mem he)
        rw [if_neg hne]
        exact ih hnodup hrest e he
  intro d hd
  obtain ⟨e, he, hd⟩ := List.mem_flatMap.mp hd
  exact hmember e he d hd

/-! ### Parts and their depth -/

private theorem depth_le_of_mem_members {members : List (String × Json)} {m : String × Json}
    (h : m ∈ members) : m.2.depth ≤ depthOfMembers members := by
  induction members with
  | nil => cases h
  | cons first rest ih =>
    rw [depthOfMembers]
    rcases List.mem_cons.mp h with rfl | h
    · exact Nat.le_max_left _ _
    · exact Nat.le_trans (ih h) (Nat.le_max_right _ _)

private theorem depth_le_of_mem_items {items : List Json} {j : Json} (h : j ∈ items) :
    j.depth ≤ depthOfItems items := by
  induction items with
  | nil => cases h
  | cons first rest ih =>
    rw [depthOfItems]
    rcases List.mem_cons.mp h with rfl | h
    · exact Nat.le_max_left _ _
    · exact Nat.le_trans (ih h) (Nat.le_max_right _ _)

/-- Every form has some depth. -/
theorem depth_pos (j : Json) : 0 < j.depth := by
  cases j <;> simp [depth]

/-- Below an object there is room for one level less. -/
theorem exists_room_of_depth_object {members : List (String × Json)} {bound : Nat}
    (h : (object members).depth ≤ bound) :
    ∃ room, bound = room + 1 ∧ ∀ m ∈ members, m.2.depth ≤ room := by
  rw [depth] at h
  refine ⟨bound - 1, by omega, fun m hm => ?_⟩
  have hm := depth_le_of_mem_members hm
  omega

/-- The elements of an array are nested less deep than the array. -/
theorem depth_le_of_mem_array {items : List Json} {bound : Nat} (h : (array items).depth ≤ bound)
    (j : Json) (hj : j ∈ items) : j.depth ≤ bound := by
  have hle := depth_le_of_mem_items hj
  rw [depth] at h
  omega

/-! ### What is read back -/

/-- A value that is read back on a condition. -/
def onlyIf (condition : Bool) (v : β) : Option β :=
  if condition then some v else none

/-- A condition that holds lets the value through. -/
@[simp] theorem onlyIf_true (v : β) : onlyIf true v = some v :=
  rfl

/-- A condition that does not hold holds the value back. -/
@[simp] theorem onlyIf_false (v : β) : onlyIf false v = none :=
  rfl

/-- Reading on after a value. -/
theorem some_bind (v : β) (f : β → Option γ) : (some v >>= f) = f v :=
  rfl

/-- What is made of a value that may be held back. -/
theorem onlyIf_bind_pure (condition : Bool) (v : β) (f : β → γ) :
    (onlyIf condition v >>= fun v => pure (f v)) = onlyIf condition (f v) := by
  cases condition <;> rfl

/-- Of two conditions both must hold. -/
theorem onlyIf_bind_onlyIf (condition further : Bool) (v : β) (f : β → γ) :
    (onlyIf condition v >>= fun v => onlyIf further (f v)) =
      onlyIf (condition && further) (f v) := by
  cases condition <;> rfl

/-- What is made of a value that may be held back. -/
@[simp] theorem onlyIf_map (condition : Bool) (v : β) (f : β → γ) :
    (onlyIf condition v).map f = onlyIf condition (f v) := by
  cases condition <;> rfl

/-- A text is read back. -/
@[simp] theorem string?_string (s : String) : (string s).string? = onlyIf true s :=
  rfl

/-- A double is read back if it is finite. -/
@[simp] theorem double?_double (x : Float) : (double x).double? = onlyIf x.isFinite x := by
  rw [double]
  cases x.isFinite <;> rfl

/-- A number is read back if it fits its bits. -/
theorem unsigned?_nat {bits n : Nat} (h : n < Nat.pow 2 bits) : (nat n).unsigned? bits = some n :=
  if_pos h

/-- A word of 32 bits is read back. -/
@[simp] theorem word?_nat (n : UInt32) : (nat n.toNat).word? = some n := by
  rw [word?, unsigned?_nat n.toNat_lt, Option.map_some, UInt32.ofNat_toNat]

/-- An optional value is read back if the value is, unless the value is written as null. -/
theorem optional?_optional {encode : β → Json} {decode : Json → Option β} {finite : β → Bool}
    {v : Option β} (hnull : ∀ x, encode x ≠ null)
    (h : ∀ x, v = some x → decode (encode x) = onlyIf (finite x) x) :
    (optional encode v).optional? decode = onlyIf (v.all finite) v := by
  cases v with
  | none => rfl
  | some x =>
    have hsome : (encode x).optional? decode = (decode (encode x)).map some := by
      rw [optional?]
      exact hnull x
    show (encode x).optional? decode = onlyIf (finite x) (some x)
    rw [hsome, h x rfl, onlyIf_map]

/-- What is read back part by part. -/
theorem mapM_map_onlyIf (encode : β → γ) (decode : γ → Option β) {finite : β → Bool}
    {values : List β} (h : ∀ v ∈ values, decode (encode v) = onlyIf (finite v) v) :
    (values.map encode).mapM decode = onlyIf (values.all finite) values := by
  induction values with
  | nil => rfl
  | cons v rest ih =>
    obtain ⟨hfirst, hrest⟩ := List.forall_mem_cons.mp h
    rw [List.map_cons, List.mapM_cons, hfirst, ih hrest, List.all_cons]
    simp only [onlyIf_bind_pure, onlyIf_bind_onlyIf]

/-- A list is read back if each of its values is. -/
theorem list?_array (encode : β → Json) (decode : Json → Option β) {finite : β → Bool}
    {values : List β} (h : ∀ v ∈ values, decode (encode v) = onlyIf (finite v) v) :
    (array (values.map encode)).list? decode = onlyIf (values.all finite) values :=
  mapM_map_onlyIf encode decode h

/-- A list of texts is read back. -/
theorem list?_strings (texts : List String) :
    (array (texts.map .string)).list? string? = some texts := by
  have hall : (texts.all fun _ => true) = true := List.all_eq_true.mpr fun _ _ => rfl
  rw [list?_array .string string? fun text _ => show _ = onlyIf true text from rfl, hall]
  rfl

/-! ### Records and tagged choices -/

/-- The fields that the members of an object give to a record. -/
def fieldsOf (members : List (String × Json)) : Fields :=
  fun name => (members.find? fun m => m.1 == name).map Prod.snd

/-- The fields of an object that has the members of the record in their order. -/
theorem record?_object {names : List String} {members : List (String × Json)}
    (hnames : members.map Prod.fst = names) (hnodup : names.Nodup) :
    (object members).record? names = some (fieldsOf members) := by
  subst hnames
  -- A record is refused if one of its members stands twice.
  have honce : ∀ name, (members.filter fun m => m.1 == name).length ≤ 1 := by
    intro name
    have hcount := List.nodup_iff_count_le_one.mp hnodup name
    rwa [List.count, List.countP_map, List.countP_eq_length_filter] at hcount
  have hall : ((members.map Prod.fst).all fun name =>
      (members.filter fun m => m.1 == name).length ≤ 1) = true :=
    List.all_eq_true.mpr fun name _ => decide_eq_true (honce name)
  rw [record?, if_pos hall]
  rfl

private theorem fieldsOf_cons (name name' : String) (j : Json) (members : List (String × Json)) :
    fieldsOf ((name', j) :: members) name =
      if name' = name then some j else fieldsOf members name := by
  rw [fieldsOf, List.find?_cons]
  by_cases h : name' = name
  · rw [beq_iff_eq.mpr h, if_pos h]
    rfl
  · rw [beq_eq_false_iff_ne.mpr h, if_neg h]
    rfl

/-- A required member is looked for from the first one on. -/
theorem required_fieldsOf (name name' : String) (j : Json) (members : List (String × Json))
    (decode : Json → Option β) : (fieldsOf ((name', j) :: members)).required name decode =
      if name' = name then decode j else (fieldsOf members).required name decode := by
  rw [Fields.required, fieldsOf_cons]
  split <;> rfl

/-- A member with a default is looked for from the first one on. -/
theorem default_fieldsOf (name name' : String) (j : Json) (members : List (String × Json))
    (decode : Json → Option β) (value : β) :
    (fieldsOf ((name', j) :: members)).default name decode value =
      if name' = name then decode j else (fieldsOf members).default name decode value := by
  rw [Fields.default, fieldsOf_cons]
  by_cases h : name' = name
  · rw [if_pos h, if_pos h]
  · rw [if_neg h, if_neg h]
    rfl

section Records

variable {β' β'' : Type} {name name' name'' : String} {j j' j'' : Json}
  {decode : Json → Option β} {decode' : Json → Option β'} {decode'' : Json → Option β''}
  {finite finite' finite'' : Bool} {v : β} {v' : β'} {v'' : β''}

/-- A record of one field is read back as far as the field is. -/
theorem record_one (f : β → γ) (h : decode j = onlyIf finite v) :
    ((object [(name, j)]).record? [name] >>= fun fields => do
      return f (← fields.required name decode)) = onlyIf finite (f v) := by
  rw [record?_object (by rfl) (List.nodup_singleton name)]
  simp only [some_bind, required_fieldsOf, ↓reduceIte, h, onlyIf_bind_pure]

/-- A record of two fields is read back as far as the fields are. -/
theorem record_two (f : β → β' → γ) (h : decode j = onlyIf finite v)
    (h' : decode' j' = onlyIf finite' v') (hnodup : [name, name'].Nodup) :
    ((object [(name, j), (name', j')]).record? [name, name'] >>= fun fields => do
      return f (← fields.required name decode) (← fields.required name' decode')) =
      onlyIf (finite && finite') (f v v') := by
  have hne : name ≠ name' := by simpa using hnodup
  rw [record?_object (by rfl) hnodup]
  simp only [some_bind, required_fieldsOf, ↓reduceIte, hne, h, h', onlyIf_bind_pure,
    onlyIf_bind_onlyIf]

/-- A record of three fields is read back as far as the fields are. -/
theorem record_three (f : β → β' → β'' → γ) (h : decode j = onlyIf finite v)
    (h' : decode' j' = onlyIf finite' v') (h'' : decode'' j'' = onlyIf finite'' v'')
    (hnodup : [name, name', name''].Nodup) :
    ((object [(name, j), (name', j'), (name'', j'')]).record? [name, name', name''] >>=
      fun fields => do
        return f (← fields.required name decode) (← fields.required name' decode')
          (← fields.required name'' decode'')) =
      onlyIf (finite && (finite' && finite'')) (f v v' v'') := by
  obtain ⟨⟨hne, hne'⟩, hne''⟩ : (name ≠ name' ∧ name ≠ name'') ∧ name' ≠ name'' := by
    simpa using hnodup
  rw [record?_object (by rfl) hnodup]
  simp only [some_bind, required_fieldsOf, ↓reduceIte, hne, hne', hne'', h, h', h'',
    onlyIf_bind_pure, onlyIf_bind_onlyIf]

end Records

/-- The tag of an object that has it as its first member. -/
theorem tagged?_object {place : Place} {tag name : String} {tags : List String}
    {members : List (String × Json)} (h : tag ∉ members.map Prod.fst) :
    (object ((tag, string name) :: members)).tagged? place tag tags =
      some (name, object members) := by
  have hothers : ∀ m ∈ members, m.1 ≠ tag := fun m hm heq =>
    h (heq ▸ List.mem_map_of_mem hm)
  have hnone : (members.filter fun m => m.1 == tag) = [] :=
    List.filter_eq_nil_iff.mpr fun m hm => by simpa using hothers m hm
  have hall : (members.filter fun m => !(m.1 == tag)) = members :=
    List.filter_eq_self.mpr fun m hm => by simpa using hothers m hm
  simp [tagged?, hnone, hall, tag?]

/-- A choice is read by what its tag says. -/
theorem tagged?_object_bind {place : Place} {tag name : String} {tags : List String}
    {members : List (String × Json)} (h : tag ∉ members.map Prod.fst)
    (read : String × Json → Option β) :
    ((object ((tag, string name) :: members)).tagged? place tag tags >>= read) =
      read (name, object members) := by
  rw [tagged?_object h, some_bind]

end WormBattle.Json
