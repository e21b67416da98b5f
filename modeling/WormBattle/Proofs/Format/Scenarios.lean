import WormBattle.Format.Scenario
import WormBattle.Proofs.Format.Programs

/-!
# The form of a scenario loses nothing

What is true of the forms of programs is true of those of scenarios, with all of their sections: the
form is read back as the scenario if all of its doubles are finite, and not at all otherwise. Since
a setting that is left out has its default, it matters that an encoder leaves nothing out.

Counts have 32 or 64 bits in their forms, and a scenario **fits** its form if its counts have no
more.
-/

namespace WormBattle

open Json (Doubles onlyIf)

/-! ### Configurations -/

namespace WormConfig

/-- The doubles of the section on worms. -/
def doubles (config : WormConfig Float) : Doubles :=
  .under (.member "density") (.one config.density) ++
  .under (.member "min_radius") (.one config.minRadius) ++
  .under (.member "spawn_radius") (.one config.spawnRadius) ++
  .under (.member "turn_cost_full_circle") (.one config.turnCostFullCircle) ++
  .under (.member "jump_force_per_action_point") (.one config.jumpForcePerActionPoint) ++
  .under (.member "fall_damage_per_metre") (.one config.fallDamagePerMetre) ++
  .under (.member "growth_factor") (.one config.growthFactor) ++
  .under (.member "max_move_divergence") (.one config.maxMoveDivergence) ++
  .under (.member "move_divergence_step") (.one config.moveDivergenceStep) ++
  .under (.member "min_move_fraction") (.one config.minMoveFraction) ++
  .under (.member "search_step_fraction") (.one config.searchStepFraction)

private theorem shows_doubles (config : WormConfig Float) : config.toJson.Shows config.doubles := by
  simp [toJson, doubles]

private theorem ofJson?_toJson (config : WormConfig Float) :
    ofJson? config.toJson = onlyIf config.doubles.areFinite config := by
  rw [ofJson?, toJson, Json.record?_object (by rfl) (by decide)]
  simp only [Json.some_bind, Json.default_fieldsOf, String.reduceEq, ↓reduceIte,
    Json.onlyIf_bind_pure, Json.onlyIf_bind_onlyIf, Json.double?_double, Json.word?_nat,
    doubles, Doubles.areFinite_append, Doubles.areFinite_under, Doubles.areFinite_one,
    Bool.and_assoc]

end WormConfig

namespace FoodConfig

/-- The doubles of the section on rations. -/
def doubles (config : FoodConfig Float) : Doubles :=
  .under (.member "radius") (.one config.radius)

private theorem shows_doubles (config : FoodConfig Float) : config.toJson.Shows config.doubles := by
  simp [toJson, doubles]

private theorem ofJson?_toJson (config : FoodConfig Float) :
    ofJson? config.toJson = onlyIf config.doubles.areFinite config := by
  rw [ofJson?, toJson, Json.record?_object (by rfl) (by decide)]
  simp only [Json.some_bind, Json.default_fieldsOf, ↓reduceIte, Json.onlyIf_bind_pure,
    Json.double?_double, doubles, Doubles.areFinite_under, Doubles.areFinite_one]

end FoodConfig

namespace WeaponSpec

/-- The doubles of a weapon. -/
def doubles (spec : WeaponSpec Float) : Doubles :=
  .under (.member "projectile_mass") (.one spec.projectileMass) ++
  .under (.member "min_force") (.one spec.minForce) ++
  .under (.member "max_force") (.one spec.maxForce)

/-- The counts of a weapon have 32 bits. -/
structure FitsForm (spec : WeaponSpec Float) : Prop where
  cost : spec.cost < Nat.pow 2 32
  damage : spec.damage < Nat.pow 2 32

private theorem shows_doubles (spec : WeaponSpec Float) : spec.toJson.Shows spec.doubles := by
  simp [toJson, doubles]

private theorem ofJson?_toJson {spec : WeaponSpec Float} (h : spec.FitsForm) :
    ofJson? spec.toJson = onlyIf spec.doubles.areFinite spec := by
  rw [ofJson?, toJson, Json.record?_object (by rfl) (by decide)]
  simp only [Json.some_bind, Json.required_fieldsOf, String.reduceEq, ↓reduceIte,
    Json.onlyIf_bind_pure, Json.onlyIf_bind_onlyIf, Json.double?_double, Json.unsigned?_nat h.cost,
    Json.unsigned?_nat h.damage, doubles, Doubles.areFinite_append, Doubles.areFinite_under,
    Doubles.areFinite_one, Bool.and_assoc]

end WeaponSpec

namespace WeaponConfig

/-- The doubles of the section on weapons. -/
def doubles (config : WeaponConfig Float) : Doubles :=
  .under (.member "projectile_density") (.one config.projectileDensity) ++
  .under (.member "rifle") config.rifle.doubles ++
  .under (.member "bazooka") config.bazooka.doubles

/-- The counts of the section on weapons have 32 bits. -/
structure FitsForm (config : WeaponConfig Float) : Prop where
  rifle : config.rifle.FitsForm
  bazooka : config.bazooka.FitsForm

private theorem shows_doubles (config : WeaponConfig Float) :
    config.toJson.Shows config.doubles := by
  simp [toJson, doubles, WeaponSpec.shows_doubles]

private theorem ofJson?_toJson {config : WeaponConfig Float} (h : config.FitsForm) :
    ofJson? config.toJson = onlyIf config.doubles.areFinite config := by
  rw [ofJson?, toJson, Json.record?_object (by rfl) (by decide)]
  simp only [Json.some_bind, Json.default_fieldsOf, String.reduceEq, ↓reduceIte,
    Json.onlyIf_bind_pure, Json.onlyIf_bind_onlyIf, Json.double?_double,
    WeaponSpec.ofJson?_toJson h.rifle, WeaponSpec.ofJson?_toJson h.bazooka, doubles,
    Doubles.areFinite_append, Doubles.areFinite_under, Doubles.areFinite_one, Bool.and_assoc]

end WeaponConfig

namespace TerrainConfig

/-- The doubles of the section on terrain. -/
def doubles (config : TerrainConfig Float) : Doubles :=
  .under (.member "contact_inflation") (.one config.contactInflation)

private theorem shows_doubles (config : TerrainConfig Float) :
    config.toJson.Shows config.doubles := by
  simp [toJson, doubles]

private theorem ofJson?_toJson (config : TerrainConfig Float) :
    ofJson? config.toJson = onlyIf config.doubles.areFinite config := by
  rw [ofJson?, toJson, Json.record?_object (by rfl) (by decide)]
  simp only [Json.some_bind, Json.default_fieldsOf, ↓reduceIte, Json.onlyIf_bind_pure,
    Json.double?_double, doubles, Doubles.areFinite_under, Doubles.areFinite_one]

end TerrainConfig

private theorem ProgramConfig.ofJson?_toJson {config : ProgramConfig}
    (h : config.maxStatementsPerRun < Nat.pow 2 32) : ofJson? config.toJson = some config := by
  rw [ofJson?, toJson, Json.record?_object (by rfl) (by decide)]
  simp only [Json.some_bind, Json.default_fieldsOf, ↓reduceIte, Json.unsigned?_nat h]
  rfl

private theorem SpawnConfig.ofJson?_toJson {config : SpawnConfig}
    (hattempts : config.attempts < Nat.pow 2 32) (hteams : config.maxTeams < Nat.pow 2 64) :
    ofJson? config.toJson = some config := by
  rw [ofJson?, toJson, Json.record?_object (by rfl) (by decide)]
  simp only [Json.some_bind, Json.default_fieldsOf, String.reduceEq, ↓reduceIte,
    Json.unsigned?_nat hattempts, Json.unsigned?_nat hteams]
  rfl

namespace GameConfig

/-- The doubles of a configuration. -/
def doubles (config : GameConfig Float) : Doubles :=
  .under (.member "time_step") (.one config.timeStep) ++
  .under (.member "worm") config.worm.doubles ++
  .under (.member "food") config.food.doubles ++
  .under (.member "weapons") config.weapons.doubles ++
  .under (.member "terrain") config.terrain.doubles

/-- The counts of a configuration have 32 bits, apart from the seed and the number of teams, which
have 64. -/
structure FitsForm (config : GameConfig Float) : Prop where
  seed : config.seed < Nat.pow 2 64
  weapons : config.weapons.FitsForm
  program : config.program.maxStatementsPerRun < Nat.pow 2 32
  attempts : config.spawn.attempts < Nat.pow 2 32
  maxTeams : config.spawn.maxTeams < Nat.pow 2 64

private theorem shows_doubles (config : GameConfig Float) : config.toJson.Shows config.doubles := by
  simp [toJson, doubles, WormConfig.shows_doubles, FoodConfig.shows_doubles,
    WeaponConfig.shows_doubles, TerrainConfig.shows_doubles]

private theorem ofJson?_toJson {config : GameConfig Float} (h : config.FitsForm) :
    ofJson? config.toJson = onlyIf config.doubles.areFinite config := by
  rw [ofJson?, toJson, Json.record?_object (by rfl) (by decide)]
  simp only [Json.some_bind, Json.default_fieldsOf, String.reduceEq, ↓reduceIte,
    Json.onlyIf_bind_pure, Json.onlyIf_bind_onlyIf, Json.double?_double, Json.unsigned?_nat h.seed,
    WormConfig.ofJson?_toJson, FoodConfig.ofJson?_toJson,
    WeaponConfig.ofJson?_toJson h.weapons, TerrainConfig.ofJson?_toJson,
    ProgramConfig.ofJson?_toJson h.program, SpawnConfig.ofJson?_toJson h.attempts h.maxTeams,
    doubles, Doubles.areFinite_append, Doubles.areFinite_under, Doubles.areFinite_one,
    Bool.and_assoc]

end GameConfig

/-! ### Worms and rations -/

namespace ProgramSource

/-- The doubles of a source. -/
def doubles : ProgramSource Float → Doubles
  | file _ => []
  | inline program => program.doubles

/-- The references in a program that stands in the scenario have 64 bits. -/
def FitsForm : ProgramSource Float → Prop
  | file _ => True
  | inline program => program.FitsForm

private theorem shows_doubles (source : ProgramSource Float) :
    source.toJson.Shows source.doubles := by
  cases source with
  | file path => simp [doubles]
  | inline program => exact program.shows_doubles

private theorem toJson_ne_null (source : ProgramSource Float) : source.toJson ≠ .null := by
  cases source <;> exact Json.noConfusion

private theorem ofJson?_toJson {source : ProgramSource Float} (h : source.FitsForm) :
    ofJson? source.toJson = onlyIf source.doubles.areFinite source := by
  cases source with
  | file path => rfl
  | inline program =>
    have hprogram := Program.ofJson?_toJson h .enclosed
    have hform : ofJson? (inline program).toJson =
        if program.toJson.isWhole then (Program.ofJson? .enclosed program.toJson).map inline
        else none := rfl
    rw [hform, program.isWhole_toJson, if_pos rfl, hprogram, Json.onlyIf_map]
    rfl

end ProgramSource

namespace WormSpec

/-- The doubles of a worm. -/
def doubles (spec : WormSpec Float) : Doubles :=
  .under (.member "x") (.one spec.x) ++
  .under (.member "y") (.one spec.y) ++
  .under (.member "direction") (.one spec.direction) ++
  .under (.member "radius") (.one spec.radius) ++
  .under (.member "program") (.ofOption ProgramSource.doubles spec.program)

/-- The references in the program of a worm have 64 bits. -/
def FitsForm (spec : WormSpec Float) : Prop :=
  ∀ source, spec.program = some source → source.FitsForm

private theorem shows_doubles (spec : WormSpec Float) : spec.toJson.Shows spec.doubles := by
  simp [toJson, doubles, Json.shows_ofOption ProgramSource.shows_doubles]

private theorem ofJson?_toJson {spec : WormSpec Float} (h : spec.FitsForm) :
    ofJson? spec.toJson = onlyIf spec.doubles.areFinite spec := by
  have hteam : (Json.optional .string spec.team).optional? Json.string? = some spec.team := by
    cases spec.team <;> rfl
  have hprogram := Json.optional?_optional ProgramSource.toJson_ne_null
    fun source hsource => ProgramSource.ofJson?_toJson (h source hsource)
  rw [ofJson?, toJson, Json.record?_object (by rfl) (by decide)]
  simp only [Json.some_bind, Json.required_fieldsOf, Json.default_fieldsOf, String.reduceEq,
    ↓reduceIte, Json.onlyIf_bind_pure, Json.onlyIf_bind_onlyIf, Json.string?_string,
    Json.double?_double, hteam, hprogram, doubles, Doubles.areFinite_append,
    Doubles.areFinite_under, Doubles.areFinite_one, Doubles.areFinite_ofOption, Bool.and_assoc,
    Bool.true_and]

end WormSpec

namespace FoodSpec

/-- The doubles of a ration. -/
def doubles (spec : FoodSpec Float) : Doubles :=
  .under (.member "x") (.one spec.x) ++ .under (.member "y") (.one spec.y)

private theorem shows_doubles (spec : FoodSpec Float) : spec.toJson.Shows spec.doubles := by
  simp [toJson, doubles]

private theorem ofJson?_toJson (spec : FoodSpec Float) :
    ofJson? spec.toJson = onlyIf spec.doubles.areFinite spec := by
  rw [ofJson?, toJson, Json.record?_object (by rfl) (by decide)]
  simp only [Json.some_bind, Json.required_fieldsOf, String.reduceEq, ↓reduceIte,
    Json.onlyIf_bind_pure, Json.onlyIf_bind_onlyIf, Json.double?_double, doubles,
    Doubles.areFinite_append, Doubles.areFinite_under, Doubles.areFinite_one]

end FoodSpec

/-! ### Scenarios -/

namespace Scenario

/-- The doubles of a scenario. -/
def doubles (s : Scenario Float) : Doubles :=
  .under (.member "width") (.one s.width) ++
  .under (.member "height") (.one s.height) ++
  .under (.member "config") s.config.doubles ++
  .under (.member "worms") (.ofItems WormSpec.doubles 0 s.worms) ++
  .under (.member "food") (.ofItems FoodSpec.doubles 0 s.food)

/-- The counts of a scenario have as many bits as its form has for them. -/
structure FitsForm (s : Scenario Float) : Prop where
  config : s.config.FitsForm
  worms : ∀ spec ∈ s.worms, spec.FitsForm
  randomFood : s.randomFood < Nat.pow 2 32
  maxTurns : s.maxTurns < Nat.pow 2 64

private theorem shows_doubles (s : Scenario Float) : s.toJson.Shows s.doubles := by
  have hworms : ∀ spec ∈ s.worms, spec.toJson.Shows spec.doubles :=
    fun spec _ => spec.shows_doubles
  have hfood : ∀ spec ∈ s.food, spec.toJson.Shows spec.doubles :=
    fun spec _ => spec.shows_doubles
  have hworms := Json.shows_ofItems hworms []
  have hfood := Json.shows_ofItems hfood []
  rw [List.nil_append, List.length_nil] at hworms hfood
  simp [toJson, doubles, GameConfig.shows_doubles, hworms, hfood]

/-- **The form of a scenario is read back as the scenario**, or not at all. -/
theorem ofJson?_toJson {s : Scenario Float} (h : s.FitsForm) :
    ofJson? s.toJson = onlyIf s.doubles.areFinite s := by
  have hworms := Json.list?_array WormSpec.toJson WormSpec.ofJson?
    fun spec hspec => WormSpec.ofJson?_toJson (h.worms spec hspec)
  have hfood := Json.list?_array FoodSpec.toJson FoodSpec.ofJson?
    fun spec (_ : spec ∈ s.food) => spec.ofJson?_toJson
  rw [ofJson?, toJson, Json.record?_object (by rfl) (by decide)]
  simp only [Json.some_bind, Json.required_fieldsOf, Json.default_fieldsOf, String.reduceEq,
    ↓reduceIte, Json.onlyIf_bind_pure, Json.onlyIf_bind_onlyIf, Json.double?_double,
    Json.list?_strings, hworms, hfood, GameConfig.ofJson?_toJson h.config,
    Json.unsigned?_nat h.randomFood, Json.unsigned?_nat h.maxTurns, doubles,
    Doubles.areFinite_append, Doubles.areFinite_under, Doubles.areFinite_one,
    Doubles.areFinite_ofItems, Bool.and_assoc]

end Scenario

/-! ### Texts -/

namespace Json

/-- What the form `j` of a value keeps of it. Each double of the value stands at its path, as `null`
if it is not finite. If all of them are finite, the form is read back as the value, and so is every
text that stands for the form; if one is not, it is not read back, and every such text is
refused. -/
structure Keeps {β : Type} (v : β) (j : Json) (doubles : Doubles) (decode : Json → Option β)
    (read : String → Except (Error Float) β) : Prop where
  shows : ∀ path x, (path, x) ∈ doubles →
    j.at? path = some (if x.isFinite then number (.double x) else null)
  decodes : (∀ path x, (path, x) ∈ doubles → x.isFinite = true) → decode j = some v ∧
    ∀ text, ofText? text = some j → read text = .ok v
  refuses : (∃ path x, (path, x) ∈ doubles ∧ x.isFinite = false) → decode j = none ∧
    ∀ text, ofText? text = some j → ∃ e, read text = .error e ∧ e.kind = .serialization

private theorem Keeps.of_onlyIf {β : Type} {v : β} {j : Json} {doubles : Doubles}
    {decode : Json → Option β} {read : String → Except (Error Float) β} (hshows : j.Shows doubles)
    (hdecode : decode j = onlyIf doubles.areFinite v)
    (hread : ∀ text, read text = (ofText? text >>= decode).elim (.error .malformed) .ok) :
    Keeps v j doubles decode read where
  shows := fun path x h => hshows (path, x) h
  decodes := fun h => by
    have hfinite : doubles.areFinite = true := List.all_eq_true.mpr fun d hd => h d.1 d.2 hd
    have hsome : decode j = some v := by rw [hdecode, hfinite, onlyIf_true]
    refine ⟨hsome, fun text htext => ?_⟩
    rw [hread, htext, Option.bind_eq_bind, Option.bind_some, hsome, Option.elim_some]
  refuses := fun ⟨path, x, hmem, hx⟩ => by
    have hfinite : doubles.areFinite = false := by
      rw [Doubles.areFinite, List.all_eq_false]
      exact ⟨(path, x), hmem, by simp [hx]⟩
    have hnone : decode j = none := by rw [hdecode, hfinite, onlyIf_false]
    refine ⟨hnone, fun text htext => ⟨.malformed, ?_, rfl⟩⟩
    rw [hread, htext, Option.bind_eq_bind, Option.bind_some, hnone, Option.elim_none]

/-- **The forms of programs and scenarios lose nothing.** What has only finite doubles is read back
from its form as it was, and what has any other double is refused. -/
theorem keeps_programs_and_scenarios :
    (∀ program : Program Float, program.FitsForm → Keeps program program.toJson program.doubles
      (Program.ofJson? .outer) Program.ofText) ∧
    ∀ s : Scenario Float, s.FitsForm →
      Keeps s s.toJson s.doubles Scenario.ofJson? Scenario.ofText := by
  refine ⟨fun program h => ?_, fun s h => ?_⟩
  · refine .of_onlyIf program.shows_doubles (Program.ofJson?_toJson h .outer) fun text => ?_
    rw [Program.ofText]
    cases ofText? text >>= Program.ofJson? .outer <;> rfl
  · refine .of_onlyIf s.shows_doubles (Scenario.ofJson?_toJson h) fun text => ?_
    rw [Scenario.ofText]
    cases ofText? text >>= Scenario.ofJson? <;> rfl

/-- A program with a double. -/
def remark : Program Float where
  root := .skip
  globals := .ofList [("x", .double 0)]

/-- A text that stands for the program. -/
def remarkText : String :=
  "\x7b\"root\":\x7b\"stmt\":\"skip\"\x7d," ++
  "\"globals\":\x7b\"x\":\x7b\"type\":\"double\",\"value\":0e0\x7d\x7d\x7d"

/-- A scenario without a width. -/
def nowhere : Scenario Float where
  width := 0.0 / 0.0
  height := 10
  map := []
  config := default
  teams := []
  worms := []
  food := []
  randomFood := 0
  maxTurns := 100

private theorem fitsForm_remark : remark.FitsForm := by
  refine ⟨trivial, fun e he => ?_⟩
  obtain rfl := List.mem_singleton.mp he
  trivial

private theorem fitsForm_nowhere : nowhere.FitsForm where
  config :=
    { seed := by decide
      weapons := ⟨⟨by decide, by decide⟩, ⟨by decide, by decide⟩⟩
      program := by decide
      attempts := by decide
      maxTeams := by decide }
  worms := fun _ h => absurd h List.not_mem_nil
  randomFood := by decide
  maxTurns := by decide

set_option maxRecDepth 20000 in
/-- The program is read from its text, and the form of the scenario is not read back. -/
theorem keeps_remark_and_nowhere : Program.ofText remarkText = .ok remark ∧
    nowhere.toJson.at? [.member "width"] = some null ∧ Scenario.ofJson? nowhere.toJson = none := by
  obtain ⟨hprograms, hscenarios⟩ := keeps_programs_and_scenarios
  have hremark := hprograms remark fitsForm_remark
  have hnowhere := hscenarios nowhere fitsForm_nowhere
  have hwidth : (0.0 / 0.0 : Float).isFinite = false := by decide +kernel
  have hmem : ([.member "width"], 0.0 / 0.0) ∈ nowhere.doubles := .head _
  refine ⟨(hremark.decodes fun path x hx => ?_).2 remarkText (by rfl), ?_,
    (hnowhere.refuses ⟨_, _, hmem, hwidth⟩).1⟩
  · obtain ⟨-, rfl⟩ := Prod.mk.inj (List.mem_singleton.mp hx)
    decide +kernel
  · rw [hnowhere.shows _ _ hmem, hwidth]
    rfl

end Json

end WormBattle
