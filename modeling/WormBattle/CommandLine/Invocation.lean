/-!
# Invocations

What a command line asks for. It names the file of a scenario and may set options, each at most
once: `--max-turns` and `--seed` take a whole number, `--json-logs` takes nothing. After `--` an
argument is never an option. `Invocation.ofArguments` reads a command line from left to right.
-/

namespace WormBattle

/-- The options of a battle. -/
structure Options where
  /-- The path of the scenario. -/
  scenario : String
  /-- The number of turns, in place of the scenario's. -/
  maxTurns : Option Nat := none
  /-- The seed, in place of the scenario's. -/
  seed : Option Nat := none
  /-- Whether logs are to be objects. -/
  jsonLogs : Bool := false
  deriving Repr, DecidableEq

/-- What a command line asks for. -/
inductive Invocation where
  /-- Play a battle. -/
  | play (options : Options)
  /-- Explain the command line. -/
  | help
  /-- Nothing that makes sense. -/
  | refused
  deriving Repr, DecidableEq

namespace Invocation

/-- What has been made out of a command line so far: an argument is missing as long as it is
`none`. -/
structure Draft where
  /-- The path of the scenario. -/
  scenario : Option String := none
  /-- The number of turns. -/
  maxTurns : Option Nat := none
  /-- The seed. -/
  seed : Option Nat := none
  /-- Whether logs are to be objects. -/
  jsonLogs : Bool := false

/-- A whole number below `2 ^ 64`, perhaps with a plus sign. -/
def number? (text : String) : Option Nat :=
  let digits := match text.toList with
    | '+' :: digits => digits
    | digits => digits
  if digits.isEmpty || !digits.all Char.isDigit then none
  else
    let n := digits.foldl (fun n d => 10 * n + (d.toNat - '0'.toNat)) 0
    if n < Nat.pow 2 64 then some n else none

/-- Whether an argument is an option and not a value: it starts with a dash and goes on. -/
def isOption (argument : String) : Bool :=
  match argument.toList with
  | '-' :: _ :: _ => true
  | _ => false

/-- A draft with the path of the scenario, which is given once and not empty. -/
def Draft.withScenario (draft : Draft) (path : String) : Option Draft :=
  if draft.scenario.isNone && !path.isEmpty then some { draft with scenario := some path }
  else none

/-- A draft with the number of turns, which is given at most once. -/
def Draft.withMaxTurns (draft : Draft) (value : String) : Option Draft := do
  let n ← number? value
  if draft.maxTurns.isNone then some { draft with maxTurns := some n } else none

/-- A draft with the seed, which is given at most once. -/
def Draft.withSeed (draft : Draft) (value : String) : Option Draft := do
  let n ← number? value
  if draft.seed.isNone then some { draft with seed := some n } else none

/-- A draft with logs as objects, which is asked for at most once. -/
def Draft.withJsonLogs (draft : Draft) : Option Draft :=
  if draft.jsonLogs then none else some { draft with jsonLogs := true }

/-- The battle of a draft. -/
def Draft.close (draft : Draft) : Invocation :=
  match draft.scenario with
  | some scenario =>
    play {
      scenario
      maxTurns := draft.maxTurns
      seed := draft.seed
      jsonLogs := draft.jsonLogs }
  | none => refused

/-- The value of an option that is written in one with its name. -/
def attached? (option argument : String) : Option String :=
  let opening := (option ++ "=").toList
  if opening.isPrefixOf argument.toList then
    some (String.ofList (argument.toList.drop opening.length))
  else none

/-- What the rest of a command line adds to a draft. After `--` every argument is a path. -/
def complete : Draft → List String → Invocation
  | draft, [] => draft.close
  | draft, "--" :: paths =>
    match paths.foldlM Draft.withScenario draft with
    | some draft => draft.close
    | none => refused
  | _, "-h" :: _ => help
  | _, "--help" :: _ => help
  | draft, "--json-logs" :: rest =>
    match draft.withJsonLogs with
    | some draft => complete draft rest
    | none => refused
  | draft, argument :: rest =>
    if argument = "--max-turns" || argument = "--seed" then
      match rest with
      | value :: rest =>
        let draft := if argument = "--seed" then draft.withSeed value else draft.withMaxTurns value
        match isOption value, draft with
        | false, some draft => complete draft rest
        | _, _ => refused
      | [] => refused
    else
      let draft :=
        match attached? "--max-turns" argument, attached? "--seed" argument with
        | some value, _ => draft.withMaxTurns value
        | none, some value => draft.withSeed value
        | none, none => if isOption argument then none else draft.withScenario argument
      match draft with
      | some draft => complete draft rest
      | none => refused
termination_by _ arguments => arguments.length

/-- What a command line asks for. -/
def ofArguments (arguments : List String) : Invocation :=
  complete {} arguments

/-- The explanation of the command line. -/
def usage : String :=
  String.intercalate "\n" [
    "Play a worms battle scenario without a screen",
    "",
    "Usage: wormbattle [OPTIONS] <SCENARIO>",
    "",
    "Arguments:",
    "  <SCENARIO>  Path to the scenario JSON file",
    "",
    "Options:",
    "      --max-turns <MAX_TURNS>  Override the scenario's turn limit",
    "      --seed <SEED>            Override the world seed",
    "      --json-logs              Emit logs as JSON lines",
    "  -h, --help                   Print help",
    ""]

end Invocation

end WormBattle
