import WormBattle.Scalar.Double
import WormBattle.Angle
import WormBattle.Position
import WormBattle.Program.Syntax
import WormBattle.Decimal.Text
import WormBattle.Error.Message
import WormBattle.Physics.Sphere
import WormBattle.Physics.Ballistic
import WormBattle.Config
import WormBattle.Json.Reader
import WormBattle.Json.Writer
import WormBattle.Program.Typing
import WormBattle.Program.Eval
import WormBattle.Program.Exec
import WormBattle.Program.Instance
import WormBattle.Text.Name
import WormBattle.Terrain.Grid
import WormBattle.Entity.Basic
import WormBattle.Entity.Team
import WormBattle.Random.Stream
import WormBattle.World.Turn
import WormBattle.World.Fire
import WormBattle.World.Spawn
import WormBattle.World.Program
import WormBattle.Format.Program
import WormBattle.Format.Config
import WormBattle.Format.Scenario
import WormBattle.Format.Summary
import WormBattle.Main
import WormBattle.Proofs.Execution.Cursor
import WormBattle.Proofs.Execution.Refinement
import WormBattle.Proofs.Execution.Parts
import WormBattle.Proofs.Execution.Sessions
import WormBattle.Proofs.Execution.Made
import WormBattle.Proofs.Execution.Replay
import WormBattle.Proofs.World.Carrying
import WormBattle.Proofs.Entity.Worm
import WormBattle.Proofs.World.Change
import WormBattle.Proofs.World.Deeds
import WormBattle.Proofs.World.Commands
import WormBattle.Proofs.World.Reachable
import WormBattle.Proofs.Typing.Evaluation
import WormBattle.Proofs.Typing.Runs
import WormBattle.Proofs.World.Eating
import WormBattle.Proofs.World.Samples
import WormBattle.Proofs.World.Spots
import WormBattle.Proofs.Scalar.Rational
import WormBattle.Proofs.World.Stuck
import WormBattle.Proofs.World.Refusal
import WormBattle.Proofs.World.Registered
import WormBattle.Proofs.World.Price
import WormBattle.Proofs.Typing.Worms
import WormBattle.Proofs.Execution.Extension
import WormBattle.Proofs.Execution.Budget
import WormBattle.Proofs.Execution.Units
import WormBattle.Proofs.Execution.Stack
import WormBattle.Proofs.World.Queue
import WormBattle.Proofs.World.NextTurn
import WormBattle.Proofs.World.TurnOrder
import WormBattle.Proofs.World.CurrentWorm
import WormBattle.Proofs.World.Reach
import WormBattle.Proofs.World.Returned
import WormBattle.Proofs.Execution.Moments
import WormBattle.Proofs.Execution.Places
import WormBattle.Proofs.Execution.Quiet
import WormBattle.Proofs.Execution.Waiting
import WormBattle.Proofs.Execution.Tours
import WormBattle.Proofs.World.Points
import WormBattle.Proofs.World.Dead
import WormBattle.Proofs.World.Closing
import WormBattle.Proofs.World.Numbers
import WormBattle.Proofs.World.Shots
import WormBattle.Proofs.World.Room
import WormBattle.Proofs.World.Registration
import WormBattle.Proofs.World.Battles
import WormBattle.Proofs.Format.Forms
import WormBattle.Proofs.Format.Programs
import WormBattle.Proofs.Format.Scenarios
import WormBattle.Proofs.Renumbering.Shift
import WormBattle.Proofs.Renumbering.Programs
import WormBattle.Proofs.Renumbering.Runs
import WormBattle.Proofs.Renumbering.Worlds
import WormBattle.Proofs.Renumbering.Plans
import WormBattle.Proofs.Renumbering.Commands
import WormBattle.Proofs.Renumbering.Texts
import WormBattle.Proofs.Renumbering.Sessions
import WormBattle.Proofs.Scalar.Real
import WormBattle.Proofs.Scalar.Distance
import WormBattle.Proofs.Terrain.Passability
import WormBattle.Proofs.Physics.Sinking
import WormBattle.Proofs.World.Impacts
import WormBattle.Proofs.World.Landings
import WormBattle.Proofs.World.Searches
import WormBattle.Proofs.Physics.Rays
import WormBattle.Proofs.World.Fan
import WormBattle.Proofs.World.Limits
import WormBattle.Proofs.World.Falls
import WormBattle.Proofs.Execution.Detached
import WormBattle.Proofs.World.Sight
import WormBattle.Proofs.World.Meals
import WormBattle.Proofs.World.Placement
import WormBattle.Proofs.World.Regeneration
import WormBattle.Proofs.World.Scenarios
import WormBattle.Proofs.Entity.Turning
