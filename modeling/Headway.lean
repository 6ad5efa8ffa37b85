import Headway.RoadMap
import Headway.LeadHistory
import Headway.FollowGap
import Headway.Solver.Kinematic
import Headway.Solver.Recorder
import Headway.Solver.Scripted
import Headway.Mpc
import Headway.AccelLimits
import Headway.SpeedTargets
import Headway.SpeedSmoother
import Headway.Planner.Archived
import Headway.Log
import Headway.Command
import Headway.Replay
import Headway.Duration
import Headway.Main
import Headway.Proofs.Planner.Arbitration
import Headway.Proofs.Planner.Limits
import Headway.Proofs.Planner.Seed
import Headway.Proofs.Planner.Archives
import Headway.Proofs.Mpc.Weights
import Headway.Proofs.Planner.EmptyRoad
import Headway.Proofs.Planner.Masking
import Headway.Proofs.CollisionWarning.Firing
import Headway.Proofs.Planner.BadReading
import Headway.Proofs.Planner.Forward
import Headway.Proofs.Mpc.Tracking
import Headway.Proofs.Mpc.Priming
import Headway.Proofs.Script.Polling
import Headway.Proofs.World.Engagement
import Headway.Proofs.World.Motion
import Headway.Proofs.Mpc.Gap
import Headway.Proofs.Replay.Ending
import Headway.Proofs.Planner.Acceptance
import Headway.Proofs.SpeedSmoother.Limits
import Headway.Proofs.SpeedSmoother.Approach
import Headway.Proofs.SpeedSmoother.Mirror
import Headway.Proofs.Planner.Smoothing
import Headway.Proofs.Kinematic.Jerk
import Headway.Proofs.World.LimitAhead
import Headway.Proofs.Script.Verdict
import Headway.Proofs.Command.Classified
import Headway.Proofs.Planner.Capping
import Headway.Proofs.SpeedTargets.Curve
import Headway.Proofs.SpeedTargets.Ramp
import Headway.Proofs.DistanceWeight
import Headway.Proofs.LeadHistory
import Headway.Proofs.CollisionWarning.TimeToCollision
import Headway.Proofs.Interpolation
