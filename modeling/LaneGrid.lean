import LaneGrid.Arithmetic
import LaneGrid.Atomic
import LaneGrid.Axes
import LaneGrid.Backend.Basic
import LaneGrid.Backend.Block
import LaneGrid.Backend.Coroutine
import LaneGrid.Backend.Launch
import LaneGrid.Block.Arena
import LaneGrid.Block.FiberBarrier
import LaneGrid.Block.Reduction
import LaneGrid.Block.Rendezvous
import LaneGrid.Block.Team
import LaneGrid.Block.ThreadBarrier
import LaneGrid.Coordinate.Basic
import LaneGrid.Coordinate.Kind
import LaneGrid.Device.Basic
import LaneGrid.Device.Ledger
import LaneGrid.Element
import LaneGrid.Error
import LaneGrid.Fault
import LaneGrid.Index.Kind
import LaneGrid.Index.Size
import LaneGrid.Kernel.Coroutine
import LaneGrid.Kernel.Lane
import LaneGrid.Kernel.Program
import LaneGrid.Machine
import LaneGrid.Memory.Buffer
import LaneGrid.Memory.Bytes
import LaneGrid.Memory.Layout
import LaneGrid.Memory.Region
import LaneGrid.Memory.View
import LaneGrid.Memory.Workspace
import LaneGrid.Proofs.Blocks.Answer
import LaneGrid.Proofs.Blocks.Crew
import LaneGrid.Proofs.Blocks.Launch
import LaneGrid.Proofs.Blocks.Pool
import LaneGrid.Proofs.Blocks.Record
import LaneGrid.Proofs.Blocks.Verdict
import LaneGrid.Proofs.Box.Checked
import LaneGrid.Proofs.Box.Codec
import LaneGrid.Proofs.Box.Product
import LaneGrid.Proofs.Box.RowMajor
import LaneGrid.Proofs.Box.Tile
import LaneGrid.Proofs.Clients.Deadlock
import LaneGrid.Proofs.Clients.Effects
import LaneGrid.Proofs.Clients.History
import LaneGrid.Proofs.Clients.Inline
import LaneGrid.Proofs.Clients.Progress
import LaneGrid.Proofs.Clients.Promises
import LaneGrid.Proofs.Clients.Shared
import LaneGrid.Proofs.Clients.Sound
import LaneGrid.Proofs.Coordinate.Names
import LaneGrid.Proofs.Division.Choice
import LaneGrid.Proofs.Division.Cover
import LaneGrid.Proofs.Division.Extent
import LaneGrid.Proofs.Division.Limits
import LaneGrid.Proofs.Division.Numbering
import LaneGrid.Proofs.Division.Partition
import LaneGrid.Proofs.Division.Queries
import LaneGrid.Proofs.Ledger.Accounts
import LaneGrid.Proofs.Ledger.Depot
import LaneGrid.Proofs.Ledger.Owners
import LaneGrid.Proofs.Meeting.Account
import LaneGrid.Proofs.Meeting.Fold
import LaneGrid.Proofs.Meeting.Gate
import LaneGrid.Proofs.Meeting.Group
import LaneGrid.Proofs.Meeting.Invariant
import LaneGrid.Proofs.Meeting.Mixed
import LaneGrid.Proofs.Meeting.Run
import LaneGrid.Proofs.Meeting.Safety
import LaneGrid.Proofs.Meeting.Stranding
import LaneGrid.Proofs.Memory.Addresses
import LaneGrid.Proofs.Memory.Allotment
import LaneGrid.Proofs.Memory.Atomics
import LaneGrid.Proofs.Memory.Clone
import LaneGrid.Proofs.Memory.Copy
import LaneGrid.Proofs.Memory.DenseArray
import LaneGrid.Proofs.Memory.Enumeration
import LaneGrid.Proofs.Memory.Holdings
import LaneGrid.Proofs.Memory.Numbers
import LaneGrid.Proofs.Memory.RegionRows
import LaneGrid.Proofs.Memory.Request
import LaneGrid.Proofs.Memory.RowLayout
import LaneGrid.Proofs.Memory.Rows
import LaneGrid.Proofs.Memory.Scatter
import LaneGrid.Proofs.Memory.Sizes
import LaneGrid.Proofs.Memory.Slices
import LaneGrid.Proofs.Memory.Transfer
import LaneGrid.Proofs.Outcome
import LaneGrid.Proofs.Phase.Agreement
import LaneGrid.Proofs.Phase.Closing
import LaneGrid.Proofs.Phase.Completes
import LaneGrid.Proofs.Phase.Contents
import LaneGrid.Proofs.Phase.Deed
import LaneGrid.Proofs.Phase.Failures
import LaneGrid.Proofs.Phase.Fibers
import LaneGrid.Proofs.Phase.Follows
import LaneGrid.Proofs.Phase.Grid
import LaneGrid.Proofs.Phase.Halts
import LaneGrid.Proofs.Phase.Launch
import LaneGrid.Proofs.Phase.Ranks
import LaneGrid.Proofs.Phase.Rehearsal
import LaneGrid.Proofs.Phase.Scene
import LaneGrid.Proofs.Phase.Score
import LaneGrid.Proofs.Phase.Skipped
import LaneGrid.Proofs.Phase.Store
import LaneGrid.Proofs.Phase.Threads
import LaneGrid.Proofs.Phase.Trace
import LaneGrid.Proofs.Polling.Arrivals
import LaneGrid.Proofs.Polling.Loop
import LaneGrid.Proofs.Polling.Outcome
import LaneGrid.Proofs.Polling.Run
import LaneGrid.Proofs.Rounding
import LaneGrid.Proofs.Shared.Allocators
import LaneGrid.Proofs.Shared.Alone
import LaneGrid.Proofs.Shared.Chronicle
import LaneGrid.Proofs.Shared.Disjoint
import LaneGrid.Proofs.Shared.Handouts
import LaneGrid.Proofs.Shared.Lockstep
import LaneGrid.Proofs.Shared.MasterSync
import LaneGrid.Proofs.Shared.Reservation
import LaneGrid.Proofs.Shared.Serving
import LaneGrid.Proofs.Shared.Standing
import LaneGrid.Proofs.Shared.Together
import LaneGrid.Proofs.Shared.Transcript
import LaneGrid.Proofs.Solitude.Agreement
import LaneGrid.Proofs.Solitude.Block
import LaneGrid.Proofs.Solitude.Course
import LaneGrid.Proofs.Solitude.Evaluation
import LaneGrid.Proofs.Solitude.Launch
import LaneGrid.Proofs.Solitude.Requests
import LaneGrid.Proofs.Team.Attendance
import LaneGrid.Proofs.Team.Budget
import LaneGrid.Proofs.Team.Gates
import LaneGrid.Proofs.Team.Move
import LaneGrid.Proofs.Team.Rest
import LaneGrid.Proofs.Team.Standstill
import LaneGrid.Proofs.Team.Start
import LaneGrid.Proofs.Team.Step
import LaneGrid.Proofs.Votes.Agreement
import LaneGrid.Proofs.Votes.Answers
import LaneGrid.Proofs.Votes.Record
import LaneGrid.Proofs.Votes.Vote
import LaneGrid.Proofs.Votes.Warp
import LaneGrid.Queue.Client
import LaneGrid.Queue.System
import LaneGrid.Queue.Task
import LaneGrid.Script.Expression
import LaneGrid.Script.Instruction
import LaneGrid.Script.Kernel
import LaneGrid.Script.Run
import LaneGrid.Script.Task
import LaneGrid.Settings.Basic
import LaneGrid.Settings.Document
import LaneGrid.Settings.Environment
import LaneGrid.Settings.Validity
import LaneGrid.Telemetry.Directive
import LaneGrid.Telemetry.Event
import LaneGrid.Telemetry.Logging
import LaneGrid.Telemetry.Rate
import LaneGrid.Telemetry.Span
import LaneGrid.Text.Alphanumeric
import LaneGrid.Text.Blank
import LaneGrid.Text.Cut
import LaneGrid.Text.Json
import LaneGrid.Text.Markless
import LaneGrid.Text.Quoted
import LaneGrid.Text.Tuple
import LaneGrid.Text.Word
import LaneGrid.WorkDivision
