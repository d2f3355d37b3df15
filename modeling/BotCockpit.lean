import BotCockpit.Lib.Run
import BotCockpit.Lib.CText
import BotCockpit.Lib.Stream
import BotCockpit.Lib.CArith
import BotCockpit.Lib.Json
import BotCockpit.Sim.Extract
import BotCockpit.Sim.Nav
import BotCockpit.Sim.FakeRobot
import BotCockpit.Sim.OnCmd
import BotCockpit.Sim.Lifecycle
import BotCockpit.Proofs.Sim.Phase
import BotCockpit.Proofs.Sim.Tick
import BotCockpit.Proofs.Sim.Command
import BotCockpit.Proofs.Sim.Invariant
import BotCockpit.Spec.Robot
import BotCockpit.Proofs.Sim.Publication
import BotCockpit.Proofs.Sim.EstopLatch
import BotCockpit.Proofs.Sim.Authorisation
import BotCockpit.Proofs.Sim.Outcome
import BotCockpit.Proofs.Sim.Startup
import BotCockpit.Proofs.Sim.BlockingFault
import BotCockpit.Proofs.Sim.Redelivery
import BotCockpit.Proofs.Sim.TaskStep
import BotCockpit.Proofs.Sim.Resume
import BotCockpit.Proofs.Sim.TaskOnce
import BotCockpit.Lib.Exact
import BotCockpit.Proofs.Sim.Nav
import BotCockpit.Lib.LittleEndian
import BotCockpit.Wire.Frame
import BotCockpit.Proofs.Wire.Frame
import BotCockpit.Bridge.Protocol
import BotCockpit.Bridge.Messages
import BotCockpit.Proofs.Bridge.Envelope
import BotCockpit.Ui.RobotState
import BotCockpit.Proofs.Ui.Liveness
import BotCockpit.Bridge.System
import BotCockpit.Proofs.Bridge.Flow
import BotCockpit.Proofs.Bridge.Batch
import BotCockpit.Proofs.Bridge.Robot
import BotCockpit.Proofs.Bridge.EstopOrder
import BotCockpit.Proofs.Bridge.Results
import BotCockpit.Proofs.Bridge.Matching
import BotCockpit.Proofs.Bridge.Refusal
import BotCockpit.Proofs.Bridge.EstopGate
import BotCockpit.Proofs.Bridge.Order
import BotCockpit.Proofs.Bridge.Confirmation
import BotCockpit.Proofs.Bridge.Handshake
import BotCockpit.Proofs.Bridge.Snapshot
import BotCockpit.Proofs.Bridge.Acks
import BotCockpit.Ui.ConnectionController
import BotCockpit.Ui.Console
import BotCockpit.Lib.JsonText
import BotCockpit.Lib.Utf8
import BotCockpit.Ui.SocketWorker
import BotCockpit.Lib.Queue
import BotCockpit.Spec.Console
import BotCockpit.Proofs.Ui.SocketWorker
import BotCockpit.Proofs.Ui.Controller
import BotCockpit.Proofs.Ui.Slots
import BotCockpit.Proofs.Ui.Reconnect
import BotCockpit.Proofs.Ui.Connecting
import BotCockpit.Proofs.Ui.Endpoint
import BotCockpit.Proofs.Ui.FailClosed
import BotCockpit.Bridge.SendFrame
import BotCockpit.Spec.Connection
import BotCockpit.Proofs.Bridge.SendFrame
import BotCockpit.Proofs.Sim.Navigation
import BotCockpit.Spec.Navigation
import BotCockpit.Spec.StateMessage
import BotCockpit.Proofs.Sim.Texts
import BotCockpit.Proofs.Sim.StateMessage
import BotCockpit.Lib.BestFirst
import BotCockpit.Proofs.Sim.Planner
import BotCockpit.Proofs.Sim.NavStatus
import BotCockpit.Proofs.Sim.FaultList
import BotCockpit.Proofs.Sim.RefusedTask
import BotCockpit.Proofs.Sim.TaskIds
import BotCockpit.Proofs.Sim.Corridor
import BotCockpit.Proofs.Sim.Goals
import BotCockpit.Lib.Reader
import BotCockpit.Proofs.Wire.AnyStream
import BotCockpit.Proofs.Bridge.Strings
import BotCockpit.Proofs.Ui.ResetRemote
import BotCockpit.Lib.FixedPoint
import BotCockpit.Proofs.Sim.Inflation
import BotCockpit.Proofs.Ui.PathText
import BotCockpit.Lib.Counter
import BotCockpit.Spec.Worker
import BotCockpit.Proofs.Ui.Numbers
import BotCockpit.Bridge.Watchdog
import BotCockpit.Spec.Watchdog
import BotCockpit.Proofs.Bridge.Watchdog
import BotCockpit.Bridge.Net
import BotCockpit.Spec.Net
import BotCockpit.Proofs.Bridge.Net
import BotCockpit.Proofs.Bridge.Shutdown
import BotCockpit.Proofs.Bridge.FirstState
import BotCockpit.Proofs.Bridge.Integers
import BotCockpit.Spec.Controller
import BotCockpit.Proofs.Ui.Backoff
import BotCockpit.Lib.GridLine
import BotCockpit.Lib.Real
import BotCockpit.Spec.LineOfSight
import BotCockpit.Proofs.Sim.LineOfSight
import BotCockpit.Lib.Float64
import BotCockpit.Lib.Libm
import BotCockpit.Proofs.Sim.GoalDomain
import BotCockpit.Lib.FlatJson
import BotCockpit.Spec.Payload
import BotCockpit.Proofs.Bridge.Fields
import BotCockpit.Proofs.Bridge.StateFrame
import BotCockpit.Spec.Delta
import BotCockpit.Proofs.Ui.Delta
import BotCockpit.Proofs.Bridge.Lanes
import BotCockpit.Proofs.Bridge.Answers
import BotCockpit.Proofs.Bridge.Delivery
import BotCockpit.Proofs.Bridge.StateOrder
import BotCockpit.Proofs.Sim.Current
import BotCockpit.Proofs.Sim.Clearance
import BotCockpit.Proofs.Sim.Motion
import BotCockpit.Proofs.Sim.Resources
import BotCockpit.Ui.FaultTableModel
import BotCockpit.Ui.Screen
import BotCockpit.Spec.Screen
import BotCockpit.Proofs.Ui.Screen
import BotCockpit.Proofs.Ui.Shown
import BotCockpit.Ui.ControlPage
import BotCockpit.Proofs.Ui.ControlPage
