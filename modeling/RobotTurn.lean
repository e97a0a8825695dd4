import RobotTurn.Board.Builder
import RobotTurn.Main
import RobotTurn.Proofs.Transport
import RobotTurn.Script.Guest
import RobotTurn.Script.Robot
import RobotTurn.Script.Files
import RobotTurn.Script.Programs
import RobotTurn.Proofs.Runner.Order
import RobotTurn.Proofs.Mailbox.Interrupted
import RobotTurn.Proofs.Runner.Isolation
import RobotTurn.Proofs.Host.Capture
import RobotTurn.Proofs.Host.Exchange
import RobotTurn.Proofs.Runner.Location
import RobotTurn.Proofs.Host.Streams
import RobotTurn.Proofs.Board.Queries
import RobotTurn.Proofs.Wire.RoundTrip
import RobotTurn.Proofs.Mailbox.Unread
import RobotTurn.Proofs.Command
import RobotTurn.Proofs.Board.Builder
import RobotTurn.Proofs.Geometry.Walk
import RobotTurn.Proofs.Runner.Debug
import RobotTurn.Proofs.Host.Printed
import RobotTurn.Proofs.Failure
import RobotTurn.Proofs.Demo.Hunt
import RobotTurn.Proofs.Demo.Patrol
import RobotTurn.Proofs.Host.Quota
import RobotTurn.Proofs.Host.Cache
