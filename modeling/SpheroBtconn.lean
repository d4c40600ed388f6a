import SpheroBtconn.Foundation.EventSystem
import SpheroBtconn.Packet.CommandHistory
import SpheroBtconn.Packet.ResponseHistory
import SpheroBtconn.Packet.CommandFrame
import SpheroBtconn.Connection.System
import SpheroBtconn.Connection.Outbound
import SpheroBtconn.Connection.SendBuffer
import SpheroBtconn.Connection.Inbound
import SpheroBtconn.Connection.Receive
import SpheroBtconn.Handler.SpheroHandler
import SpheroBtconn.Handler.Chunking
import SpheroBtconn.Handler.ReadOrder
import SpheroBtconn.Connection.Down
import SpheroBtconn.Connection.Shutdown
import SpheroBtconn.Connection.Drain
import SpheroBtconn.Connection.Readers
import SpheroBtconn.Foundation.BigEndian
import SpheroBtconn.Packet.Numerical
import SpheroBtconn.Packet.ResponseText
import SpheroBtconn.Handler.Truncation
import SpheroBtconn.Handler.SendCommand
import SpheroBtconn.Handler.Session
import SpheroBtconn.Handler.Correlation
import SpheroBtconn.Foundation.StackOrder
import SpheroBtconn.Connection.ReadStack
import SpheroBtconn.Connection.Flush
import SpheroBtconn.Connection.Reachable
import SpheroBtconn.Connection.FineSteps
import SpheroBtconn.Connection.Reduction
import SpheroBtconn.Connection.Once
import SpheroBtconn.Connection.Faults
import SpheroBtconn.Connection.Stall
import SpheroBtconn.Connection.Hang
import SpheroBtconn.Handler.Wire
import SpheroBtconn.Handler.Pipeline
import SpheroBtconn.Foundation.EarlyExit
import SpheroBtconn.Connection.Inquiry
import SpheroBtconn.Handler.Constructor
import SpheroBtconn.Packet.Resend
import SpheroBtconn.Handler.Completion
import SpheroBtconn.Handler.EndToEnd
