import OpenDNP3.Lib.Run
import OpenDNP3.Lib.Scan
import OpenDNP3.APL.Bytes
import OpenDNP3.APL.Exception
import OpenDNP3.APL.Crc
import OpenDNP3.APL.ShiftableBuffer
import OpenDNP3.Link.Header
import OpenDNP3.Link.Frame
import OpenDNP3.Link.Receiver
import OpenDNP3.Link.FrameScan
import OpenDNP3.Link.RoundTrip
import OpenDNP3.Transport.Tx
import OpenDNP3.Transport.Rx
import OpenDNP3.Transport.Loss
import OpenDNP3.Transport.Layer
import OpenDNP3.Link.Layer
import OpenDNP3.Lib.StopAndWait
import OpenDNP3.Link.Session
import OpenDNP3.Link.Primary
import OpenDNP3.Link.Router
import OpenDNP3.Link.RouterRun
import OpenDNP3.Link.Reconnect
import OpenDNP3.Lib.Handler
import OpenDNP3.Lib.LittleEndian
import OpenDNP3.Lib.Throws
import OpenDNP3.Lib.Tiling
import OpenDNP3.Lib.Grants
import OpenDNP3.Lib.OrderedSet
import OpenDNP3.App.Header
import OpenDNP3.App.Objects
import OpenDNP3.App.Apdu
import OpenDNP3.App.Grammar
import OpenDNP3.App.ReadObjects
import OpenDNP3.App.Unsolicited
import OpenDNP3.App.OutApdu
import OpenDNP3.App.Layer
import OpenDNP3.App.LayerSpec
import OpenDNP3.App.LayerRun
import OpenDNP3.App.LayerSteps
import OpenDNP3.App.Confirm
import OpenDNP3.App.Network
import OpenDNP3.App.ConfirmSlot
import OpenDNP3.App.Reentry
import OpenDNP3.App.Pieces
import OpenDNP3.App.Transactions
import OpenDNP3.App.Retries
import OpenDNP3.Slave.Command
import OpenDNP3.Slave.Slave
import OpenDNP3.Slave.States
import OpenDNP3.Slave.Handlers
import OpenDNP3.Slave.Selection
import OpenDNP3.Slave.PointTimeout
import OpenDNP3.Slave.Coupling
import OpenDNP3.Slave.Ledger
import OpenDNP3.Slave.LedgerRun
import OpenDNP3.Slave.Disconnect
import OpenDNP3.Slave.Repeats
import OpenDNP3.Slave.Outstation
import OpenDNP3.Slave.Pieces
import OpenDNP3.Slave.DeferredEvents
import OpenDNP3.Slave.TimerFaults
import OpenDNP3.Slave.Timers
import OpenDNP3.Event.Buffer
import OpenDNP3.Event.Capacity
import OpenDNP3.Event.Sequence
import OpenDNP3.Event.Counts
import OpenDNP3.Event.Latest
import OpenDNP3.Event.Order
import OpenDNP3.App.SizeT
import OpenDNP3.Response.Select
import OpenDNP3.Response.Static
import OpenDNP3.Response.StaticReads
import OpenDNP3.Link.ReceiverBuffer
import OpenDNP3.Link.Monitor
import OpenDNP3.Link.RouterMonitor
import OpenDNP3.Link.Lifecycle
import OpenDNP3.Vto.FlowControl
import OpenDNP3.Vto.Router
import OpenDNP3.Vto.StreamRun
import OpenDNP3.Vto.Writer
import OpenDNP3.Vto.Connection
import OpenDNP3.Lib.MaxElement
import OpenDNP3.Lib.Reach
import OpenDNP3.Lib.ShiftRegister
import OpenDNP3.APL.Tasks
import OpenDNP3.APL.Dispatch
import OpenDNP3.APL.CrcBits
import OpenDNP3.Slave.Controls
import OpenDNP3.Slave.ControlLimit
import OpenDNP3.Slave.ControlResponse
import OpenDNP3.Codec.Packing
import OpenDNP3.Codec.Objects
import OpenDNP3.Codec.RoundTrip
import OpenDNP3.Response.EventWrite
import OpenDNP3.Stack.SharedLine
import OpenDNP3.App.Octets
import OpenDNP3.App.Writer
import OpenDNP3.App.BufferRun
import OpenDNP3.Response.Loader
import OpenDNP3.Codec.Image
import OpenDNP3.Response.Poll
import OpenDNP3.Response.EventBlocks
import OpenDNP3.Response.EventRead
import OpenDNP3.Response.Read
import OpenDNP3.Event.Account
import OpenDNP3.Event.Changes
import OpenDNP3.Response.Times
