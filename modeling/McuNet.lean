import McuNet.Core.Program
import McuNet.Core.Session
import McuNet.Core.History
import McuNet.Platform.Status
import McuNet.Platform.Interface
import McuNet.Connection.WriteBuffered
import McuNet.Connection.Stream
import McuNet.Connection.TcpServer
import McuNet.Server.Socket
import McuNet.Server.Poll
import McuNet.Server.Hardware
import McuNet.Embedded.Network
import McuNet.Embedded.Chip
import McuNet.Embedded.W5500
import McuNet.Server.Link
import McuNet.Embedded.LiveChip
import McuNet.Server.Protocol
import McuNet.Server.Release
import McuNet.Server.Undocumented
import McuNet.Server.Announce
import McuNet.Server.Timeout
import McuNet.Server.Fleet
import McuNet.Embedded.Pick
import McuNet.Server.Exclusive
import McuNet.Host.SocketInfo
import McuNet.Host.Network
import McuNet.Host.Links
import McuNet.Server.Ended
import McuNet.Host.Ended
import McuNet.Host.FlushSend
import McuNet.Device.Addresses
import McuNet.Device.IpDevice
import McuNet.Device.Stored
import McuNet.Connection.Chunks
import McuNet.Connection.AfterFin
import McuNet.Core.Run
import McuNet.Host.SocketOps
import McuNet.Host.Fields
import McuNet.Core.Incoming
import McuNet.Host.LocalKernel
import McuNet.Host.Descriptors
import McuNet.Host.Polling
import McuNet.Host.EndOfStream
import McuNet.Host.Receiving
import McuNet.Host.Inspection
import McuNet.Core.Interleaving
import McuNet.Host.EthernetHost
import McuNet.Host.EthernetServer
import McuNet.Host.SharedSockets
import McuNet.Host.SocketTable
import McuNet.Host.TableRefinement
import McuNet.Host.PortMap
import McuNet.TestTools.StringIoStream
import McuNet.Connection.Handover
import McuNet.Server.Recording
import McuNet.Sketch.NetEcho
import McuNet.Host.Wiretap
import McuNet.Sketch.EchoOnHost
import McuNet.Sketch.EchoDrains
import McuNet.Host.SocketSteps
import McuNet.Host.SharedDescriptors
import McuNet.Host.CallOrder
import McuNet.Host.Ownership
import McuNet.Host.Lasting
import McuNet.Device.Fallback
import McuNet.Device.Ordering
import McuNet.Embedded.Recovery
