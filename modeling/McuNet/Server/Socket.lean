/-
# The server socket

`src/server_socket.h`, `src/server_socket.cpp` and `src/socket_listener.h`.

A `ServerSocket` binds a hardware socket to a TCP port and tells a listener what
happens to the connections of that port.  It is driven from outside: each call
of `PerformIO` reads the status of the hardware socket once, compares it with
the status it remembers in `last_status_`, and makes at most one callback.

The record holds the members of the class; `net` is everything outside of it
(`McuNet.Platform.Interface`).  `log` is a ghost that no function reads: the
callbacks in the order in which they were made, each with the hardware socket
and the state of the platform at that moment.

`MCU_VLOG` is left out, and so are the debug checks, which do nothing in a
release build; after a failed check the code goes on, and so do the definitions.
-/

import McuNet.Connection.TcpServer
import McuNet.Core.Session

namespace McuNet

/-- A `ServerSocketListener`, with its state.  In `OnConnect` and `OnCanRead` it
runs a program on the connection; `OnDisconnect` is not given one. -/
class ServerSocketListener (L : Type*) where
  onConnect : L → Program ConnectionOp Reply L
  onCanRead : L → Program ConnectionOp Reply L
  onDisconnect : L → L

/-- A listener that makes the same calls in every `OnConnect`, and the same in
every `OnCanRead`. -/
structure Scripted where
  connect : List ConnectionOp := []
  canRead : List ConnectionOp := []

instance : ServerSocketListener Scripted where
  onConnect l := Program.script l.connect l
  onCanRead l := Program.script l.canRead l
  onDisconnect l := l

/-- A call of the listener.  `closed`: it called `close` before it returned. -/
inductive Callback where
  | onConnect (closed : Bool)
  | onCanRead (closed : Bool)
  | onDisconnect
  deriving DecidableEq, Repr

/-- The callbacks as the signals of a session. -/
def Callback.signal : Callback → Session.Signal
  | .onConnect closed => .start closed
  | .onCanRead closed => .more closed
  | .onDisconnect => .stop

/-- A callback, the hardware socket it is about, and the platform when it was
made. -/
structure Delivery (W : Type*) where
  callback : Callback
  sockNum : UInt8
  net : W

/-- `ServerSocket`, with the initial values of its constructor. -/
structure ServerSocket (W L : Type*) where
  sockNum : UInt8 := maxSockNum
  lastStatus : UInt8 := SnSR.closed
  listener : L
  tcpPort : UInt16
  disconnectData : DisconnectData W := {}
  net : W
  log : List (Delivery W) := []

namespace ServerSocket

variable {W L : Type*}

/-- `HasSocket`. -/
def hasSocket (x : ServerSocket W L) : Bool := x.sockNum < maxSockNum

/-- The callbacks made so far. -/
def callbacks (x : ServerSocket W L) : List Callback := x.log.map Delivery.callback

section Definitions

variable [Platform W]

/-- `last_status_ = PlatformNetwork::SocketStatus(sock_num_)`. -/
def refreshStatus (x : ServerSocket W L) : ServerSocket W L :=
  let status := Platform.socketStatus x.sockNum x.net
  { x with lastStatus := status.1, net := status.2 }

/-- `IsConnected`. -/
def isConnected (x : ServerSocket W L) : Bool × ServerSocket W L :=
  if x.hasSocket then
    let r := Platform.socketIsInTcpConnectionLifecycle x.sockNum x.net
    (r.1, { x with net := r.2 })
  else (false, x)

/-- `CloseHardwareSocket`.  Contrary to its comment in the header it does not
inform the listener. -/
def closeHardwareSocket (x : ServerSocket W L) : ServerSocket W L :=
  refreshStatus { x with net := (Platform.closeSocket x.sockNum x.net).2 }

/-- `BeginListening`. -/
def beginListening (x : ServerSocket W L) : Bool × ServerSocket W L :=
  if x.hasSocket then
    let port := Platform.socketIsTcpListener x.sockNum x.net
    let x := { x with net := port.2 }
    if x.tcpPort = port.1 then (true, x.refreshStatus)
    else
      let c := x.isConnected
      if c.1 then (false, c.2)
      else
        let x := c.2.closeHardwareSocket
        let r := Platform.initializeTcpListenerSocket x.sockNum x.tcpPort x.net
        let x := { x with net := r.2 }
        if r.1 then (true, x.refreshStatus) else (false, x)
  else (false, x)

/-- `PickClosedSocket`. -/
def pickClosedSocket (x : ServerSocket W L) : Bool × ServerSocket W L :=
  if x.hasSocket then (false, x)
  else
    let found := Platform.findUnusedSocket x.net
    let x := { x with lastStatus := SnSR.closed, net := found.2 }
    if 0 ≤ found.1 ∧ found.1 < maxSockNum.toNat then
      let r := beginListening { x with sockNum := UInt8.ofNat found.1.toNat }
      if r.1 then (true, r.2.refreshStatus) else (false, { r.2 with sockNum := maxSockNum })
    else (false, x)

/-- `ReleaseSocket`. -/
def releaseSocket (x : ServerSocket W L) : Bool × ServerSocket W L :=
  if x.hasSocket then
    let c := x.isConnected
    if c.1 then (false, c.2) else (true, { c.2.closeHardwareSocket with sockNum := maxSockNum })
  else (true, x)

/-- `DetectCloseTimeout`, with `kDisconnectMaxMillis` in it. -/
def detectCloseTimeout (x : ServerSocket W L) : ServerSocket W L :=
  if x.disconnectData.disconnected then
    let elapsed := x.disconnectData.elapsedDisconnectTime x.net
    let x := { x with net := elapsed.2 }
    if 5000 < elapsed.1 then x.closeHardwareSocket else x
  else x

/-- `DetectListenerInitiatedDisconnect`. -/
def detectListenerInitiatedDisconnect (x : ServerSocket W L) : ServerSocket W L :=
  if x.disconnectData.disconnected then x.refreshStatus else x

variable [ServerSocketListener L]

/-- `listener_.OnDisconnect()`. -/
def announceDisconnect (x : ServerSocket W L) : ServerSocket W L :=
  { x with
    listener := ServerSocketListener.onDisconnect x.listener
    log := x.log ++ [⟨.onDisconnect, x.sockNum, x.net⟩] }

/-- `disconnect_data_.RecordDisconnect()`. -/
def recordDisconnect (x : ServerSocket W L) : ServerSocket W L :=
  let d := x.disconnectData.recordDisconnect x.net
  { x with disconnectData := d.1, net := d.2 }

/-- `SocketLost`. -/
def socketLost (x : ServerSocket W L) : ServerSocket W L :=
  let x := if x.hasSocket && statusIsOpen x.lastStatus then x.announceDisconnect else x
  recordDisconnect { x with sockNum := maxSockNum, lastStatus := SnSR.closed }

/-- The listener runs `p` on a new connection.  Second, the connection as it
leaves it. -/
def serve (kind : Bool → Callback) (p : Program ConnectionOp Reply L) (x : ServerSocket W L) :
    ServerSocket W L × TcpServerConnection W :=
  let r := Serving.serve p x.sockNum x.net
  ({ x with
      listener := r.1
      disconnectData := r.2.conn.disconnectData
      net := r.2.net
      log := x.log ++ [⟨kind r.2.closed, x.sockNum, x.net⟩] }, r.2.conn)

/-- What `AnnounceConnected` and `AnnounceCanRead` have in common: the callback,
the check for `close`, and last the destructor of the connection. -/
def announce (kind : Bool → Callback) (p : Program ConnectionOp Reply L) (x : ServerSocket W L) :
    ServerSocket W L :=
  let r := x.serve kind p
  let x := r.1.detectListenerInitiatedDisconnect
  { x with net := (r.2.flush x.net).2 }

/-- `AnnounceConnected`. -/
def announceConnected (x : ServerSocket W L) : ServerSocket W L :=
  x.announce .onConnect (ServerSocketListener.onConnect x.listener)

/-- `AnnounceCanRead`. -/
def announceCanRead (x : ServerSocket W L) : ServerSocket W L :=
  x.announce .onCanRead (ServerSocketListener.onCanRead x.listener)

/-- `HandleCloseWait` when nothing is left to read: the connection is closed for
the listener, which is told so while the connection still exists. -/
def endHalfClosed (x : ServerSocket W L) : ServerSocket W L :=
  let r := (TcpServerConnection.new x.sockNum).close x.net
  let x := { x with disconnectData := r.1.disconnectData, net := r.2 }.refreshStatus.announceDisconnect
  { x with net := (r.1.flush x.net).2 }

/-- `HandleCloseWait`.  The connection is constructed before `available` is
asked, which makes no difference to either. -/
def handleCloseWait (x : ServerSocket W L) : ServerSocket W L :=
  let available := (Platform.ethernetClient x.sockNum).available x.net
  let x := { x with net := available.2 }
  if 0 < available.1 then x.announceCanRead else x.endHalfClosed

/-- The branch of `PerformIO` for a connection that was open and is not. -/
def noticeLoss (x : ServerSocket W L) : ServerSocket W L :=
  if x.disconnectData.disconnected then x else x.recordDisconnect.announceDisconnect

/-- `PerformIO` from the comparison of the two statuses on; `last_status_` is
`status` already. -/
def dispatch (pastStatus status : UInt8) (x : ServerSocket W L) : ServerSocket W L :=
  if statusIsOpen pastStatus && !statusIsOpen status then x.noticeLoss
  else if status = SnSR.closed then x.beginListening.2
  else if status = SnSR.listen then x
  else if status = SnSR.synRecv then { x with lastStatus := SnSR.listen }
  else if status = SnSR.established then
    if statusIsOpen pastStatus then x.announceCanRead else x.announceConnected
  else if status = SnSR.closeWait then
    if statusIsOpen pastStatus then x.handleCloseWait else x.announceConnected
  else if status = SnSR.finWait ∨ status = SnSR.closing ∨ status = SnSR.timeWait ∨
      status = SnSR.lastAck then x.detectCloseTimeout
  else if status = SnSR.init then
    if pastStatus = SnSR.init then x.closeHardwareSocket else x
  else if status = SnSR.synSent ∨ status = SnSR.udp ∨ status = SnSR.ipRaw ∨
      status = SnSR.macRaw ∨ status = SnSR.pppoe then x.closeHardwareSocket
  else { x with lastStatus := pastStatus }

/-- `PerformIO`. -/
def performIo (x : ServerSocket W L) : ServerSocket W L :=
  if x.hasSocket then x.refreshStatus.dispatch x.lastStatus x.refreshStatus.lastStatus else x

end Definitions

end ServerSocket

/-- The calls a program makes on its server sockets. -/
inductive PublicCall where
  | pickClosedSocket
  | performIo
  | releaseSocket
  | socketLost
  deriving DecidableEq, Repr

namespace ServerSocket

variable {W L : Type*} [Platform W] [ServerSocketListener L]

/-- A public call, without its result. -/
def run (x : ServerSocket W L) : PublicCall → ServerSocket W L
  | .pickClosedSocket => x.pickClosedSocket.2
  | .performIo => x.performIo
  | .releaseSocket => x.releaseSocket.2
  | .socketLost => x.socketLost

end ServerSocket
end McuNet
