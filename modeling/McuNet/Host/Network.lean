/-
# The platform network on the host

`extras/host/ethernet5500/host_network.h`,
`extras/host/ethernet5500/host_network.cpp`,
`extras/host/ethernet5500/ethernet_client.h` and
`extras/host/ethernet5500/ethernet_client.cpp`.

`HostNetwork` keeps a `HostSocketInfo` for each of the eight hardware sockets and
passes every call on to one of them.  `aborted` says that a fatal `CHECK` has
ended the process; what the definitions do from then on stands for nothing.
`closes` is a ghost: how often `CloseSocket` was called for each socket.

The clock and the write error of a client belong to the McuCore library, which is
not part of the sources.
-/

import McuNet.Host.SocketInfo
import McuNet.Connection.WriteBuffered

namespace McuNet

/-- What is used of McuCore: `millis`, `ElapsedMillis`, and `getWriteError` of an
`EthernetClient`, which never sets it. -/
class McuCore (K : Type*) where
  millis : K → UInt32 × K
  elapsedMillis : UInt32 → K → UInt32 × K
  getWriteError : K → ℤ × K

/-- `HostNetworkImpl`, with the kernel and the flag `tcp_server_port_map`. -/
structure HostNetwork (K : Type*) where
  kernel : K
  sockets : UInt8 → HostSocketInfo := fun _ => {}
  tcpServerPortMap : List (UInt16 × UInt16) := []
  aborted : Bool := false
  closes : UInt8 → ℕ := fun _ => 0

namespace HostNetwork

variable {K : Type*}

def kMaxSockets : UInt8 := 8

/-- A call passed on to the socket that `GetHostSocketInfo` returns.  Its range
check lets `kMaxSockets` through, for which the socket is then missing; other
socket numbers out of range get the `default`. -/
def onSocket {α : Type*} (default : α) (n : UInt8)
    (f : HostSocketInfo → K → Option (α × HostSocketInfo × K)) (w : HostNetwork K) :
    α × HostNetwork K :=
  if w.aborted || kMaxSockets < n then (default, w)
  else if n = kMaxSockets then (default, { w with aborted := true })
  else
    match f (w.sockets n) w.kernel with
    | none => (default, { w with aborted := true })
    | some r =>
      (r.1, { w with kernel := r.2.2, sockets := Function.update w.sockets n r.2.1 })

/-- The loop of `FindUnusedSocket`, from some socket number on. -/
def findUnusedSocketIn : List UInt8 → HostNetwork K → ℤ × HostNetwork K
  | [], w => (-1, w)
  | n :: rest, w =>
    let r := onSocket false n (fun s k => s.isUnused.map (·, s, k)) w
    if r.1 then (n.toNat, r.2) else findUnusedSocketIn rest r.2

/-- `FindUnusedSocket`. -/
def findUnusedSocket : HostNetwork K → ℤ × HostNetwork K :=
  findUnusedSocketIn ((List.range kMaxSockets.toNat).map UInt8.ofNat)

/-- `SocketIsTcpListener`. -/
def socketIsTcpListener (n : UInt8) : HostNetwork K → UInt16 × HostNetwork K :=
  onSocket 0 n fun s k => s.isTcpListener.map (·, s, k)

/-- `SocketIsInTcpConnectionLifecycle`. -/
def socketIsInTcpConnectionLifecycle (n : UInt8) : HostNetwork K → Bool × HostNetwork K :=
  onSocket false n fun s k => some (s.isConnected, s, k)

variable [Posix K]

/-- `SocketStatus`. -/
def socketStatus (n : UInt8) : HostNetwork K → UInt8 × HostNetwork K :=
  onSocket HostSocketInfo.kStatusClosed n HostSocketInfo.socketStatus

/-- `InitializeTcpListenerSocket`. -/
def initializeTcpListenerSocket (n : UInt8) (tcpPort : UInt16) (w : HostNetwork K) :
    Bool × HostNetwork K :=
  onSocket false n
    (fun s k => some (HostSocketInfo.initializeTcpListener w.tcpServerPortMap tcpPort s k)) w

/-- `AcceptConnection`. -/
def acceptConnection (n : UInt8) : HostNetwork K → Bool × HostNetwork K :=
  onSocket false n fun s k => some (s.acceptConnection k)

/-- `DisconnectSocket`. -/
def disconnectSocket (n : UInt8) : HostNetwork K → Bool × HostNetwork K :=
  onSocket false n fun s k => some (s.disconnectConnectionSocket k)

/-- `CloseSocket`. -/
def closeSocket (n : UInt8) (w : HostNetwork K) : Bool × HostNetwork K :=
  onSocket false n
    (fun s k =>
      let c := s.closeConnectionSocket k
      some (true, c.1.closeListenerSocket c.2))
    { w with closes := Function.update w.closes n (w.closes n + 1) }

/-- `Send`. -/
def send (n : UInt8) (buf : Ptr) (len : ℕ) : HostNetwork K → ℤ × HostNetwork K :=
  onSocket (-1) n fun s k =>
    let r := s.send buf len k
    some (r.1, s, r.2)

/-- `AvailableBytes`. -/
def availableBytes (n : UInt8) : HostNetwork K → ℤ × HostNetwork K :=
  onSocket (-1) n HostSocketInfo.availableBytes

/-- `Peek`. -/
def peek (n : UInt8) : HostNetwork K → ℤ × HostNetwork K := onSocket (-1) n HostSocketInfo.peek

/-- `Recv`. -/
def recv (n : UInt8) (len : ℕ) : HostNetwork K → (ℤ × List UInt8) × HostNetwork K :=
  onSocket (-1, []) n (HostSocketInfo.recv len)

/-- Something that concerns the kernel only. -/
def onKernel {α : Type*} (f : K → α × K) (w : HostNetwork K) : α × HostNetwork K :=
  let r := f w.kernel
  (r.1, { w with kernel := r.2 })

variable [McuCore K]

/-- `EthernetClient` for a socket.  `write` returns the `ssize_t` of `Send` as a
`size_t`, and `read` that of `Recv` as an `int`. -/
def ethernetClient (n : UInt8) : Client (HostNetwork K) where
  write buf size w :=
    let r := send n buf (if 2048 < size then 2048 else size) w
    (sizeT r.1, r.2)
  getWriteError := onKernel McuCore.getWriteError
  available := availableBytes n
  read w :=
    let r := recv n 1 w
    (if 0 < r.1.1 then (r.1.2.headD 0).toNat else -1, r.2)
  readBuf size w :=
    let r := recv n size w
    ((r.1.1.bmod (2 ^ 32), r.1.2), r.2)
  peek := peek n
  connected w :=
    let r := socketIsInTcpConnectionLifecycle n w
    (if r.1 then 1 else 0, r.2)

instance : Platform (HostNetwork K) where
  findUnusedSocket := findUnusedSocket
  socketIsTcpListener := socketIsTcpListener
  socketIsInTcpConnectionLifecycle := socketIsInTcpConnectionLifecycle
  socketStatus := socketStatus
  initializeTcpListenerSocket := initializeTcpListenerSocket
  disconnectSocket := disconnectSocket
  closeSocket := closeSocket
  ethernetClient := ethernetClient
  millis := onKernel McuCore.millis
  elapsedMillis t := onKernel (McuCore.elapsedMillis t)

/-! ### A call on a socket -/

/-- The members and the kernel behind a socket number, while the process goes on. -/
structure Has (w : HostNetwork K) (n : UInt8) (x : HostSocketInfo × K) : Prop where
  live : w.aborted = false
  range : n < kMaxSockets
  socket : w.sockets n = x.1
  kernel : w.kernel = x.2

omit [Posix K] [McuCore K] in
/-- A call on such a socket. -/
theorem Has.onSocket {w : HostNetwork K} {n : UInt8} {x : HostSocketInfo × K} (h : w.Has n x)
    {α : Type*} (default : α) {f : HostSocketInfo → K → Option (α × HostSocketInfo × K)}
    {r : α × HostSocketInfo × K} (hr : f x.1 x.2 = some r) :
    HostNetwork.onSocket default n f w =
      (r.1, { w with kernel := r.2.2, sockets := Function.update w.sockets n r.2.1 }) := by
  have hlt := UInt8.lt_iff_toNat_lt.1 h.range
  have hle : ¬kMaxSockets < n := fun hgt => by
    rw [UInt8.lt_iff_toNat_lt] at hgt
    omega
  have hne : n ≠ kMaxSockets := fun heq => by
    rw [heq] at hlt
    exact absurd hlt (lt_irrefl _)
  simp only [HostNetwork.onSocket, h.live, hle, hne, h.socket, h.kernel, hr, decide_false,
    Bool.or_self, Bool.false_eq_true, if_false]

/-- **What a call that is passed on to a socket does.** -/
inductive Passed {α : Type*} (default : α) (n : UInt8)
    (f : HostSocketInfo → K → Option (α × HostSocketInfo × K)) (w : HostNetwork K) :
    α × HostNetwork K → Prop where
  | skipped (skip : w.aborted = true ∨ kMaxSockets < n) : Passed default n f w (default, w)
  | ended : Passed default n f w (default, { w with aborted := true })
  | done (live : w.aborted = false) (range : n < kMaxSockets)
      {r : α × HostSocketInfo × K} (result : f (w.sockets n) w.kernel = some r) :
      Passed default n f w
        (r.1, { w with kernel := r.2.2, sockets := Function.update w.sockets n r.2.1 })

omit [Posix K] [McuCore K] in
theorem onSocket_passed {α : Type*} (default : α) (n : UInt8)
    (f : HostSocketInfo → K → Option (α × HostSocketInfo × K)) (w : HostNetwork K) :
    Passed default n f w (onSocket default n f w) := by
  unfold onSocket
  split_ifs with hskip hmax
  · exact .skipped (by simpa using hskip)
  · exact .ended
  · simp only [Bool.or_eq_true, decide_eq_true_eq, not_or] at hskip
    have hrange : n < kMaxSockets := by
      have hne : n.toNat ≠ kMaxSockets.toNat := fun h => hmax (UInt8.toNat_inj.1 h)
      rw [UInt8.lt_iff_toNat_lt] at hskip ⊢
      omega
    split
    · exact .ended
    · rename_i r hr
      exact .done (by simpa using hskip.1) hrange hr

end HostNetwork
end McuNet
