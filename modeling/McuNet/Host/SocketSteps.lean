/-
# What the users of the host network do to its sockets

`extras/host/ethernet5500/host_network.cpp`, `extras/host/ethernet5500/ethernet_server.cpp`,
`extras/host/ethernet5500/ethernet_class.h`, `extras/host/ethernet5500/ethernet_class.cpp`
and `Mega2560Eth::SetupW5500` (`src/ip_device.cpp`).

Server sockets, clients, Ethernet servers and the reset of the chip all come down to eight
functions of single sockets (`HostSocketInfo.Step`).  What each of them keeps, every
run of all users keeps (`Sharing.steps_exec`).

`AcceptConnection` is the one that asks for something: it should be called for a socket
that listens only if the socket has its port.  `SocketStatus` has checked that, and
an Ethernet server reads the status before it accepts.
-/

import Mathlib.Logic.Relation
import McuNet.Host.SharedSockets
import McuNet.Host.SocketTable

namespace McuNet

open Relation

namespace HostSocketInfo

variable {K : Type*} [Posix K]

/-- **What may happen to a socket**: a function of it that changes the members or calls the
kernel. -/
inductive Step (portMap : List (UInt16 × UInt16)) :
    HostSocketInfo × K → HostSocketInfo × K → Prop where
  | closeConnectionSocket (s k) : Step portMap (s, k) (s.closeConnectionSocket k)
  | closeListenerSocket (s k) : Step portMap (s, k) (s.closeListenerSocket k)
  | initializeTcpListener (port s k) :
      Step portMap (s, k) (s.initializeTcpListener portMap port k).2
  | acceptConnection (s k) (hasPort : haveFd s.listenerSocketFd = true → s.tcpPort ≠ 0) :
      Step portMap (s, k) (s.acceptConnection k).2
  | disconnectConnectionSocket (s k) : Step portMap (s, k) (s.disconnectConnectionSocket k).2
  | send (buf len s k) : Step portMap (s, k) (s, (s.send buf len k).2)
  | recvInternal {len peek s k r} (result : s.recvInternal len peek k = some r) :
      Step portMap (s, k) r.2
  | isConnectionHalfClosed {s k r} (result : s.isConnectionHalfClosed k = some r) :
      Step portMap (s, k) r.2

/-- **A status read** accepts, and then probes the connection. -/
theorem steps_socketStatus {portMap : List (UInt16 × UInt16)} {s : HostSocketInfo} {k : K}
    {r : UInt8 × HostSocketInfo × K} (hr : s.socketStatus k = some r) :
    ReflTransGen (Step portMap) (s, k) r.2 := by
  have haccept : Step portMap (s, k) (s.acceptConnection k).2 :=
    .acceptConnection s k (listener_of_socketStatus hr)
  rcases socketStatus_cases hr with ⟨-, heq, -⟩ | hconn
  · exact heq ▸ .single haccept
  · unfold connectionStatus at hconn
    split_ifs at hconn
    · obtain ⟨half, hhalf, rfl⟩ := Option.map_eq_some_iff.1 hconn
      exact (ReflTransGen.single haccept).tail (.isConnectionHalfClosed hhalf)
    · exact Option.some.inj hconn ▸ .single haccept

end HostSocketInfo

namespace HostNetwork

variable {K : Type*}

/-- The network with another socket, and another kernel. -/
def withSocket (w : HostNetwork K) (n : UInt8) (x : HostSocketInfo × K) : HostNetwork K :=
  { w with kernel := x.2, sockets := Function.update w.sockets n x.1 }

section WithSocket

variable (w : HostNetwork K) {n : UInt8}

theorem sockets_withSocket_self (x : HostSocketInfo × K) : (w.withSocket n x).sockets n = x.1 :=
  Function.update_self _ _ _

theorem sockets_withSocket_of_ne {m : UInt8} (h : m ≠ n) (x : HostSocketInfo × K) :
    (w.withSocket n x).sockets m = w.sockets m :=
  Function.update_of_ne h _ _

theorem withSocket_self : w.withSocket n (w.sockets n, w.kernel) = w := by
  unfold withSocket
  rw [Function.update_eq_self]

theorem withSocket_withSocket (x y : HostSocketInfo × K) :
    (w.withSocket n x).withSocket n y = w.withSocket n y := by
  unfold withSocket
  rw [Function.update_idem]

end WithSocket

variable [Posix K] [McuCore K]

/-- What McuCore does to the kernel. -/
inductive CoreStep : K → K → Prop where
  | millis (k) : CoreStep k (McuCore.millis k).2
  | elapsedMillis (t k) : CoreStep k (McuCore.elapsedMillis t k).2
  | getWriteError (k) : CoreStep k (McuCore.getWriteError k).2

/-- **What may happen to a network**: a step of one socket or of McuCore.  `aborted` and
`closes` are not looked at. -/
inductive Step (w : HostNetwork K) : HostNetwork K → Prop where
  | socket {n x} (range : n < kMaxSockets)
      (step : HostSocketInfo.Step w.tcpServerPortMap (w.sockets n, w.kernel) x) :
      Step w (w.withSocket n x)
  | core {k} (step : CoreStep w.kernel k) : Step w { w with kernel := k }
  | marked (aborted closes) : Step w { w with aborted := aborted, closes := closes }

/-- Steps of one socket are steps of the network. -/
theorem steps_withSocket {w : HostNetwork K} {n : UInt8} (hn : n < kMaxSockets)
    {x : HostSocketInfo × K}
    (h : ReflTransGen (HostSocketInfo.Step w.tcpServerPortMap) (w.sockets n, w.kernel) x) :
    ReflTransGen Step w (w.withSocket n x) := by
  induction h with
  | refl => exact (withSocket_self w (n := n)).symm ▸ .refl
  | @tail x y _ hxy ih =>
    refine ih.tail (withSocket_withSocket w x y (n := n) ▸ .socket hn ?_)
    rw [sockets_withSocket_self]
    exact hxy

section Calls

variable {α : Type*}

/-- **A call on a socket.** -/
theorem steps_onSocket (d : α) (n : UInt8)
    {f : HostSocketInfo → K → Option (α × HostSocketInfo × K)} {w : HostNetwork K}
    (hf : ∀ r, f (w.sockets n) w.kernel = some r →
      ReflTransGen (HostSocketInfo.Step w.tcpServerPortMap) (w.sockets n, w.kernel) r.2) :
    ReflTransGen Step w (onSocket d n f w).2 := by
  generalize hr : onSocket d n f w = r
  cases hr ▸ onSocket_passed d n f w with
  | skipped _ => exact .refl
  | ended => exact .single (.marked _ _)
  | done _ range result => exact steps_withSocket range (hf _ result)

/-- A call that only looks at the members. -/
theorem steps_look (d : α) (n : UInt8) (f : HostSocketInfo → Option α) (w : HostNetwork K) :
    ReflTransGen Step w (onSocket d n (fun s k => (f s).map (·, s, k)) w).2 := by
  refine steps_onSocket d n fun r hr => ?_
  obtain ⟨a, -, rfl⟩ := Option.map_eq_some_iff.1 hr
  exact .refl

/-- `SocketIsInTcpConnectionLifecycle` reads a member. -/
theorem steps_socketIsInTcpConnectionLifecycle (n : UInt8) (w : HostNetwork K) :
    ReflTransGen Step w (socketIsInTcpConnectionLifecycle n w).2 := by
  refine steps_onSocket _ n fun r hr => ?_
  obtain rfl := Option.some.inj hr
  exact .refl

/-- A call that receives, whatever is made of the bytes. -/
theorem steps_recvInternal (d : α) (n : UInt8) (len : ℕ) (peek : Bool)
    (g : (ℤ × List UInt8) × HostSocketInfo × K → α) (w : HostNetwork K) :
    ReflTransGen Step w
      (onSocket d n (fun s k => (s.recvInternal len peek k).map fun r => (g r, r.2)) w).2 := by
  refine steps_onSocket d n fun r hr => ?_
  obtain ⟨q, hq, rfl⟩ := Option.map_eq_some_iff.1 hr
  exact .single (.recvInternal hq)

/-- `Recv` is a step of its socket. -/
theorem steps_recv (n : UInt8) (len : ℕ) (w : HostNetwork K) :
    ReflTransGen Step w (recv n len w).2 :=
  steps_onSocket _ n fun _ hr => .single (.recvInternal hr)

/-- The search for an unused socket asks one socket after the other, and changes none. -/
theorem steps_findUnusedSocketIn (l : List UInt8) (w : HostNetwork K) :
    ReflTransGen Step w (findUnusedSocketIn l w).2 := by
  induction l generalizing w with
  | nil => exact .refl
  | cons n rest ih =>
    have hlook := steps_look false n HostSocketInfo.isUnused w
    simp only [findUnusedSocketIn]
    split_ifs
    · exact hlook
    · exact hlook.trans (ih _)

/-- `SocketStatus` accepts, if there is a listener, and then looks at the connection. -/
theorem steps_networkStatus (n : UInt8) (w : HostNetwork K) :
    ReflTransGen Step w (socketStatus n w).2 :=
  steps_onSocket _ n fun _ hr => HostSocketInfo.steps_socketStatus hr

/-- `InitializeTcpListenerSocket` closes what the socket has and opens a listener. -/
theorem steps_initializeTcpListenerSocket (n : UInt8) (port : UInt16) (w : HostNetwork K) :
    ReflTransGen Step w (initializeTcpListenerSocket n port w).2 := by
  refine steps_onSocket _ n fun r hr => ?_
  obtain rfl := Option.some.inj hr
  exact .single (.initializeTcpListener port _ _)

/-- `AcceptConnection` on a socket that has a port if it has a listener, as the status read
before it makes sure of. -/
theorem steps_acceptConnection {n : UInt8} {w : HostNetwork K}
    (hport : haveFd (w.sockets n).listenerSocketFd = true → (w.sockets n).tcpPort ≠ 0) :
    ReflTransGen Step w (acceptConnection n w).2 := by
  refine steps_onSocket _ n fun r hr => ?_
  obtain rfl := Option.some.inj hr
  exact .single (.acceptConnection _ _ hport)

/-- `DisconnectSocket` is a step of its socket. -/
theorem steps_disconnectSocket (n : UInt8) (w : HostNetwork K) :
    ReflTransGen Step w (disconnectSocket n w).2 := by
  refine steps_onSocket _ n fun r hr => ?_
  obtain rfl := Option.some.inj hr
  exact .single (.disconnectConnectionSocket _ _)

/-- `CloseSocket` closes the connection, and then the listener. -/
theorem steps_closeSocket (n : UInt8) (w : HostNetwork K) :
    ReflTransGen Step w (closeSocket n w).2 := by
  refine .head (.marked w.aborted (Function.update w.closes n (w.closes n + 1))) ?_
  refine steps_onSocket _ n fun r hr => ?_
  obtain rfl := Option.some.inj hr
  exact (ReflTransGen.single (.closeConnectionSocket _ _)).tail (.closeListenerSocket _ _)

/-- `Send` is a step of its socket. -/
theorem steps_send (n : UInt8) (buf : Ptr) (len : ℕ) (w : HostNetwork K) :
    ReflTransGen Step w (send n buf len w).2 := by
  refine steps_onSocket _ n fun r hr => ?_
  obtain rfl := Option.some.inj hr
  exact .single (.send buf len _ _)

end Calls

/-- **Every method of `EthernetClient`** is made of steps of its socket and of McuCore. -/
theorem steps_ethernetClient (n : UInt8) :
    (ethernetClient (K := K) n).Moves (ReflTransGen Step) where
  write buf _ := steps_send n buf _
  getWriteError w := .single (.core (.getWriteError w.kernel))
  available := steps_recvInternal _ n 1000 true _
  read := steps_recv n 1
  readBuf size := steps_recv n size
  peek := steps_recvInternal _ n 1 false _
  connected := steps_socketIsInTcpConnectionLifecycle n

end HostNetwork

/-! ### Server sockets and Ethernet servers -/

namespace EthernetHost

open HostNetwork

variable {K : Type*} [Posix K] [McuCore K]

/-- **Every call of the platform.** -/
theorem platformMoves_steps :
    PlatformMoves fun v w : EthernetHost K => ReflTransGen Step v.network w.network where
  refl _ := .refl
  trans h h' := h.trans h'
  findUnusedSocket w := steps_findUnusedSocketIn _ w.network
  socketIsTcpListener n w := steps_look _ n HostSocketInfo.isTcpListener w.network
  socketIsInTcpConnectionLifecycle n w := steps_socketIsInTcpConnectionLifecycle n w.network
  socketStatus n w := steps_networkStatus n w.network
  initializeTcpListenerSocket n port w := steps_initializeTcpListenerSocket n port w.network
  disconnectSocket n w := steps_disconnectSocket n w.network
  closeSocket n w := steps_closeSocket n w.network
  ethernetClient n :=
    have h := steps_ethernetClient (K := K) n
    { write := fun buf size w => h.write buf size w.network
      getWriteError := fun w => h.getWriteError w.network
      available := fun w => h.available w.network
      read := fun w => h.read w.network
      readBuf := fun size w => h.readBuf size w.network
      peek := fun w => h.peek w.network
      connected := fun w => h.connected w.network }
  millis w := .single (.core (.millis w.network.kernel))
  elapsedMillis t w := .single (.core (.elapsedMillis t w.network.kernel))

end EthernetHost

namespace EthernetServer

open HostNetwork Program

variable {K : Type*} [Posix K]

/-- **A call of an Ethernet server.** -/
theorem steps_run [McuCore K] (op : ServerOp) (w : EthernetHost K)
    (hport : ∀ n, op = .acceptConnection n → w.HasPort n) :
    ReflTransGen Step w.network (op.run w).2.network := by
  cases op with
  | findUnusedSocket => exact steps_findUnusedSocketIn _ w.network
  | listen n port =>
    have hset := steps_initializeTcpListenerSocket n port w.network
    simp only [ServerOp.run]
    split_ifs
    · exact hset
    · exact hset
  | serverPort n => exact .refl
  | status n => exact steps_networkStatus n w.network
  | acceptConnection n => exact steps_acceptConnection (hport n rfl)
  | available n => exact steps_recvInternal _ n 1000 true _ w.network
  | stop n => exact steps_closeSocket n w.network

/-- The surroundings of a server that is to accept only from a socket that has its port. -/
def ready : Surroundings ServerOp ℤ (EthernetHost K) where
  handle := ServerOp.handle
  outside w w' := ∃ k, w' = { w with network := { w.network with kernel := k } }
  refl w := ⟨w.network.kernel, rfl⟩
  trans := by
    rintro w _ _ ⟨k, rfl⟩ ⟨k', rfl⟩
    exact ⟨k', rfl⟩
  may _ _ := True
  promised op w := ∀ n, op = .acceptConnection n → w.HasPort n

/-- The program accepts only from sockets that have their ports. -/
def Ready {α : Type*} (p : Program ServerOp ℤ α) (w : EthernetHost K) : Prop :=
  p.Safe ready (fun _ _ => True) w

variable {α : Type*} {port : UInt16} {w : EthernetHost K}

/-- A program that is done accepts nothing. -/
theorem ready_done (a : α) : Ready (.done a : Program ServerOp ℤ α) w := fun _ _ => trivial

/-- Another call than to accept. -/
theorem ready_call {op : ServerOp} {next : ℤ → Program ServerOp ℤ α}
    (hop : ∀ n, op ≠ .acceptConnection n)
    (hnext : ∀ (t : EthernetHost K) r, op.handle t = some r → Ready (next r.1) r.2) :
    Ready (.call op next) w := by
  refine Safe.of_call (P := fun _ => True) (fun _ _ _ _ => trivial) trivial ?_ ?_
  · exact fun t _ n hn => absurd hn (hop n)
  · exact fun t r _ _ hr => hnext t r hr

/-- `begin` looks for an unused socket and sets it to listen. -/
theorem ready_begin : Ready (begin port) w := by
  refine ready_call nofun fun _ r _ => ?_
  split_ifs
  · exact ready_call nofun fun _ _ _ => ready_done _
  · exact ready_done _

/-- **The loop of `accept`** accepts from a socket whose status it has just read. -/
theorem ready_acceptIn {l : List UInt8} (hl : ∀ n ∈ l, n < kMaxSockets) (listening : Bool) :
    Ready (acceptIn port l listening) w := by
  induction l generalizing listening w with
  | nil => exact ready_done _
  | cons n rest ih =>
    have hrest : ∀ (b : Bool) (t : EthernetHost K), Ready (acceptIn port rest b) t :=
      fun b t => ih (fun m hm => hl m (List.mem_cons_of_mem _ hm)) b
    refine ready_call nofun fun _ r _ => ?_
    split_ifs
    · refine ready_call nofun fun _ r hr => ?_
      have hport : r.2.HasPort n := (ServerOp.status_spec (hl n List.mem_cons_self) hr).2
      split_ifs
      · refine Safe.of_call (P := fun w => w.HasPort n) ?_ hport ?_ ?_
        · rintro t _ ht ⟨k, rfl⟩
          exact ht
        · rintro t ht m hm
          exact ServerOp.acceptConnection.inj hm ▸ ht
        · exact fun _ q _ _ _ => hrest true q.2
      · refine ready_call nofun fun _ q _ => ?_
        split_ifs
        · exact ready_call nofun fun _ p _ => hrest listening p.2
        · exact hrest listening q.2
      · exact hrest listening r.2
    · exact hrest listening r.2

/-- The loop of `available` reads statuses and counts bytes. -/
theorem ready_availableIn (l : List UInt8) : Ready (availableIn port l) w := by
  induction l generalizing w with
  | nil => exact ready_done _
  | cons n rest ih =>
    have hserve : ∀ t : EthernetHost K, Ready (.call (.available n) fun available : ℤ =>
        if available = 0 then availableIn port rest else .done n) t := fun t => by
      refine ready_call nofun fun _ r _ => ?_
      split_ifs
      · exact ih
      · exact ready_done _
    refine ready_call nofun fun _ r _ => ?_
    split_ifs
    · refine ready_call nofun fun _ r _ => ?_
      split_ifs
      · exact hserve r.2
      · refine ready_call nofun fun _ q _ => ?_
        split_ifs
        · exact hserve q.2
        · exact ih
    · exact ih

/-- `accept` is its loop, and the `begin` that may follow. -/
theorem ready_accept : Ready (accept port) w := by
  refine Safe.bind (ready_acceptIn lt_of_mem_sockNums false) fun listening _ _ => ?_
  split_ifs
  · exact ready_done ()
  · exact ready_begin

/-- `available` calls `accept` first. -/
theorem ready_available : Ready (available port) w :=
  Safe.bind ready_accept fun _ _ _ => ready_availableIn sockNums

end EthernetServer

/-! ### All users of the network -/

namespace Sharing

open HostNetwork EthernetServer

variable {ι K L : Type*} [Posix K]

/-- The function under way accepts only from sockets that have their ports. -/
def Ready (x : Sharing ι K L) : Prop :=
  ∀ t, x.task = some t → EthernetServer.Ready t.program x.fleet.net

variable {x : Sharing ι K L}

/-- When no function is under way there is nothing to be accepted. -/
theorem ready_of_idle (h : x.task = none) : x.Ready := fun _ ht => absurd (h.symm.trans ht) nofun

/-- What happens outside does not change the ports of the sockets. -/
theorem Ready.outside {k : K} (h : x.Ready) :
    Ready (x.withNet { x.fleet.net with network := { x.fleet.net.network with kernel := k } }) :=
  fun t ht => (h t ht).outside ⟨k, rfl⟩

variable [McuCore K] [DecidableEq ι] [ServerSocketListener L]

/-- **A step of any user** is made of steps of single sockets. -/
theorem steps_exec {op : SharedOp ι} (h : x.Ready) {r : Unit × Sharing ι K L}
    (hr : exec op x = some r) :
    r.2.Ready ∧ (x.fleet.net.network.aborted = false → r.2.fleet.net.network.aborted = false) ∧
      ReflTransGen Step x.fleet.net.network r.2.fleet.net.network := by
  unfold Sharing.exec at hr
  split at hr
  · split_ifs at hr
    obtain rfl := Option.some.inj hr
    refine ⟨fun t ht => ?_, id, .refl⟩
    obtain rfl := Option.some.inj ht
    exact ready_begin.bind fun _ _ _ => ready_done none
  · split_ifs at hr
    obtain rfl := Option.some.inj hr
    refine ⟨fun t ht => ?_, id, .refl⟩
    obtain rfl := Option.some.inj ht
    exact ready_available.bind fun n _ _ => ready_done (some n)
  · -- the next call of an Ethernet server
    rename_i port op next htask
    obtain ⟨q, hq, rfl⟩ := Option.map_eq_some_iff.1 hr
    have hready := h _ htask
    obtain ⟨rfl, hlive⟩ := ServerOp.run_of_handle hq
    refine ⟨fun t ht => ?_, fun _ => hlive, steps_run op _ hready.promise⟩
    obtain rfl := Option.some.inj ht
    exact hready.step trivial hq
  · obtain rfl := Option.some.inj hr
    exact ⟨ready_of_idle rfl, id, .refl⟩
  · rename_i n hidle
    obtain ⟨q, hq, rfl⟩ := Option.map_eq_some_iff.1 hr
    obtain ⟨rfl, hlive⟩ := ServerOp.run_of_handle hq
    exact ⟨ready_of_idle hidle, fun _ => hlive, steps_run (.stop n) _ nofun⟩
  · rename_i i c hidle
    dsimp only at hr
    split_ifs at hr with hlive
    obtain rfl := Option.some.inj hr
    refine ⟨ready_of_idle hidle, fun _ => Bool.eq_false_of_not_eq_true hlive, ?_⟩
    exact ServerSocket.run_moves EthernetHost.platformMoves_steps (x.fleet.server i) c
  · exact absurd hr nofun

end Sharing
end McuNet
