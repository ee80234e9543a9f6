/-
# The network of the host, with the table of its Ethernet servers

`extras/host/ethernet5500/ethernet_class.h` (`EthernetClass::_server_port`) and
`extras/host/ethernet5500/host_network.cpp`.

`_server_port` is a global table with the port that an `EthernetServer` has set each
hardware socket to listen for.  The other users of a `HostNetwork` do not know of it.
`acceptedOn` is a ghost: the port of the listener from which the last connection of
each socket was accepted.

`Bound` is what a table entry should mean.  Calls that set no socket to listen keep it
(`quietMoves_bound`), and so does setting a socket to listen for the port that the table
has for it, if it has one (`keepsBound_listen`).
-/

import McuNet.Host.Links
import McuNet.Host.SocketOps
import McuNet.Server.Moves

namespace McuNet

namespace HostSocketInfo

/-! ### The port of a connection -/

/-- What a call does that sets no socket to listen: a connection that there is
afterwards was there before, or was accepted by a listener with a port. -/
structure PortStep (s t : HostSocketInfo) : Prop where
  tcpPort : t.tcpPort = 0 ∨ t.tcpPort = s.tcpPort
  connection : haveFd t.connectionSocketFd = true →
    (t.accepted = s.accepted ∧ haveFd s.connectionSocketFd = true ∧
      t.canWriteToConnection = s.canWriteToConnection) ∨
    (t.accepted ≠ s.accepted ∧ s.tcpPort ≠ 0 ∧ t.canWriteToConnection = true)

theorem PortStep.refl (s : HostSocketInfo) : PortStep s s where
  tcpPort := .inr rfl
  connection hc := .inl ⟨rfl, hc, rfl⟩

/-- A call that only marks the connection. -/
theorem PortStep.marked {s t u : HostSocketInfo} (h : PortStep s t) (hport : u.tcpPort = t.tcpPort)
    (hfd : u.connectionSocketFd = t.connectionSocketFd) (hserial : u.accepted = t.accepted)
    (hwrite : u.canWriteToConnection = t.canWriteToConnection) : PortStep s u where
  tcpPort := hport.symm ▸ h.tcpPort
  connection hc := by
    rw [hserial, hwrite]
    exact h.connection (hfd ▸ hc)

/-- A call after which there is no connection. -/
theorem PortStep.closed {s t : HostSocketInfo} (hport : t.tcpPort = 0 ∨ t.tcpPort = s.tcpPort)
    (hc : haveFd t.connectionSocketFd = false) : PortStep s t where
  tcpPort := hport
  connection hopen := absurd (hc.symm.trans hopen) Bool.false_ne_true

variable {K : Type*} [Posix K] {s : HostSocketInfo} {k : K}

/-- Accepting from a listener that has its port. -/
theorem portStep_acceptConnection
    (hport : haveFd s.listenerSocketFd = true → s.tcpPort ≠ 0) :
    PortStep s (s.acceptConnection k).2.1 := by
  generalize hr : s.acceptConnection k = r
  cases hr ▸ s.acceptConnection_cases k with
  | noListener _ => exact .refl s
  | nothing _ hno => exact .closed (.inr rfl) hno
  | accepted hl _ =>
    constructor
    · exact .inl rfl
    · exact fun _ => .inr ⟨Nat.succ_ne_self _, hport hl, rfl⟩

/-- `IsConnectionHalfClosed` may set a flag. -/
theorem portStep_isConnectionHalfClosed {t : HostSocketInfo} (h : PortStep s t)
    {r : Bool × HostSocketInfo × K} (hr : t.isConnectionHalfClosed k = some r) :
    PortStep s r.2.1 := by
  cases isConnectionHalfClosed_returns hr with
  | notOpen _ => exact h
  | known _ _ => exact h
  | byte _ _ => exact h
  | ended _ _ => exact h.marked rfl rfl rfl rfl

/-- A status read returns only for a listener that has its port. -/
theorem listener_of_socketStatus {r : UInt8 × HostSocketInfo × K}
    (hr : s.socketStatus k = some r) (hl : haveFd s.listenerSocketFd = true) : s.tcpPort ≠ 0 := by
  rw [socketStatus, isUnused, if_pos hl] at hr
  intro h0
  have hno : ¬(0 < s.tcpPort ∧ 0 < s.mappedTcpPort ∧ haveFd s.connectionSocketFd = false) := by
    rintro ⟨hpos, -, -⟩
    exact UInt16.pos_iff_ne_zero.1 hpos h0
  rw [if_neg hno] at hr
  cases hr

/-- **A status read** may accept a connection, for the port that the socket listens on. -/
theorem portStep_socketStatus {r : UInt8 × HostSocketInfo × K}
    (hr : s.socketStatus k = some r) : PortStep s r.2.1 := by
  have haccept : PortStep s (s.acceptConnection k).2.1 :=
    portStep_acceptConnection (listener_of_socketStatus hr)
  rcases socketStatus_cases hr with ⟨-, heq, -⟩ | hconn
  · exact heq ▸ haccept
  · unfold connectionStatus at hconn
    split_ifs at hconn
    · obtain ⟨half, hhalf, rfl⟩ := Option.map_eq_some_iff.1 hconn
      exact portStep_isConnectionHalfClosed haccept hhalf
    · exact Option.some.inj hconn ▸ haccept

/-- **A status read that returns**: an open status is that of a connection, and a listener
that is left has its port. -/
theorem socketStatus_open {r : UInt8 × HostSocketInfo × K} (hr : s.socketStatus k = some r) :
    (r.1 = kStatusEstablished ∨ r.1 = kStatusCloseWait →
      haveFd r.2.1.connectionSocketFd = true) ∧
    (haveFd r.2.1.listenerSocketFd = true → r.2.1.tcpPort ≠ 0) := by
  have hport := listener_of_socketStatus hr
  have haccept : haveFd (s.acceptConnection k).2.1.listenerSocketFd = true →
      (s.acceptConnection k).2.1.tcpPort ≠ 0 := by
    generalize ha : s.acceptConnection k = a
    cases ha ▸ s.acceptConnection_cases k with
    | noListener _ => exact hport
    | nothing _ _ => exact hport
    | accepted _ _ => exact fun hl => absurd hl Bool.false_ne_true
  rcases socketStatus_cases hr with ⟨-, heq, hstatus⟩ | hconn
  · constructor
    · rintro (hopen | hopen)
      · rcases hstatus with h | h
        · exact absurd (hopen.symm.trans h) (by decide)
        · exact absurd (hopen.symm.trans h) (by decide)
      · rcases hstatus with h | h
        · exact absurd (hopen.symm.trans h) (by decide)
        · exact absurd (hopen.symm.trans h) (by decide)
    · exact heq ▸ haccept
  · unfold connectionStatus isConnected at hconn
    split_ifs at hconn with hc
    · obtain ⟨half, hhalf, rfl⟩ := Option.map_eq_some_iff.1 hconn
      cases isConnectionHalfClosed_returns hhalf with
      | notOpen _ => exact ⟨fun _ => hc, haccept⟩
      | known _ _ => exact ⟨fun _ => hc, haccept⟩
      | byte _ _ => exact ⟨fun _ => hc, haccept⟩
      | ended _ _ => exact ⟨fun _ => hc, haccept⟩
    · obtain rfl := Option.some.inj hconn
      exact ⟨fun hopen => absurd hopen (by simp [kStatusClosed, kStatusEstablished,
        kStatusCloseWait]), haccept⟩

/-- `RecvInternal` may close a connection that is broken. -/
theorem portStep_recvInternal {len : ℕ} {peek : Bool} {r : (ℤ × List UInt8) × HostSocketInfo × K}
    (hr : s.recvInternal len peek k = some r) : PortStep s r.2.1 := by
  have hsame := PortStep.refl s
  cases recvInternal_cases hr with
  | skipped _ => exact hsame
  | ended _ _ => exact hsame.marked rfl rfl rfl rfl
  | got _ _ => exact hsame
  | blocked _ _ _ => exact hsame
  | lost _ _ _ => exact .closed (.inr rfl) rfl

end HostSocketInfo

/-- The network of the host, and `EthernetClass::_server_port`. -/
structure EthernetHost (K : Type*) where
  network : HostNetwork K
  serverPort : UInt8 → UInt16 := fun _ => 0
  acceptedOn : UInt8 → UInt16 := fun _ => 0

namespace EthernetHost

variable {K : Type*}

/-- A call of the network.  The table is not touched; the ghost is told of a connection
that was accepted. -/
def through {α : Type*} (f : HostNetwork K → α × HostNetwork K) (w : EthernetHost K) :
    α × EthernetHost K :=
  let r := f w.network
  (r.1, { w with
    network := r.2
    acceptedOn := fun n =>
      if (r.2.sockets n).accepted = (w.network.sockets n).accepted then w.acceptedOn n
      else (w.network.sockets n).tcpPort })

variable [Posix K] [McuCore K]

instance : Platform (EthernetHost K) where
  findUnusedSocket := through HostNetwork.findUnusedSocket
  socketIsTcpListener n := through (HostNetwork.socketIsTcpListener n)
  socketIsInTcpConnectionLifecycle n := through (HostNetwork.socketIsInTcpConnectionLifecycle n)
  socketStatus n := through (HostNetwork.socketStatus n)
  initializeTcpListenerSocket n port := through (HostNetwork.initializeTcpListenerSocket n port)
  disconnectSocket n := through (HostNetwork.disconnectSocket n)
  closeSocket n := through (HostNetwork.closeSocket n)
  ethernetClient n :=
    { write := fun buf size => through ((HostNetwork.ethernetClient n).write buf size)
      getWriteError := through (HostNetwork.ethernetClient n).getWriteError
      available := through (HostNetwork.ethernetClient n).available
      read := through (HostNetwork.ethernetClient n).read
      readBuf := fun size => through ((HostNetwork.ethernetClient n).readBuf size)
      peek := through (HostNetwork.ethernetClient n).peek
      connected := through (HostNetwork.ethernetClient n).connected }
  millis := through (HostNetwork.onKernel McuCore.millis)
  elapsedMillis t := through (HostNetwork.onKernel (McuCore.elapsedMillis t))

/-! ### What a table entry means -/

/-- A socket with the port that the table has for it: it listens for no other port, and
its connection was accepted on that port. -/
structure SocketBound (port acceptedOn : UInt16) (s : HostSocketInfo) : Prop where
  listening : port ≠ 0 → s.tcpPort = 0 ∨ s.tcpPort = port
  connected : port ≠ 0 → haveFd s.connectionSocketFd = true → acceptedOn = port
  writable : haveFd s.connectionSocketFd = true → s.canWriteToConnection = true

omit [Posix K] [McuCore K] in
/-- A socket stays bound to its port, and its connection was accepted on it. -/
theorem SocketBound.step {port acceptedOn : UInt16} {s t : HostSocketInfo}
    (h : SocketBound port acceptedOn s) (hst : s.PortStep t) :
    SocketBound port (if t.accepted = s.accepted then acceptedOn else s.tcpPort) t := by
  constructor
  · intro hport
    rcases hst.tcpPort with h0 | hsame
    · exact .inl h0
    · exact hsame.symm ▸ h.listening hport
  · intro hport hc
    rcases hst.connection hc with ⟨hserial, hs, -⟩ | ⟨hserial, hlisten, -⟩
    · rw [if_pos hserial]
      exact h.connected hport hs
    · rw [if_neg hserial]
      exact (h.listening hport).resolve_left hlisten
  · intro hc
    rcases hst.connection hc with ⟨-, hs, hwrite⟩ | ⟨-, -, hwrite⟩
    · exact hwrite.trans (h.writable hs)
    · exact hwrite

/-- Every entry of the table means what it should. -/
def Bound (w : EthernetHost K) : Prop :=
  ∀ n, SocketBound (w.serverPort n) (w.acceptedOn n) (w.network.sockets n)

/-- What a call does that sets no socket to listen. -/
def KeepsBound (w w' : EthernetHost K) : Prop :=
  w'.serverPort = w.serverPort ∧ (w.Bound → w'.Bound)

omit [Posix K] [McuCore K] in
/-- A call that is a step of every socket keeps them bound. -/
theorem keepsBound_through {α : Type*} {f : HostNetwork K → α × HostNetwork K}
    {w : EthernetHost K} (h : ∀ n, (w.network.sockets n).PortStep ((f w.network).2.sockets n)) :
    KeepsBound w (through f w).2 :=
  ⟨rfl, fun hw n => (hw n).step (h n)⟩

omit [Posix K] [McuCore K] in
/-- A call that is passed on to a socket changes no other. -/
theorem portStep_onSocket {α : Type*} (default : α) (m : UInt8)
    {f : HostSocketInfo → K → Option (α × HostSocketInfo × K)} (w : HostNetwork K)
    (hf : ∀ r, f (w.sockets m) w.kernel = some r → (w.sockets m).PortStep r.2.1) (n : UInt8) :
    (w.sockets n).PortStep ((HostNetwork.onSocket default m f w).2.sockets n) := by
  generalize hr : HostNetwork.onSocket default m f w = r
  cases hr ▸ HostNetwork.onSocket_passed default m f w with
  | skipped _ => exact .refl _
  | ended => exact .refl _
  | done _ _ result =>
    by_cases hn : n = m
    · subst hn
      have hself := hf _ result
      simpa only [Function.update_self] using hself
    · simp only [Function.update_of_ne hn]
      exact .refl _

omit [Posix K] [McuCore K] in
/-- The search for an unused socket changes none. -/
theorem findUnusedSocketIn_sockets (l : List UInt8) (w : HostNetwork K) :
    (HostNetwork.findUnusedSocketIn l w).2.sockets = w.sockets := by
  induction l generalizing w with
  | nil => rfl
  | cons n rest ih =>
    have hread : ∀ v : HostNetwork K,
        (HostNetwork.onSocket false n (fun s k => s.isUnused.map (·, s, k)) v).2.sockets =
          v.sockets := by
      intro v
      generalize hr : HostNetwork.onSocket false n (fun s k => s.isUnused.map (·, s, k)) v = r
      cases hr ▸ HostNetwork.onSocket_passed false n _ v with
      | skipped _ => rfl
      | ended => rfl
      | done _ _ result =>
        obtain ⟨b, -, rfl⟩ := Option.map_eq_some_iff.1 result
        exact Function.update_eq_self _ _
    simp only [HostNetwork.findUnusedSocketIn]
    split_ifs
    · exact hread w
    · exact (ih _).trans (hread w)

/-- A relation that every call respects that changes the sockets as `PortStep` says. -/
structure PortMoves (R : EthernetHost K → EthernetHost K → Prop) : Prop where
  refl : ∀ w, R w w
  trans : ∀ {u v w}, R u v → R v w → R u w
  through : ∀ {α : Type} {f : HostNetwork K → α × HostNetwork K} {w : EthernetHost K},
    (∀ n, (w.network.sockets n).PortStep ((f w.network).2.sockets n)) → R w (through f w).2

/-- **Every call but `InitializeTcpListenerSocket`** changes the sockets so. -/
theorem PortMoves.quietMoves {R : EthernetHost K → EthernetHost K → Prop} (hR : PortMoves R) :
    QuietMoves R where
  refl := hR.refl
  trans := hR.trans
  findUnusedSocket w := hR.through fun n => by
    rw [HostNetwork.findUnusedSocket, findUnusedSocketIn_sockets]
    exact .refl _
  socketIsTcpListener m w := hR.through (portStep_onSocket _ m _ fun r hr => by
    obtain ⟨port, -, rfl⟩ := Option.map_eq_some_iff.1 hr
    exact .refl _)
  socketIsInTcpConnectionLifecycle m w :=
    hR.through (portStep_onSocket _ m _ fun r hr => Option.some.inj hr ▸ .refl _)
  socketStatus m w := hR.through (portStep_onSocket _ m _ fun r hr =>
    HostSocketInfo.portStep_socketStatus hr)
  disconnectSocket m w := hR.through (portStep_onSocket _ m _ fun r hr => by
    obtain rfl := Option.some.inj hr
    unfold HostSocketInfo.disconnectConnectionSocket
    split_ifs
    · exact (HostSocketInfo.PortStep.refl _).marked rfl rfl rfl rfl
    · exact .refl _)
  closeSocket m w := hR.through fun n => by
    let v : HostNetwork K := { w.network with
      closes := Function.update w.network.closes m (w.network.closes m + 1) }
    refine portStep_onSocket (K := K) false m v (fun r hr => ?_) n
    obtain rfl := Option.some.inj hr
    exact .closed (.inl rfl) rfl
  ethernetClient m :=
    have hrecv : ∀ {len : ℕ} {peek : Bool} {s : HostSocketInfo} {k : K}
        {r : (ℤ × List UInt8) × HostSocketInfo × K},
        s.recvInternal len peek k = some r → s.PortStep r.2.1 :=
      HostSocketInfo.portStep_recvInternal
    { write := fun buf size w => hR.through (portStep_onSocket _ m _ fun r hr =>
        Option.some.inj hr ▸ .refl _)
      getWriteError := fun w => hR.through fun n => .refl _
      available := fun w => hR.through (portStep_onSocket _ m _ fun r hr => by
        obtain ⟨q, hq, rfl⟩ := Option.map_eq_some_iff.1 hr
        exact hrecv hq)
      read := fun w => hR.through (portStep_onSocket _ m _ fun r hr => hrecv hr)
      readBuf := fun size w => hR.through (portStep_onSocket _ m _ fun r hr => hrecv hr)
      peek := fun w => hR.through (portStep_onSocket _ m _ fun r hr => by
        obtain ⟨q, hq, rfl⟩ := Option.map_eq_some_iff.1 hr
        exact hrecv hq)
      connected := fun w => hR.through (portStep_onSocket _ m _ fun r hr =>
        Option.some.inj hr ▸ .refl _) }
  millis w := hR.through fun n => .refl _
  elapsedMillis t w := hR.through fun n => .refl _

omit [Posix K] [McuCore K] in
/-- **Every call but one keeps the sockets bound.** -/
theorem portMoves_bound : PortMoves (KeepsBound (K := K)) where
  refl _ := ⟨rfl, id⟩
  trans h h' := ⟨h'.1.trans h.1, h'.2 ∘ h.2⟩
  through := keepsBound_through

/-- **Every call but `InitializeTcpListenerSocket` keeps the table right.** -/
theorem quietMoves_bound : QuietMoves (KeepsBound (K := K)) := portMoves_bound.quietMoves

/-! ### Setting a socket to listen -/

omit [McuCore K] in
/-- The socket itself, with the port of its table entry. -/
theorem SocketBound.initialized {entry acceptedOn : UInt16} {s : HostSocketInfo}
    (h : SocketBound entry acceptedOn s) {portMap : List (UInt16 × UInt16)} {port : UInt16} {k : K}
    (ghost : UInt16) :
    let r := s.initializeTcpListener portMap port k
    (r.1 = true → SocketBound port ghost r.2.1) ∧
      (r.1 = false ∨ entry = 0 ∨ entry = port → SocketBound entry ghost r.2.1) := by
  intro r
  have hc := (HostSocketInfo.initializeTcpListener_connection portMap port s k).1
  have hclosed : ¬haveFd r.2.1.connectionSocketFd = true :=
    fun hopen => Bool.false_ne_true (hc.symm.trans hopen)
  obtain ⟨hyes, hno⟩ := HostSocketInfo.initializeTcpListener_ports portMap port s k
  have hbound : ∀ q, (q ≠ 0 → r.2.1.tcpPort = 0 ∨ r.2.1.tcpPort = q) → SocketBound q ghost r.2.1 :=
    fun q hq => ⟨hq, fun _ hopen => absurd hopen hclosed, fun hopen => absurd hopen hclosed⟩
  cases hr : r.1 with
  | true =>
    refine ⟨fun _ => hbound port fun _ => .inr (hyes hr), ?_⟩
    rintro (hfails | h0 | rfl)
    · exact absurd hfails.symm Bool.false_ne_true
    · exact hbound entry fun hne => absurd h0 hne
    · exact hbound entry fun _ => .inr (hyes hr)
  | false =>
    refine ⟨fun h => absurd h Bool.false_ne_true, fun _ => hbound entry fun hne => ?_⟩
    rcases hno hr with ⟨hsame, -⟩ | h0
    · exact hsame.symm ▸ h.listening hne
    · exact .inl h0

omit [McuCore K] in
/-- **Setting a socket to listen**, with `entry` for it in the table afterwards. -/
theorem Bound.listen {w : EthernetHost K} (h : w.Bound) {m : UInt8} {port entry : UInt16}
    {r : Bool × EthernetHost K}
    (hr : through (HostNetwork.initializeTcpListenerSocket m port) w = r)
    (hentry : (r.1 = true ∧ entry = port) ∨
      (entry = w.serverPort m ∧ (r.1 = false ∨ entry = 0 ∨ entry = port))) :
    Bound { r.2 with serverPort := Function.update w.serverPort m entry } := by
  subst hr
  unfold through HostNetwork.initializeTcpListenerSocket at hentry ⊢
  dsimp only at hentry ⊢
  have hpassed := HostNetwork.onSocket_passed false m (fun s k =>
    some (HostSocketInfo.initializeTcpListener w.network.tcpServerPortMap port s k)) w.network
  generalize HostNetwork.onSocket false m _ w.network = r at hpassed hentry
  intro n
  cases hpassed with
  | skipped _ =>
    obtain ⟨htrue, -⟩ | ⟨rfl, -⟩ := hentry
    · exact absurd htrue Bool.false_ne_true
    · simp only [Function.update_eq_self, if_true]
      exact h n
  | ended =>
    obtain ⟨htrue, -⟩ | ⟨rfl, -⟩ := hentry
    · exact absurd htrue Bool.false_ne_true
    · simp only [Function.update_eq_self, if_true]
      exact h n
  | done _ _ result =>
    obtain rfl := Option.some.inj result
    by_cases hn : n = m
    · subst hn
      have hset := fun ghost => @SocketBound.initialized K _ _ _ _ (h n)
        w.network.tcpServerPortMap port w.network.kernel ghost
      simp only [Function.update_self]
      rcases hentry with ⟨htrue, rfl⟩ | ⟨rfl, hother⟩
      · exact (hset _).1 htrue
      · exact (hset _).2 hother
    · simp only [Function.update_of_ne hn, if_true]
      exact h n

omit [McuCore K] in
/-- A listener for the port that the table has for the socket, or for a socket that the
table does not have; or the socket could not be set to listen. -/
theorem keepsBound_listen {w : EthernetHost K} {m : UInt8} {port : UInt16}
    (h : (through (HostNetwork.initializeTcpListenerSocket m port) w).1 = true →
      w.serverPort m = 0 ∨ w.serverPort m = port) :
    KeepsBound w (through (HostNetwork.initializeTcpListenerSocket m port) w).2 := by
  refine ⟨rfl, fun hw => ?_⟩
  have hentry : (through (HostNetwork.initializeTcpListenerSocket m port) w).1 = false ∨
      w.serverPort m = 0 ∨ w.serverPort m = port := by
    by_cases hset : (through (HostNetwork.initializeTcpListenerSocket m port) w).1 = true
    · exact .inr (h hset)
    · exact .inl (Bool.eq_false_of_not_eq_true hset)
  have hlisten := hw.listen rfl (.inr ⟨rfl, hentry⟩)
  rw [Function.update_eq_self] at hlisten
  exact hlisten

end EthernetHost
end McuNet
