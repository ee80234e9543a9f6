/-
# Who uses a hardware socket of the host

`extras/host/ethernet5500/host_network.cpp`, `extras/host/ethernet5500/ethernet_server.cpp`
and `src/server_socket.cpp`.

A hardware socket does not know whom it belongs to.  A server socket has the number of its
own in `sock_num_`; an Ethernet server looks for its port in the table `_server_port`.  A
socket in use that is in neither would be lost to the program, and a second listener for a
port would take connections away from the first.

`Adds` says what a call may add to the sockets in use.  Only setting a socket to listen adds
any, and a server socket keeps the number of the one that it added (`ServerSocket.adds_run`);
an Ethernet server adds one only when it has found none of its own that listens
(`EthernetServer.placed_accept`).  So in every run nothing is lost, and nothing listens twice
(`Sharing.sockets_known`).
-/

import McuNet.Host.SocketSteps

namespace McuNet

namespace HostSocketInfo

variable {K : Type*} [Posix K] {s : HostSocketInfo} {k : K}

/-- A status read that does not say so leaves no listener. -/
theorem tcpPort_of_socketStatus {r : UInt8 × HostSocketInfo × K} (hr : s.socketStatus k = some r)
    (hstatus : r.1 ≠ kStatusListening) : r.2.1.tcpPort = 0 := by
  have hprobe : ∀ {t : HostSocketInfo} {l : K}, t.tcpPort = 0 → t.connectionStatus l = some r →
      r.2.1.tcpPort = 0 := by
    intro t l ht hconn
    unfold connectionStatus at hconn
    split_ifs at hconn
    · obtain ⟨half, hhalf, rfl⟩ := Option.map_eq_some_iff.1 hconn
      rcases (portStep_isConnectionHalfClosed (.refl t) hhalf).tcpPort with h | h
      · exact h
      · exact h.trans ht
    · exact Option.some.inj hconn ▸ ht
  rw [HostSocketInfo.socketStatus] at hr
  split at hr
  · cases hr
  · -- not in use
    rename_i hunused
    rw [isUnused] at hunused
    split_ifs at hunused with hl hports hzero
    · exact absurd (Option.some.inj hunused) Bool.false_ne_true
    · exact Option.some.inj hr ▸ hzero.1
  · cases hr
  · rename_i port _ hport
    dsimp only at hr
    split_ifs at hr with hne ha
    · -- the listener has accepted, and is closed
      refine hprobe ?_ hr
      generalize ha' : s.acceptConnection k = a at ha
      cases ha' ▸ s.acceptConnection_cases k with
      | noListener _ => exact absurd ha Bool.false_ne_true
      | nothing _ _ => exact absurd ha Bool.false_ne_true
      | accepted _ _ => rfl
    · exact absurd (Option.some.inj hr ▸ rfl) hstatus
    · refine hprobe ?_ hr
      rw [isTcpListener] at hport
      split_ifs at hport with hl hpos hzero
      · exact (Option.some.inj hport).trans (not_not.1 hne)
      · exact hzero

end HostSocketInfo

/-! ### Sockets in use -/

namespace EthernetHost

open HostSocketInfo

variable {K : Type*}

/-- The socket listens for the port. -/
def ListensFor (w : EthernetHost K) (port : UInt16) (n : UInt8) : Prop :=
  n < HostNetwork.kMaxSockets ∧ port ≠ 0 ∧ (w.socket n).1.tcpPort = port

/-- The sockets that listen for the port are among these. -/
def ListenersIn (w : EthernetHost K) (port : UInt16) (l : List UInt8) : Prop :=
  ∀ n, w.ListensFor port n → n ∈ l

/-- The socket listens, or has a connection. -/
def InUse (w : EthernetHost K) (n : UInt8) : Prop :=
  n < HostNetwork.kMaxSockets ∧ ((w.socket n).1.tcpPort ≠ 0 ∨ w.IsOpen n)

/-- **What a call adds to the sockets in use** is in `new`. -/
structure Adds (new : UInt16 → UInt8 → Prop) (v w : EthernetHost K) : Prop where
  serverPort : w.serverPort = v.serverPort
  listens : ∀ port n, w.ListensFor port n → v.ListensFor port n ∨ new port n
  inUse : ∀ n, w.InUse n → v.InUse n ∨ ∃ port, new port n

variable {new : UInt16 → UInt8 → Prop} {v w : EthernetHost K}

theorem Adds.mono {new' : UInt16 → UInt8 → Prop} (h : Adds new v w)
    (himp : ∀ port n, new port n → new' port n) : Adds new' v w where
  serverPort := h.serverPort
  listens port n hn := (h.listens port n hn).imp_right (himp port n)
  inUse n hn := (h.inUse n hn).imp_right (Exists.imp fun port => himp port n)

/-- A call that adds nothing. -/
theorem Adds.inUse_before (h : Adds (fun _ _ => False) v w) {n : UInt8} (hn : w.InUse n) :
    v.InUse n :=
  (h.inUse n hn).resolve_right fun hnew => hnew.choose_spec

theorem ListenersIn.adds {port : UInt16} {l : List UInt8} (h : v.ListenersIn port l)
    (hvw : Adds (fun _ _ => False) v w) : w.ListenersIn port l :=
  fun n hn => h n ((hvw.listens port n hn).resolve_right id)

/-- A socket that does not listen need not be looked at. -/
theorem ListenersIn.skip {port : UInt16} {n : UInt8} {l : List UInt8}
    (h : v.ListenersIn port (n :: l)) (hn : ¬v.ListensFor port n) : v.ListenersIn port l := by
  intro m hm
  rcases List.mem_cons.1 (h m hm) with rfl | hmem
  · exact absurd hm hn
  · exact hmem

/-- What a call does to the ports and the connections of the sockets. -/
theorem adds_through {α : Type} {f : HostNetwork K → α × HostNetwork K} {w : EthernetHost K}
    (h : ∀ n, let s := w.network.sockets n; let t := (f w.network).2.sockets n
      (t.tcpPort = 0 ∨ t.tcpPort = s.tcpPort ∨ new t.tcpPort n) ∧
        (haveFd t.connectionSocketFd = true → haveFd s.connectionSocketFd = true ∨ s.tcpPort ≠ 0)) :
    Adds new w (through f w).2 where
  serverPort := rfl
  listens := by
    rintro port n ⟨hn, h0, hport⟩
    rcases (h n).1 with hnone | hsame | hnew
    · exact absurd (hport.symm.trans hnone) h0
    · exact .inl ⟨hn, h0, hsame.symm.trans hport⟩
    · exact .inr (hport ▸ hnew)
  inUse := by
    rintro n ⟨hn, hlistens | hopen⟩
    · rcases (h n).1 with hnone | hsame | hnew
      · exact absurd hnone hlistens
      · exact .inl ⟨hn, .inl fun h0 => hlistens (hsame.trans h0)⟩
      · exact .inr ⟨_, hnew⟩
    · exact .inl ⟨hn, ((h n).2 hopen).symm⟩

/-- **Every call but `InitializeTcpListenerSocket` adds nothing.** -/
theorem portMoves_adds : PortMoves (Adds (K := K) new) where
  refl _ := ⟨rfl, fun _ _ h => .inl h, fun _ h => .inl h⟩
  trans := by
    intro u v w huv hvw
    refine ⟨hvw.serverPort.trans huv.serverPort, fun port n h => ?_, fun n h => ?_⟩
    · exact (hvw.listens port n h).elim (huv.listens port n) .inr
    · exact (hvw.inUse n h).elim (huv.inUse n) .inr
  through := by
    refine fun h => adds_through fun n => ⟨?_, fun hopen => ?_⟩
    · exact (h n).tcpPort.imp_right .inl
    · exact ((h n).connection hopen).imp (fun h => h.2.1) fun h => h.2.1

variable [Posix K]

/-- **Setting a socket to listen** adds it for the port, if it succeeds. -/
theorem adds_listen (n : UInt8) (port : UInt16) (w : EthernetHost K) :
    let r := through (HostNetwork.initializeTcpListenerSocket n port) w
    Adds (fun q m => r.1 = true ∧ q = port ∧ m = n) w r.2 := by
  intro r
  refine adds_through fun m => ?_
  have hpassed : HostNetwork.Passed false n _ w.network
      (HostNetwork.initializeTcpListenerSocket n port w.network) :=
    HostNetwork.onSocket_passed false n
      (fun s k => some (s.initializeTcpListener w.network.tcpServerPortMap port k)) w.network
  have hvalue : r.1 = (HostNetwork.initializeTcpListenerSocket n port w.network).1 := rfl
  rw [hvalue]
  generalize HostNetwork.initializeTcpListenerSocket n port w.network = q at hpassed
  cases hpassed with
  | skipped _ => exact ⟨.inr (.inl rfl), .inl⟩
  | ended => exact ⟨.inr (.inl rfl), .inl⟩
  | done _ _ result =>
    obtain rfl := Option.some.inj result
    by_cases hm : m = n
    · subst hm
      simp only [Function.update_self]
      let s := w.network.sockets m
      obtain ⟨hyes, hno⟩ :=
        initializeTcpListener_ports w.network.tcpServerPortMap port s w.network.kernel
      have hclosed :=
        (initializeTcpListener_connection w.network.tcpServerPortMap port s w.network.kernel).1
      refine ⟨?_, fun hopen => absurd (hclosed.symm.trans hopen) Bool.false_ne_true⟩
      cases hset : (s.initializeTcpListener w.network.tcpServerPortMap port w.network.kernel).1 with
      | true => exact .inr (.inr ⟨rfl, hyes hset, trivial⟩)
      | false =>
        rcases hno hset with ⟨hsame, -⟩ | hzero
        · exact .inr (.inl hsame)
        · exact .inl hzero
    · simp only [Function.update_of_ne hm]
      exact ⟨.inr (.inl trivial), .inl⟩

end EthernetHost

/-! ### Server sockets -/

namespace HostNetwork

variable {K : Type*} [Posix K] {w : HostNetwork K} {n : UInt8}

omit [Posix K] in
/-- The process has not ended before a call after which it goes on. -/
theorem live_of_onSocket {α : Type*} {default : α}
    {f : HostSocketInfo → K → Option (α × HostSocketInfo × K)}
    (live : (onSocket default n f w).2.aborted = false) : w.aborted = false := by
  generalize hr : onSocket default n f w = r at live
  cases hr ▸ onSocket_passed default n f w with
  | skipped _ => exact live
  | ended => exact absurd live nofun
  | done live _ _ => exact live

/-- **`CloseSocket`** leaves neither a listener nor a connection. -/
theorem closeSocket_destroys (hn : n < kMaxSockets) (live : (closeSocket n w).2.aborted = false) :
    ((closeSocket n w).2.sockets n).tcpPort = 0 ∧
      haveFd ((closeSocket n w).2.sockets n).connectionSocketFd = false := by
  let v : HostNetwork K := { w with closes := Function.update w.closes n (w.closes n + 1) }
  have hdone := Has.onSocket (w := v) (x := (w.sockets n, w.kernel))
    ⟨live_of_onSocket live, hn, rfl, rfl⟩ false
    (f := fun s k => some (true, HostSocketInfo.destroy (s, k))) rfl
  rw [show closeSocket n w = _ from hdone]
  simp only [Function.update_self]
  exact ⟨rfl, rfl⟩

end HostNetwork

namespace ServerSocket

open EthernetHost

variable {K L : Type*} [Posix K] [McuCore K] {x : ServerSocket (EthernetHost K) L}
  {new : UInt16 → UInt8 → Prop}

/-- **`BeginListening`** adds its socket, if it succeeds. -/
theorem adds_beginListening (has : x.hasSocket = true) :
    Adds (fun q m => x.beginListening.1 = true ∧ q = x.tcpPort ∧ m = x.sockNum) x.net
      x.beginListening.2.net := by
  have hquiet : ∀ {new : UInt16 → UInt8 → Prop}, QuietMoves (Adds (K := K) new) :=
    portMoves_adds.quietMoves
  have hconnected : ∀ {new}, Adds new x.net x.askedConnected :=
    hquiet.trans (hquiet.socketIsTcpListener _ _) (hquiet.socketIsInTcpConnectionLifecycle _ _)
  have hset : ∀ {new : UInt16 → UInt8 → Prop},
      (∀ q m, x.setToListen.1 = true ∧ q = x.tcpPort ∧ m = x.sockNum → new q m) →
        Adds new x.net x.setToListen.2 := fun himp =>
    hquiet.trans (hquiet.trans hconnected
      (moves_closeHardwareSocket hquiet { x with net := x.askedConnected }))
      ((adds_listen x.sockNum x.tcpPort x.cleared.net).mono himp)
  generalize hr : x.beginListening = r
  cases hr ▸ x.beginListening_begin has with
  | already _ => exact hquiet.trans (hquiet.socketIsTcpListener _ _) (hquiet.socketStatus _ _)
  | busy _ => exact hconnected
  | listening _ => exact hquiet.trans (hset fun q m h => ⟨rfl, h.2⟩) (hquiet.socketStatus _ _)
  | refused no => exact hset fun q m h => absurd (no.symm.trans h.1) Bool.false_ne_true

/-- **A hardware socket that is released is not in use.** -/
theorem releaseSocket_unused (x : ServerSocket (EthernetHost K) L)
    (hreleased : x.releaseSocket.2.sockNum ≠ x.sockNum)
    (live : x.releaseSocket.2.net.network.aborted = false) :
    ¬x.releaseSocket.2.net.InUse x.sockNum := by
  have hquiet : QuietMoves (Adds (K := K) fun _ _ => False) := portMoves_adds.quietMoves
  by_cases has : x.hasSocket = true
  · have hconnected : x.isConnected.2.sockNum = x.sockNum := (unseen_isConnected x).sockNum
    rw [releaseSocket, if_pos has] at hreleased live ⊢
    dsimp only at hreleased live ⊢
    split_ifs at hreleased live ⊢ with hbusy
    · exact absurd hconnected hreleased
    · -- closed, and the status is read
      intro hused
      rw [← hconnected] at hused
      have hn : x.isConnected.2.sockNum < HostNetwork.kMaxSockets := by
        rw [hconnected]
        exact of_decide_eq_true has
      obtain ⟨hport, hconn⟩ :=
        HostNetwork.closeSocket_destroys hn (HostNetwork.live_of_onSocket live)
      have hread := hquiet.socketStatus x.isConnected.2.sockNum
        (Platform.closeSocket x.isConnected.2.sockNum x.isConnected.2.net).2
      obtain ⟨-, hlistens | hopen⟩ := hread.inUse_before hused
      · exact hlistens hport
      · exact Bool.false_ne_true (hconn.symm.trans hopen)
  · rw [releaseSocket, if_neg has] at hreleased
    exact absurd rfl hreleased

variable [ServerSocketListener L]

/-- **A server socket keeps the number of what it adds.** -/
theorem adds_run (x : ServerSocket (EthernetHost K) L) (c : PublicCall) :
    Adds (fun q m => q = x.tcpPort ∧ m = (x.run c).sockNum) x.net (x.run c).net := by
  have hquiet : QuietMoves (Adds (K := K) fun q m => q = x.tcpPort ∧ m = (x.run c).sockNum) :=
    portMoves_adds.quietMoves
  cases c with
  | pickClosedSocket =>
    have hfound := hquiet.findUnusedSocket x.net
    have hkept : x.found.beginListening.2.sockNum = x.found.sockNum :=
      (unseen_beginListening x.found).sockNum
    simp only [run] at hquiet hfound ⊢
    generalize hr : x.pickClosedSocket = r at hquiet hfound
    cases hr ▸ x.pickClosedSocket_pick with
    | bound _ => exact hquiet.refl x.net
    | noneFree _ _ => exact hfound
    | refused _ range _ _ no =>
      refine hquiet.trans hfound ((adds_beginListening range).mono fun q m h => ?_)
      exact absurd (no.symm.trans h.1) Bool.false_ne_true
    | picked _ range _ _ _ =>
      refine hquiet.trans (hquiet.trans hfound ((adds_beginListening range).mono fun q m h => ?_))
        (hquiet.socketStatus _ _)
      exact ⟨h.2.1, h.2.2.trans hkept.symm⟩
  | performIo =>
    refine x.performIo_poll.moves hquiet x fun _ _ _ _ => ?_
    refine (adds_listen x.sockNum x.tcpPort _).mono fun q m h => ?_
    exact ⟨h.2.1, h.2.2.trans x.performIo_poll.sockNum.symm⟩
  | releaseSocket => exact moves_releaseSocket hquiet x
  | socketLost => exact moves_socketLost hquiet x

/-- **A server socket gives up no hardware socket that is in use.** -/
theorem unused_of_run (x : ServerSocket (EthernetHost K) L) {c : PublicCall}
    (hok : c = .socketLost → ¬x.net.InUse x.sockNum)
    (hchanged : (x.run c).sockNum ≠ x.sockNum) (live : (x.run c).net.network.aborted = false) :
    ¬(x.run c).net.InUse x.sockNum := by
  cases c with
  | pickClosedSocket =>
    by_cases has : x.hasSocket = true
    · rw [run, pickClosedSocket, if_pos has] at hchanged
      exact absurd rfl hchanged
    · exact fun hused => has (decide_eq_true hused.1)
  | performIo => exact absurd x.performIo_poll.sockNum hchanged
  | releaseSocket => exact x.releaseSocket_unused hchanged live
  | socketLost =>
    have hquiet : QuietMoves (Adds (K := K) fun _ _ => False) := portMoves_adds.quietMoves
    exact fun hused => hok rfl ((moves_socketLost hquiet x).inUse_before hused)

end ServerSocket

/-! ### What is known of the sockets in use -/

namespace EthernetHost

variable {ι K : Type*}

/-- **Every socket in use is known to a user.**  The server sockets have these ports and
numbers; all other ports are those of Ethernet servers, which set no second socket to
listen. -/
structure Placed (ports : ι → UInt16) (sockNums : ι → UInt8) (w : EthernetHost K) : Prop where
  held : ∀ i n, w.ListensFor (ports i) n → ∃ j, ports j = ports i ∧ sockNums j = n
  noted : ∀ port n, port ∉ Set.range ports → w.ListensFor port n → w.serverPort n = port
  once : ∀ port m n, port ∉ Set.range ports → w.ListensFor port m → w.ListensFor port n → m = n
  known : ∀ n, w.InUse n → (∃ i, sockNums i = n) ∨ w.serverPort n ≠ 0

variable {ports : ι → UInt16} {sockNums : ι → UInt8} {v w : EthernetHost K}

theorem Placed.adds (h : Placed ports sockNums v) (hvw : Adds (fun _ _ => False) v w) :
    Placed ports sockNums w where
  held i n hn := h.held i n ((hvw.listens _ n hn).resolve_right id)
  noted port n hport hn := by
    rw [hvw.serverPort]
    exact h.noted port n hport ((hvw.listens _ n hn).resolve_right id)
  once port m n hport hm hn :=
    h.once port m n hport ((hvw.listens _ m hm).resolve_right id)
      ((hvw.listens _ n hn).resolve_right id)
  known n hn := by
    rw [hvw.serverPort]
    exact h.known n (hvw.inUse_before hn)

variable [Posix K] {port : UInt16} {n : UInt8}

/-- A socket that was set to listen has the port. -/
theorem tcpPort_of_listen (hn : n < HostNetwork.kMaxSockets) {r : Bool × EthernetHost K}
    (hr : through (HostNetwork.initializeTcpListenerSocket n port) w = r) (hset : r.1 = true)
    (live : r.2.network.aborted = false) : (r.2.socket n).1.tcpPort = port := by
  subst hr
  obtain ⟨q, hq, hvalue, hsocket⟩ := ServerOp.socket_of_through false hn live
  obtain ⟨hyes, -⟩ := HostSocketInfo.initializeTcpListener_ports w.network.tcpServerPortMap port
    (w.socket n).1 (w.socket n).2
  obtain rfl := Option.some.inj hq
  exact (congrArg (fun x => x.1.tcpPort) hsocket).trans (hyes (hvalue.symm.trans hset))

/-- **An Ethernet server sets a socket to listen** when none listens for its port. -/
theorem Placed.listen (h : Placed ports sockNums w) (hport : port ∉ Set.range ports)
    (h0 : port ≠ 0) (hnone : w.ListenersIn port []) {r : ℤ × EthernetHost K}
    (hr : (ServerOp.listen n port).handle w = some r) : Placed ports sockNums r.2 := by
  obtain ⟨rfl, live⟩ := ServerOp.run_of_handle hr
  have hadds := adds_listen n port w
  simp only [ServerOp.run] at live ⊢
  generalize hq : through (HostNetwork.initializeTcpListenerSocket n port) w = q at hadds live
  split_ifs at live ⊢ with hset
  · -- the table has its port now
    have hnew : ∀ {p m}, q.2.ListensFor p m → (m ≠ n ∧ w.ListensFor p m) ∨ (m = n ∧ p = port) := by
      rintro p m hm
      by_cases hmn : m = n
      · subst hmn
        exact .inr ⟨rfl, hm.2.2.symm.trans (tcpPort_of_listen hm.1 hq hset live)⟩
      · exact .inl ⟨hmn, (hadds.listens p m hm).resolve_right fun hnew => hmn hnew.2.2⟩
    have hentry : Function.update q.2.serverPort n port n = port := Function.update_self _ _ _
    have hkept : ∀ {m}, m ≠ n → Function.update q.2.serverPort n port m = w.serverPort m :=
      fun hmn => (Function.update_of_ne hmn _ _).trans (congrFun hadds.serverPort _)
    refine ⟨fun i m hm => ?_, fun p m hp hm => ?_, fun p l m hp hl hm => ?_, fun m hm => ?_⟩
    · rcases hnew hm with ⟨-, hold⟩ | ⟨-, hi⟩
      · exact h.held i m hold
      · exact absurd ⟨i, hi⟩ hport
    · rcases hnew hm with ⟨hmn, hold⟩ | ⟨rfl, rfl⟩
      · exact (hkept hmn).trans (h.noted p m hp hold)
      · exact hentry
    · rcases hnew hl with ⟨-, hl'⟩ | ⟨hln, hlp⟩
      · rcases hnew hm with ⟨-, hm'⟩ | ⟨-, hmp⟩
        · exact h.once p l m hp hl' hm'
        · exact absurd (hnone l (hmp ▸ hl')) List.not_mem_nil
      · rcases hnew hm with ⟨-, hm'⟩ | ⟨hmn, -⟩
        · exact absurd (hnone m (hlp ▸ hm')) List.not_mem_nil
        · exact hln.trans hmn.symm
    · by_cases hmn : m = n
      · subst hmn
        exact .inr (hentry.trans_ne h0)
      · have hold := (hadds.inUse m hm).resolve_right fun hnew => hmn hnew.choose_spec.2.2
        exact (h.known m hold).imp_right (hkept hmn).trans_ne
  · exact h.adds (hadds.mono fun _ _ hnew => hset hnew.1)

end EthernetHost

/-! ### Ethernet servers -/

namespace EthernetServer

open EthernetHost Program

variable {ι K : Type*} [Posix K] [McuCore K]

/-- The surroundings of a server that accepts only from sockets that have their ports.
Every socket in use is to be known whenever it makes a call. -/
def placing (ports : ι → UInt16) (nums : ι → UInt8) : Surroundings ServerOp ℤ (EthernetHost K) where
  handle := ServerOp.handle
  outside := ready.outside
  refl := ready.refl
  trans := ready.trans
  may := ready.promised
  promised _ w := Placed ports nums w

variable {ports : ι → UInt16} {nums : ι → UInt8} {port : UInt16} {n : UInt8} {w : EthernetHost K}

omit [McuCore K] in
/-- What the kernel does changes no members. -/
theorem stable_of_kernel {P : EthernetHost K → Prop}
    (h : ∀ (w : EthernetHost K) k, P w → P { w with network := { w.network with kernel := k } }) :
    Safe.Stable (placing (K := K) ports nums) P := by
  rintro w _ hw ⟨k, rfl⟩
  exact h w k hw

omit [McuCore K] in
/-- The sockets are placed, and those that listen for the port are among these. -/
theorem stable_listenersIn (Q : Prop) (l : List UInt8) :
    Safe.Stable (placing (K := K) ports nums) fun w =>
      Placed ports nums w ∧ (Q → w.ListenersIn port l) :=
  stable_of_kernel fun _ _ h => ⟨⟨h.1.held, h.1.noted, h.1.once, h.1.known⟩, h.2⟩

omit [McuCore K] in
theorem stable_placed : Safe.Stable (placing (K := K) ports nums) (Placed ports nums) :=
  stable_of_kernel fun _ _ h => ⟨h.held, h.noted, h.once, h.known⟩

omit [McuCore K] in
/-- A socket that does not listen by its status listens for no port. -/
theorem tcpPort_of_status (hn : n < HostNetwork.kMaxSockets) {r : ℤ × EthernetHost K}
    (hr : (ServerOp.status n).handle w = some r) (hstatus : r.1 ≠ SnSR.listen.toNat) :
    (r.2.socket n).1.tcpPort = 0 := by
  obtain ⟨rfl, live⟩ := ServerOp.run_of_handle hr
  obtain ⟨q, hq, hvalue, hsocket⟩ := ServerOp.socket_of_through HostSocketInfo.kStatusClosed hn live
  have hself : (through (HostNetwork.socketStatus n) w).2.socket n = q.2 := hsocket
  have hread : (through (HostNetwork.socketStatus n) w).1 = q.1 := hvalue
  have hother : q.1 ≠ HostSocketInfo.kStatusListening := by
    rintro heq
    exact hstatus (congrArg (fun s : UInt8 => (s.toNat : ℤ)) (hread.trans heq))
  exact (congrArg (fun x => x.1.tcpPort) hself).trans
    (HostSocketInfo.tcpPort_of_socketStatus hq hother)

/-- A call that sets no socket to listen. -/
theorem adds_of_handle {op : ServerOp} {r : ℤ × EthernetHost K} (hr : op.handle w = some r)
    (hlisten : ∀ n port, op ≠ .listen n port) (hmay : (placing ports nums).may op w) :
    Adds (fun _ _ => False) w r.2 :=
  ServerOp.moves_of_handle portMoves_adds hr hlisten hmay

/-- **`begin`**, when no socket listens for the port. -/
theorem placed_begin (hport : port ∉ Set.range ports) (h0 : port ≠ 0) (hw : Placed ports nums w)
    (hnone : w.ListenersIn port []) :
    (begin port).Safe (placing ports nums) (fun _ w => Placed ports nums w) w := by
  refine Safe.of_call (stable_listenersIn True []) ⟨hw, fun _ => hnone⟩ (fun _ ht => ht.1)
    fun t r ht hmay hr => ?_
  have hadds := adds_of_handle hr nofun hmay
  have hfound := (ht.2 trivial).adds hadds
  split_ifs
  · refine Safe.of_call (stable_listenersIn True []) ⟨ht.1.adds hadds, fun _ => hfound⟩
      (fun _ ht => ht.1) fun u q hu _ hq => ?_
    exact Safe.of_done stable_placed (hu.1.listen hport h0 (hu.2 trivial) hq)
  · exact Safe.of_done stable_placed (ht.1.adds hadds)

/-- **The loop of `accept`** finds a listener for the port, if there is one.  Those that it
has not found yet are among the sockets that are left. -/
theorem placed_acceptIn (hport : port ∉ Set.range ports) {l : List UInt8}
    (hl : ∀ n ∈ l, n < HostNetwork.kMaxSockets) (listening : Bool) (hw : Placed ports nums w)
    (hleft : listening = false → w.ListenersIn port l) :
    (acceptIn port l listening).Safe (placing ports nums)
      (fun listening w => Placed ports nums w ∧ (listening = false → w.ListenersIn port [])) w := by
  induction l generalizing listening w with
  | nil => exact Safe.of_done (stable_listenersIn _ _) ⟨hw, hleft⟩
  | cons n rest ih =>
    have hn : n < HostNetwork.kMaxSockets := hl n List.mem_cons_self
    have hrest := fun b t => @ih t (fun m hm => hl m (List.mem_cons_of_mem _ hm)) b
    refine Safe.of_call (stable_listenersIn _ _) ⟨hw, hleft⟩ (fun _ ht => ht.1)
      fun t r ht _ hr => ?_
    obtain ⟨rfl, -⟩ := ServerOp.run_of_handle hr
    split_ifs with hentry
    · -- the status read
      refine Safe.of_call (stable_listenersIn _ _) ht (fun _ ht => ht.1)
        fun u r hu hmay hr => ?_
      have hadds := adds_of_handle hr nofun hmay
      have hplaced : Placed ports nums r.2 := hu.1.adds hadds
      have hskip : r.1 ≠ SnSR.listen.toNat → listening = false → r.2.ListenersIn port rest :=
        fun hstatus hb => ((hu.2 hb).adds hadds).skip fun hlisten =>
          hlisten.2.1 (hlisten.2.2.symm.trans (tcpPort_of_status hn hr hstatus))
      split_ifs with hlisten hwait
      · -- a listener is found
        refine Safe.of_call stable_placed hplaced (fun _ ht => ht) fun v q hv hmay hq => ?_
        exact hrest true q.2 (hv.adds (adds_of_handle hq nofun hmay)) nofun
      · refine Safe.of_call (stable_listenersIn _ _) ⟨hplaced, hskip hlisten⟩ (fun _ ht => ht.1)
          fun v q hv hmay hq => ?_
        have hadds := adds_of_handle hq nofun hmay
        have hcounted := fun hb => (hv.2 hb).adds hadds
        split_ifs
        · refine Safe.of_call (stable_listenersIn _ _) ⟨hv.1.adds hadds, hcounted⟩
            (fun _ ht => ht.1) fun v q hv hmay hq => ?_
          have hadds := adds_of_handle hq nofun hmay
          exact hrest listening q.2 (hv.1.adds hadds) fun hb => (hv.2 hb).adds hadds
        · exact hrest listening q.2 (hv.1.adds hadds) hcounted
      · exact hrest listening r.2 hplaced (hskip hlisten)
    · -- not in the table, so it does not listen for the port
      refine hrest listening t ht.1 fun hb => (ht.2 hb).skip fun hlisten => hentry ?_
      exact congrArg (fun p : UInt16 => (p.toNat : ℤ)) (ht.1.noted port n hport hlisten)

/-- **`accept`** sets a socket to listen only when none listens for the port. -/
theorem placed_accept (hport : port ∉ Set.range ports) (h0 : port ≠ 0)
    (hw : Placed ports nums w) :
    (accept port).Safe (placing ports nums) (fun _ w => Placed ports nums w) w := by
  have hall : w.ListenersIn port sockNums := fun n hn =>
    List.mem_map.2 ⟨n.toNat, List.mem_range.2 (UInt8.lt_iff_toNat_lt.1 hn.1), UInt8.ofNat_toNat⟩
  refine (placed_acceptIn hport lt_of_mem_sockNums false hw fun _ => hall).bind
    fun listening t ht => ?_
  split_ifs with hlistening
  · exact Safe.of_done stable_placed ht.1
  · exact placed_begin hport h0 ht.1 (ht.2 (Bool.eq_false_of_not_eq_true hlistening))

/-- The loop of `available` sets no socket to listen. -/
theorem placed_availableIn {l : List UInt8} (hw : Placed ports nums w) :
    (availableIn port l).Safe (placing ports nums) (fun _ w => Placed ports nums w) w := by
  induction l generalizing w with
  | nil => exact Safe.of_done stable_placed hw
  | cons n rest ih =>
    have hserve : ∀ t : EthernetHost K, Placed ports nums t →
        (Program.call (ServerOp.available n) fun available : ℤ =>
          if available = 0 then availableIn port rest else .done n).Safe (placing ports nums)
            (fun _ w => Placed ports nums w) t := by
      intro t ht
      refine Safe.of_call stable_placed ht (fun _ ht => ht) fun u r hu hmay hr => ?_
      have hcounted := hu.adds (adds_of_handle hr nofun hmay)
      split_ifs
      · exact ih hcounted
      · exact Safe.of_done stable_placed hcounted
    refine Safe.of_call stable_placed hw (fun _ ht => ht) fun t r ht hmay hr => ?_
    have hread := ht.adds (adds_of_handle hr nofun hmay)
    split_ifs
    · refine Safe.of_call stable_placed hread (fun _ ht => ht) fun u q hu hmay hq => ?_
      have hstatus := hu.adds (adds_of_handle hq nofun hmay)
      split_ifs
      · exact hserve q.2 hstatus
      · refine Safe.of_call stable_placed hstatus (fun _ ht => ht) fun v p hv hmay hp => ?_
        have hagain := hv.adds (adds_of_handle hp nofun hmay)
        split_ifs
        · exact hserve p.2 hagain
        · exact ih hagain
    · exact ih hread

/-- **`available`.** -/
theorem placed_available (hport : port ∉ Set.range ports) (h0 : port ≠ 0)
    (hw : Placed ports nums w) :
    (available port).Safe (placing ports nums) (fun _ w => Placed ports nums w) w :=
  (placed_accept hport h0 hw).bind fun _ _ ht => placed_availableIn ht

end EthernetServer

/-! ### Runs -/

namespace Sharing

open EthernetHost EthernetServer

variable {ι K L : Type*} [Posix K]

/-- The kernel and the peers act. -/
def KernelActs (x y : Sharing ι K L) : Prop :=
  ∃ k, y = x.withNet { x.fleet.net with network := { x.fleet.net.network with kernel := k } }

/-- The numbers that the server sockets have. -/
def sockNums (x : Sharing ι K L) (i : ι) : UInt8 := (x.fleet.servers i).sockNum

/-- Ethernet servers have ports of their own, and one that has a listener is not told to
`begin` again.  A server socket is told that its hardware socket is lost when that is not in
use any more. -/
def Sensible (ports : ι → UInt16) (x : Sharing ι K L) : SharedOp ι → Prop
  | .begin port => port ∉ Set.range ports ∧ x.fleet.net.ListenersIn port []
  | .available port => port ∉ Set.range ports
  | .call i .socketLost => ¬x.fleet.net.InUse (x.sockNums i)
  | _ => True

/-- Every socket in use is known, and will be for the rest of the task. -/
structure Known (ports : ι → UInt16) (x : Sharing ι K L) : Prop where
  tcpPort : ∀ i, (x.fleet.servers i).tcpPort = ports i
  idle : x.task = none → Placed ports x.sockNums x.fleet.net
  busy : ∀ t, x.task = some t →
    t.program.Safe (placing ports x.sockNums) (fun _ w => Placed ports x.sockNums w) x.fleet.net

variable {ports : ι → UInt16} {x : Sharing ι K L}

theorem Known.placed (h : x.Known ports) : Placed ports x.sockNums x.fleet.net := by
  cases htask : x.task with
  | none => exact h.idle htask
  | some t =>
    obtain ⟨port, program⟩ := t
    have hsafe := h.busy _ htask
    cases program with
    | done a => exact hsafe.value
    | call op next => exact hsafe.promise

theorem Known.kernelActs {y : Sharing ι K L} (h : x.Known ports) (hy : x.KernelActs y) :
    y.Known ports := by
  obtain ⟨k, rfl⟩ := hy
  refine ⟨h.tcpPort, fun hidle => ?_, fun t ht => (h.busy t ht).outside ⟨k, rfl⟩⟩
  exact stable_placed _ _ (h.idle hidle) ⟨k, rfl⟩

variable [McuCore K] [DecidableEq ι] [ServerSocketListener L]

/-- **A call of a server socket.** -/
theorem Known.call {i : ι} {c : PublicCall} (h : x.Known ports) (hidle : x.task = none)
    (hok : x.Sensible ports (.call i c)) (live : (x.fleet.call i c).net.network.aborted = false) :
    Known ports { x with fleet := x.fleet.call i c } := by
  let y := x.fleet.server i
  have hplaced := h.idle hidle
  have hadds := ServerSocket.adds_run y c
  have hport : y.tcpPort = ports i := h.tcpPort i
  have hself : ((x.fleet.call i c).servers i) = y.run c := Function.update_self _ _ _
  have hother : ∀ {j}, j ≠ i → (x.fleet.call i c).servers j = x.fleet.servers j :=
    fun hj => Function.update_of_ne hj _ _
  -- whoever had a socket has it still, or it is not in use
  have hkept : ∀ {j n}, x.sockNums j = n → (y.run c).net.InUse n →
      ((x.fleet.call i c).servers j).sockNum = n := by
    rintro j n rfl hused
    by_cases hj : j = i
    · subst hj
      rw [hself]
      by_contra hchanged
      exact y.unused_of_run (fun hc => by subst hc; exact hok) hchanged live hused
    · rw [hother hj]
      rfl
  have hadded : ∀ {port n}, port = y.tcpPort ∧ n = (y.run c).sockNum →
      ports i = port ∧ ((x.fleet.call i c).servers i).sockNum = n := by
    rintro port n ⟨rfl, rfl⟩
    exact ⟨hport.symm, congrArg ServerSocket.sockNum hself⟩
  have hforeign : ∀ {port n}, port ∉ Set.range ports → (y.run c).net.ListensFor port n →
      x.fleet.net.ListensFor port n := fun hp hn =>
    (hadds.listens _ _ hn).resolve_right fun hnew => hp ⟨i, (hadded hnew).1⟩
  refine ⟨fun j => ?_, fun _ => ⟨fun j n hn => ?_, fun port n hp hn => ?_,
    fun port m n hp hm hn => ?_, fun n hn => ?_⟩, fun t ht => absurd (hidle.symm.trans ht) nofun⟩
  · by_cases hj : j = i
    · subst hj
      exact (congrArg ServerSocket.tcpPort hself).trans ((y.run_tcpPort c).trans hport)
    · exact (congrArg ServerSocket.tcpPort (hother hj)).trans (h.tcpPort j)
  · rcases hadds.listens _ _ hn with hold | hnew
    · obtain ⟨l, hl, hnum⟩ := hplaced.held j n hold
      exact ⟨l, hl, hkept hnum ⟨hn.1, .inl (hn.2.2.trans_ne hn.2.1)⟩⟩
    · obtain ⟨hi, hnum⟩ := hadded hnew
      exact ⟨i, hi, hnum⟩
  · exact (congrFun hadds.serverPort n).trans (hplaced.noted port n hp (hforeign hp hn))
  · exact hplaced.once port m n hp (hforeign hp hm) (hforeign hp hn)
  · rcases hadds.inUse n hn with hold | ⟨port, hnew⟩
    · rcases hplaced.known n hold with ⟨l, hl⟩ | hentry
      · exact .inl ⟨l, hkept hl hn⟩
      · exact .inr ((congrFun hadds.serverPort n).trans_ne hentry)
    · exact .inl ⟨i, (hadded hnew).2⟩

/-- **A step of any user.** -/
theorem Known.exec {op : SharedOp ι} (h : x.Known ports) (hready : x.Ready)
    (hok : x.Sensible ports op) {r : Unit × Sharing ι K L} (hr : exec op x = some r) :
    r.2.Known ports := by
  unfold Sharing.exec at hr
  split at hr
  · -- `begin` is called
    rename_i port hidle
    split_ifs at hr with h0
    obtain rfl := Option.some.inj hr
    refine ⟨h.tcpPort, nofun, fun t ht => ?_⟩
    obtain rfl := Option.some.inj ht
    exact (placed_begin hok.1 h0 (h.idle hidle) hok.2).bind fun _ _ ht =>
      Program.Safe.of_done stable_placed ht
  · -- `available` is called
    rename_i port hidle
    split_ifs at hr with h0
    obtain rfl := Option.some.inj hr
    refine ⟨h.tcpPort, nofun, fun t ht => ?_⟩
    obtain rfl := Option.some.inj ht
    exact (placed_available hok h0 (h.idle hidle)).bind fun _ _ ht =>
      Program.Safe.of_done stable_placed ht
  · -- the next call of an Ethernet server
    rename_i port op next htask
    obtain ⟨q, hq, rfl⟩ := Option.map_eq_some_iff.1 hr
    have hmay := (hready _ htask).promise
    refine ⟨h.tcpPort, nofun, fun t ht => ?_⟩
    obtain rfl := Option.some.inj ht
    exact (h.busy _ htask).step hmay hq
  · rename_i port a htask
    obtain rfl := Option.some.inj hr
    exact ⟨h.tcpPort, fun _ => (h.busy _ htask).value, nofun⟩
  · -- a client is stopped
    rename_i n hidle
    obtain ⟨q, hq, rfl⟩ := Option.map_eq_some_iff.1 hr
    have hadds : Adds (fun _ _ => False) x.fleet.net q.2 :=
      ServerOp.moves_of_handle portMoves_adds hq nofun nofun
    exact ⟨h.tcpPort, fun _ => (h.idle hidle).adds hadds,
      fun t ht => absurd (hidle.symm.trans ht) nofun⟩
  · rename_i i c hidle
    dsimp only at hr
    split_ifs at hr with hlive
    obtain rfl := Option.some.inj hr
    exact h.call hidle hok (Bool.eq_false_of_not_eq_true hlive)
  · exact absurd hr nofun

/-- **No hardware socket is lost, and no port has a listener too many.**  In every run of
any number of server sockets and Ethernet servers on one network, whatever the system calls
return: a socket that listens for the port of server sockets is that of one of them; a socket
that listens for another port is the only one for it, and the table has it; and every socket
in use is known to a server socket or has an entry in the table. -/
theorem sockets_known {listeners : ι → L} {portMap : List (UInt16 × UInt16)} {k₀ : K}
    {log : List (SharedOp ι × Unit)}
    (h : Run exec KernelActs (Sensible ports) (start ports listeners portMap k₀) log x) :
    (∀ i n, x.fleet.net.ListensFor (ports i) n → ∃ j, ports j = ports i ∧ x.sockNums j = n) ∧
    (∀ port n, port ∉ Set.range ports → x.fleet.net.ListensFor port n →
      x.fleet.net.serverPort n = port ∧ ∀ m, x.fleet.net.ListensFor port m → m = n) ∧
    ∀ n, x.fleet.net.InUse n → (∃ i, x.sockNums i = n) ∨ x.fleet.net.serverPort n ≠ 0 := by
  have hinv : x.Ready ∧ x.Known ports := by
    refine h.state_invariant (I := fun x => x.Ready ∧ x.Known ports) ?_ ?_ ?_
    · refine ⟨ready_of_idle rfl, fun _ => rfl, fun _ => ?_, nofun⟩
      have hnone : ∀ n, ¬(start ports listeners portMap k₀ : Sharing ι K L).fleet.net.InUse n := by
        rintro n ⟨-, hlistens | hopen⟩
        · exact hlistens rfl
        · exact absurd hopen Bool.false_ne_true
      have hsilent : ∀ port n,
          ¬(start ports listeners portMap k₀ : Sharing ι K L).fleet.net.ListensFor port n :=
        fun port n hn => hn.2.1 hn.2.2.symm
      exact ⟨fun i n hn => absurd hn (hsilent _ n), fun port n _ hn => absurd hn (hsilent port n),
        fun port m n _ hm _ => absurd hm (hsilent port m), fun n hn => absurd hn (hnone n)⟩
    · exact fun y op r hy hok hr => ⟨(steps_exec hy.1 hr).1, hy.2.exec hy.1 hok hr⟩
    · rintro y z hy hyz
      refine ⟨?_, hy.2.kernelActs hyz⟩
      obtain ⟨k, rfl⟩ := hyz
      exact hy.1.outside
  have hplaced := hinv.2.placed
  exact ⟨hplaced.held, fun port n hp hn => ⟨hplaced.noted port n hp hn, fun m hm =>
    hplaced.once port m n hp hm hn⟩, hplaced.known⟩

/-- An Ethernet server listens on port 80 and a server socket on port 81, and then the
Ethernet server is asked for a client. -/
theorem sockets_known_port80 :
    ∃ log x, Run exec KernelActs (Sensible fun _ => 81) unused log x ∧
      x.fleet.net.ListensFor 80 0 ∧ x.fleet.net.ListensFor 81 1 ∧
      ∀ m, x.fleet.net.ListensFor 80 m → m = 0 := by
  let begun := (exec (.begin 80) unused).get rfl
  let found := (exec .proceed begun.2).get (by decide +kernel)
  let listening := (exec .proceed found.2).get (by decide +kernel)
  let idle := (exec .finish listening.2).get (by decide +kernel)
  let picked := (exec (.call () .pickClosedSocket) idle.2).get (by decide +kernel)
  let asked := (exec (.available 80) picked.2).get (by decide +kernel)
  let looked := (exec .proceed asked.2).get (by decide +kernel)
  have hbegun : exec (.begin 80) unused = some begun := (Option.some_get _).symm
  have hfound : exec .proceed begun.2 = some found := (Option.some_get _).symm
  have hlistening : exec .proceed found.2 = some listening := (Option.some_get _).symm
  have hidle : exec .finish listening.2 = some idle := (Option.some_get _).symm
  have hpicked : exec (.call () .pickClosedSocket) idle.2 = some picked := (Option.some_get _).symm
  have hasked : exec (.available 80) picked.2 = some asked := (Option.some_get _).symm
  have hlooked : exec .proceed asked.2 = some looked := (Option.some_get _).symm
  have hother : (80 : UInt16) ∉ Set.range fun _ : Unit => (81 : UInt16) := by
    rintro ⟨_, h⟩
    exact absurd (show (81 : UInt16) = 80 from h) (by decide)
  have hlistens : Run exec KernelActs (Sensible fun _ => 81) unused _ listening.2 :=
    ((Run.start.call ⟨hother, fun n hn => absurd hn.2.2.symm hn.2.1⟩ hbegun).call (by trivial)
      hfound).call (by trivial) hlistening
  have hrun : Run exec KernelActs (Sensible fun _ => 81) unused _ looked.2 :=
    (((hlistens.call (by trivial) hidle).call (by trivial) hpicked).call (by exact hother)
      hasked).call (by trivial) hlooked
  have h80 : looked.2.fleet.net.ListensFor 80 0 := ⟨by decide, by decide, by decide +kernel⟩
  refine ⟨_, looked.2, hrun, h80, ⟨by decide, by decide, by decide +kernel⟩, ?_⟩
  exact ((sockets_known hrun).2.1 80 0 hother h80).2

end Sharing
end McuNet
