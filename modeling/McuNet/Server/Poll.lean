/-
# One call, and runs of calls

What the functions of `McuNet.Server.Socket` do on any platform.

`PerformIO` has eleven outcomes, the constructors of `Poll`: each names the
branch it comes from and what is known there about the two statuses.
`performIo_poll` is the only place where its chain of comparisons is taken apart.
Most helpers leave alone everything the listener could notice (`Unseen`); a
callback adds one entry to the log and leaves a disconnect recorded exactly when
the listener called `close` in it (`announce_spec`).

A run is a sequence of public calls and of changes outside between them
(`Step`, `Reaches`).  Each claim about runs chooses what may change outside and
which calls are made.
-/

import McuNet.Server.Socket

namespace McuNet

namespace Serving

variable {W : Type*} [Platform W] {α : Type*}

/-- **A disconnect is recorded exactly when the listener has called `close`**,
since the constructor of the connection resets the record. -/
theorem serve_disconnected (p : Program ConnectionOp Reply α) (n : UInt8) (w : W) :
    (serve p n w).2.conn.disconnectData.disconnected = (serve p n w).2.closed := by
  refine serve_invariant (R := fun _ _ => True) (fun _ => trivial) (fun _ _ => trivial)
    (fun _ => ⟨fun _ _ _ => trivial, fun _ => trivial, fun _ => trivial, fun _ => trivial,
      fun _ _ => trivial, fun _ => trivial, fun _ => trivial⟩)
    (I := fun s => s.conn.disconnectData.disconnected = s.closed) p ?_ ?_ rfl
  · intro s t hst hs
    rw [hst.data, hst.closed]
    exact hs
  · intro s _
    exact DisconnectData.recordDisconnect_disconnected _ _

end Serving

namespace ServerSocket

variable {W L : Type*}

/-! ### What the listener cannot notice -/

/-- `y` differs from `x` at most in the remembered status and in the platform. -/
structure Unseen (x y : ServerSocket W L) : Prop where
  sockNum : y.sockNum = x.sockNum
  tcpPort : y.tcpPort = x.tcpPort
  listener : y.listener = x.listener
  disconnectData : y.disconnectData = x.disconnectData
  log : y.log = x.log

@[refl] theorem Unseen.refl (x : ServerSocket W L) : Unseen x x := ⟨rfl, rfl, rfl, rfl, rfl⟩

theorem Unseen.trans {x y z : ServerSocket W L} (h : Unseen x y) (h' : Unseen y z) : Unseen x z :=
  ⟨h'.sockNum.trans h.sockNum, h'.tcpPort.trans h.tcpPort, h'.listener.trans h.listener,
    h'.disconnectData.trans h.disconnectData, h'.log.trans h.log⟩

/-- The server socket still has its hardware socket, or still has none. -/
theorem Unseen.hasSocket {x y : ServerSocket W L} (h : Unseen x y) : y.hasSocket = x.hasSocket := by
  rw [ServerSocket.hasSocket, h.sockNum, ServerSocket.hasSocket]

/-- The listener was not called. -/
theorem Unseen.callbacks {x y : ServerSocket W L} (h : Unseen x y) : y.callbacks = x.callbacks := by
  rw [ServerSocket.callbacks, h.log, ServerSocket.callbacks]

section

variable [Platform W] (x : ServerSocket W L)

/-- A status read is not seen by the listener. -/
theorem unseen_refreshStatus : Unseen x x.refreshStatus := ⟨rfl, rfl, rfl, rfl, rfl⟩

/-- `CloseHardwareSocket` calls nobody. -/
theorem unseen_closeHardwareSocket : Unseen x x.closeHardwareSocket := ⟨rfl, rfl, rfl, rfl, rfl⟩

/-- `IsConnected` only asks the platform. -/
theorem unseen_isConnected : Unseen x x.isConnected.2 := by
  rw [isConnected]
  split_ifs
  · exact ⟨rfl, rfl, rfl, rfl, rfl⟩
  · rfl

/-- The platform when `BeginListening` has found that the socket is not a
listener already, and when it has found that it has no connection. -/
def askedListener : W := (Platform.socketIsTcpListener x.sockNum x.net).2

/-- The platform after `SocketIsInTcpConnectionLifecycle` too. -/
def askedConnected : W := (Platform.socketIsInTcpConnectionLifecycle x.sockNum x.askedListener).2

/-- The server socket when `BeginListening` has closed the hardware socket. -/
def cleared : ServerSocket W L := closeHardwareSocket { x with net := x.askedConnected }

/-- The hardware socket is set to listen. -/
def setToListen : Bool × W :=
  Platform.initializeTcpListenerSocket x.sockNum x.tcpPort x.cleared.net

/-- What `BeginListening` checks before it sets its hardware socket to listen: the socket
does not listen for the port already, and has no connection. -/
structure Idle : Prop where
  other : (Platform.socketIsTcpListener x.sockNum x.net).1 ≠ x.tcpPort
  unconnected :
    (Platform.socketIsInTcpConnectionLifecycle x.sockNum x.askedListener).1 = false

/-- **What `BeginListening` does** with a hardware socket. -/
inductive Begin : Bool × ServerSocket W L → Prop where
  | already (port : (Platform.socketIsTcpListener x.sockNum x.net).1 = x.tcpPort) :
      Begin (true, refreshStatus { x with net := x.askedListener })
  | busy (connected : (Platform.socketIsInTcpConnectionLifecycle x.sockNum x.askedListener).1 = true) :
      Begin (false, { x with net := x.askedConnected })
  | listening (set : x.setToListen.1 = true) (idle : x.Idle) :
      Begin (true, refreshStatus { x with net := x.setToListen.2 })
  | refused (refused : x.setToListen.1 = false) (idle : x.Idle) :
      Begin (false, { x.cleared with net := x.setToListen.2 })

/-- **What `BeginListening` does** with a hardware socket. -/
theorem beginListening_begin (has : x.hasSocket = true) : Begin x x.beginListening := by
  have hc : ∀ w, isConnected { x with net := w } =
      ((Platform.socketIsInTcpConnectionLifecycle x.sockNum w).1,
        { x with net := (Platform.socketIsInTcpConnectionLifecycle x.sockNum w).2 }) :=
    fun w => if_pos has
  simp only [beginListening, if_pos has, hc]
  split_ifs with hport hconnected hset
  · exact .already hport.symm
  · exact .busy hconnected
  · exact .listening hset ⟨Ne.symm hport, Bool.eq_false_of_not_eq_true hconnected⟩
  · exact .refused (Bool.eq_false_of_not_eq_true hset)
      ⟨Ne.symm hport, Bool.eq_false_of_not_eq_true hconnected⟩

/-- The listener is not told that its server socket listens. -/
theorem unseen_beginListening : Unseen x x.beginListening.2 := by
  by_cases has : x.hasSocket = true
  · generalize hr : x.beginListening = r
    cases hr ▸ x.beginListening_begin has with
    | already _ => exact ⟨rfl, rfl, rfl, rfl, rfl⟩
    | busy _ => exact ⟨rfl, rfl, rfl, rfl, rfl⟩
    | listening _ => exact ⟨rfl, rfl, rfl, rfl, rfl⟩
    | refused _ => exact ⟨rfl, rfl, rfl, rfl, rfl⟩
  · rw [beginListening, if_neg has]

/-- A number that `FindUnusedSocket` finds is one of a hardware socket. -/
theorem ofNat_lt_maxSockNum {n : ℤ} (h : 0 ≤ n ∧ n < maxSockNum.toNat) :
    UInt8.ofNat n.toNat < maxSockNum := by
  have hmax : maxSockNum.toNat = 8 := rfl
  rw [UInt8.lt_iff_toNat_lt, UInt8.toNat_ofNat']
  omega

/-- The server socket when `PickClosedSocket` has found a hardware socket. -/
def found : ServerSocket W L :=
  { x with
    sockNum := UInt8.ofNat (Platform.findUnusedSocket x.net).1.toNat
    lastStatus := SnSR.closed
    net := (Platform.findUnusedSocket x.net).2 }

/-- The hardware socket that was found has the number that was found. -/
theorem toNat_found (h : 0 ≤ (Platform.findUnusedSocket x.net).1 ∧
    (Platform.findUnusedSocket x.net).1 < maxSockNum.toNat) :
    (x.found.sockNum.toNat : ℤ) = (Platform.findUnusedSocket x.net).1 := by
  have hmax : maxSockNum.toNat = 8 := rfl
  show ((UInt8.ofNat _).toNat : ℤ) = _
  rw [UInt8.toNat_ofNat']
  omega

/-- **What `PickClosedSocket` does.** -/
inductive Pick : Bool × ServerSocket W L → Prop where
  | bound (has : x.hasSocket = true) : Pick (false, x)
  | noneFree (has : x.hasSocket = false)
      (none : ¬ (0 ≤ (Platform.findUnusedSocket x.net).1 ∧
        (Platform.findUnusedSocket x.net).1 < maxSockNum.toNat)) :
      Pick (false, { x with lastStatus := SnSR.closed, net := (Platform.findUnusedSocket x.net).2 })
  | refused (has : x.hasSocket = false) (range : x.found.hasSocket = true)
      (h0 : 0 ≤ (Platform.findUnusedSocket x.net).1)
      (h8 : (Platform.findUnusedSocket x.net).1 < maxSockNum.toNat)
      (refused : x.found.beginListening.1 = false) :
      Pick (false, { x.found.beginListening.2 with sockNum := maxSockNum })
  | picked (has : x.hasSocket = false) (range : x.found.hasSocket = true)
      (h0 : 0 ≤ (Platform.findUnusedSocket x.net).1)
      (h8 : (Platform.findUnusedSocket x.net).1 < maxSockNum.toNat)
      (listening : x.found.beginListening.1 = true) :
      Pick (true, x.found.beginListening.2.refreshStatus)

/-- **What `PickClosedSocket` does.** -/
theorem pickClosedSocket_pick : Pick x x.pickClosedSocket := by
  simp only [pickClosedSocket]
  split_ifs with has hfound hbegin
  · exact .bound has
  · exact .picked (by simpa using has) (decide_eq_true (ofNat_lt_maxSockNum hfound)) hfound.1
      hfound.2 hbegin
  · exact .refused (by simpa using has) (decide_eq_true (ofNat_lt_maxSockNum hfound)) hfound.1
      hfound.2 (Bool.eq_false_of_not_eq_true hbegin)
  · exact .noneFree (by simpa using has) hfound

/-- **What `ReleaseSocket` does.**  It refuses when the socket is in the TCP
connection lifecycle, and gives it up without a callback when it is not. -/
theorem releaseSocket_cases :
    x.releaseSocket.2.log = x.log ∧
    ((x.hasSocket = true ∧ (Platform.socketIsInTcpConnectionLifecycle x.sockNum x.net).1 = true ∧
        x.releaseSocket.2 =
          { x with net := (Platform.socketIsInTcpConnectionLifecycle x.sockNum x.net).2 }) ∨
      (x.hasSocket = true ∧ (Platform.socketIsInTcpConnectionLifecycle x.sockNum x.net).1 = false ∧
        x.releaseSocket.2.hasSocket = false) ∨
      (x.hasSocket = false ∧ x.releaseSocket.2 = x)) := by
  simp only [releaseSocket]
  split_ifs with has hconn
  · rw [isConnected, if_pos has] at hconn ⊢
    exact ⟨rfl, .inl ⟨has, hconn, rfl⟩⟩
  · refine ⟨(unseen_isConnected x).log, .inr (.inl ⟨has, ?_, rfl⟩)⟩
    rw [isConnected, if_pos has] at hconn
    exact Bool.eq_false_of_not_eq_true hconn
  · exact ⟨rfl, .inr (.inr ⟨by simpa using has, rfl⟩)⟩

/-- The listener is not told of the timeout either. -/
theorem unseen_detectCloseTimeout : Unseen x x.detectCloseTimeout := by
  simp only [detectCloseTimeout]
  split_ifs
  · exact ⟨rfl, rfl, rfl, rfl, rfl⟩
  · exact ⟨rfl, rfl, rfl, rfl, rfl⟩
  · rfl

/-- `DetectCloseTimeout` does not remember an open status, as long as the socket is
not open after it was closed. -/
theorem detectCloseTimeout_notOpen
    (hclose : ∀ y : ServerSocket W L, statusIsOpen y.closeHardwareSocket.lastStatus = false)
    (h : statusIsOpen x.lastStatus = false) :
    statusIsOpen x.detectCloseTimeout.lastStatus = false := by
  simp only [detectCloseTimeout]
  split_ifs
  · exact hclose _
  · exact h
  · exact h

/-- It is not told of a connection that it has closed itself. -/
theorem unseen_detectListenerInitiatedDisconnect : Unseen x x.detectListenerInitiatedDisconnect := by
  rw [detectListenerInitiatedDisconnect]
  split_ifs
  · exact unseen_refreshStatus x
  · rfl

end

/-! ### Callbacks -/

/-- `y` is `x` after the given callback. -/
structure Told (x y : ServerSocket W L) (callback : Callback) : Prop where
  sockNum : y.sockNum = x.sockNum
  tcpPort : y.tcpPort = x.tcpPort
  log : y.log = x.log ++ [⟨callback, x.sockNum, x.net⟩]

/-- The server socket keeps its hardware socket in a callback. -/
theorem Told.hasSocket {x y : ServerSocket W L} {callback : Callback} (h : Told x y callback) :
    y.hasSocket = x.hasSocket := by
  rw [ServerSocket.hasSocket, h.sockNum, ServerSocket.hasSocket]

/-- One callback is added. -/
theorem Told.callbacks {x y : ServerSocket W L} {callback : Callback} (h : Told x y callback) :
    y.callbacks = x.callbacks ++ [callback] := by
  rw [ServerSocket.callbacks, h.log, List.map_append]
  rfl

/-- **A callback with a connection.**  It is one entry of the log; a disconnect
is recorded afterwards if and only if the listener called `close`, and otherwise
the remembered status is the one from before. -/
theorem announce_spec [Platform W] (kind : Bool → Callback) (p : Program ConnectionOp Reply L)
    (x : ServerSocket W L) :
    let closed := (Serving.serve p x.sockNum x.net).2.closed
    Told x (x.announce kind p) (kind closed) ∧
      (x.announce kind p).disconnectData.disconnected = closed ∧
      (closed = false → (x.announce kind p).lastStatus = x.lastStatus) := by
  intro closed
  let y := (x.serve kind p).1
  have hy : y.disconnectData.disconnected = closed := Serving.serve_disconnected p x.sockNum x.net
  have hd : Unseen y y.detectListenerInitiatedDisconnect :=
    unseen_detectListenerInitiatedDisconnect y
  refine ⟨⟨hd.sockNum, hd.tcpPort, hd.log⟩,
    (congrArg DisconnectData.disconnected hd.disconnectData).trans hy, fun hopen => ?_⟩
  have hno : y.disconnectData.disconnected = false := hy.trans hopen
  show y.detectListenerInitiatedDisconnect.lastStatus = x.lastStatus
  rw [detectListenerInitiatedDisconnect, if_neg (by rw [hno]; decide)]
  rfl

variable [Platform W] [ServerSocketListener L]

/-- The server socket when `HandleCloseWait` has closed the connection. -/
def halfClosed (x : ServerSocket W L) : ServerSocket W L :=
  let r := (TcpServerConnection.new x.sockNum).close x.net
  refreshStatus { x with disconnectData := r.1.disconnectData, net := r.2 }

/-- When nothing is left to read, the listener is told that the connection has ended. -/
theorem told_endHalfClosed (x : ServerSocket W L) :
    Told x.halfClosed x.endHalfClosed .onDisconnect := ⟨rfl, rfl, rfl⟩

/-- The server socket when `HandleCloseWait` has asked how much there is to read. -/
def asked (x : ServerSocket W L) : ServerSocket W L :=
  { x with net := ((Platform.ethernetClient x.sockNum).available x.net).2 }

/-- **What `HandleCloseWait` does**: it lets the listener read what is left, or ends the
connection. -/
theorem handleCloseWait_cases (x : ServerSocket W L) :
    x.handleCloseWait = x.asked.announceCanRead ∨ x.handleCloseWait = x.asked.endHalfClosed := by
  simp only [handleCloseWait]
  split_ifs
  · exact .inl rfl
  · exact .inr rfl

/-- A loss is announced unless the end of the connection is recorded already. -/
theorem noticeLoss_cases (x : ServerSocket W L) :
    (x.disconnectData.disconnected = true ∧ x.noticeLoss = x) ∨
    (x.disconnectData.disconnected = false ∧
      x.noticeLoss.disconnectData = x.recordDisconnect.disconnectData ∧
      x.noticeLoss.lastStatus = x.lastStatus ∧
      x.noticeLoss.net = x.recordDisconnect.net ∧
      Told x.recordDisconnect x.noticeLoss .onDisconnect) := by
  rw [noticeLoss]
  split_ifs with h
  · exact .inl ⟨h, rfl⟩
  · exact .inr ⟨by simpa using h, rfl, rfl, rfl, ⟨rfl, rfl, rfl⟩⟩

/-- The socket is given up, and the listener is told if the last status was
open. -/
theorem socketLost_cases (x : ServerSocket W L) :
    x.socketLost.hasSocket = false ∧ x.socketLost.lastStatus = SnSR.closed ∧
      x.socketLost.disconnectData.disconnected = true ∧
    (((x.hasSocket && statusIsOpen x.lastStatus) = true ∧
        x.socketLost.log = x.log ++ [⟨.onDisconnect, x.sockNum, x.net⟩]) ∨
      ((x.hasSocket && statusIsOpen x.lastStatus) = false ∧ x.socketLost.log = x.log)) := by
  refine ⟨rfl, rfl, DisconnectData.recordDisconnect_disconnected _ _, ?_⟩
  simp only [socketLost]
  split_ifs with h
  · exact .inl ⟨h, rfl⟩
  · exact .inr ⟨by simpa using h, rfl⟩

/-! ### The outcomes of `PerformIO` -/

/-- **What a poll does.**  `x.refreshStatus` is the server socket after the
status was read and remembered, `x.lastStatus` the status from before. -/
inductive Poll (x : ServerSocket W L) : ServerSocket W L → Prop where
  | released (has : x.hasSocket = false) : Poll x x
  | lost (has : x.hasSocket = true) (was : statusIsOpen x.lastStatus = true)
      (now : statusIsOpen x.refreshStatus.lastStatus = false) : Poll x x.refreshStatus.noticeLoss
  | closed (has : x.hasSocket = true) (was : statusIsOpen x.lastStatus = false)
      (now : x.refreshStatus.lastStatus = SnSR.closed) : Poll x x.refreshStatus.beginListening.2
  | listening (has : x.hasSocket = true) (was : statusIsOpen x.lastStatus = false)
      (now : x.refreshStatus.lastStatus = SnSR.listen ∨
        x.refreshStatus.lastStatus = SnSR.synRecv) :
      Poll x { x.refreshStatus with lastStatus := SnSR.listen }
  | connected (has : x.hasSocket = true) (was : statusIsOpen x.lastStatus = false)
      (now : statusIsOpen x.refreshStatus.lastStatus = true) :
      Poll x x.refreshStatus.announceConnected
  | canRead (has : x.hasSocket = true) (was : statusIsOpen x.lastStatus = true)
      (now : x.refreshStatus.lastStatus = SnSR.established) :
      Poll x x.refreshStatus.announceCanRead
  | closeWait (has : x.hasSocket = true) (was : statusIsOpen x.lastStatus = true)
      (now : x.refreshStatus.lastStatus = SnSR.closeWait) :
      Poll x x.refreshStatus.handleCloseWait
  | closing (has : x.hasSocket = true) (was : statusIsOpen x.lastStatus = false)
      (now : statusIsClosing x.refreshStatus.lastStatus = true) :
      Poll x x.refreshStatus.detectCloseTimeout
  | stuck (has : x.hasSocket = true) (was : statusIsOpen x.lastStatus = false)
      (now : statusIsOpen x.refreshStatus.lastStatus = false)
      (known : x.refreshStatus.lastStatus ∈ SnSR.documented) :
      Poll x x.refreshStatus.closeHardwareSocket
  | initializing (has : x.hasSocket = true) (was : statusIsOpen x.lastStatus = false)
      (now : x.refreshStatus.lastStatus = SnSR.init) : Poll x x.refreshStatus
  | undocumented (has : x.hasSocket = true) (was : statusIsOpen x.lastStatus = false)
      (now : x.refreshStatus.lastStatus ∉ SnSR.documented) :
      Poll x { x.refreshStatus with lastStatus := x.lastStatus }

/-- An open past status and a status that is not `ESTABLISHED` or `CLOSE_WAIT`
leave only the first branch. -/
theorem was_of_skip {past status : UInt8}
    (h : ¬ (statusIsOpen past && !statusIsOpen status) = true) (hs : statusIsOpen status = false) :
    statusIsOpen past = false := by
  simpa [hs] using h

/-- **Every `PerformIO` has one of these outcomes.**  The cases stand in the order
of the source. -/
theorem performIo_poll (x : ServerSocket W L) : x.Poll x.performIo := by
  rw [performIo]
  refine iteInduction (motive := x.Poll) (fun has => ?_) fun has => ?_
  swap
  · exact .released (by simpa using has)
  rw [dispatch]
  refine iteInduction (motive := x.Poll) (fun hlost => ?_) fun hlost => ?_
  · rw [Bool.and_eq_true, Bool.not_eq_true'] at hlost
    exact .lost has hlost.1 hlost.2
  refine iteInduction (motive := x.Poll) (fun hclosed => ?_) fun hclosed => ?_
  · exact .closed has (was_of_skip hlost (hclosed ▸ rfl)) hclosed
  refine iteInduction (motive := x.Poll) (fun hlisten => ?_) fun hlisten => ?_
  · have heta : x.refreshStatus = { x.refreshStatus with lastStatus := SnSR.listen } := by
      rw [← hlisten]
    rw [heta]
    exact .listening has (was_of_skip hlost (hlisten ▸ rfl)) (.inl hlisten)
  refine iteInduction (motive := x.Poll) (fun hsyn => ?_) fun hsyn => ?_
  · exact .listening has (was_of_skip hlost (hsyn ▸ rfl)) (.inr hsyn)
  refine iteInduction (motive := x.Poll) (fun hest => ?_) fun hest => ?_
  · refine iteInduction (motive := x.Poll) (fun hwas => ?_) fun hwas => ?_
    · exact .canRead has hwas hest
    · exact .connected has (Bool.eq_false_of_not_eq_true hwas) (hest ▸ rfl)
  refine iteInduction (motive := x.Poll) (fun hwait => ?_) fun hwait => ?_
  · refine iteInduction (motive := x.Poll) (fun hwas => ?_) fun hwas => ?_
    · exact .closeWait has hwas hwait
    · exact .connected has (Bool.eq_false_of_not_eq_true hwas) (hwait ▸ rfl)
  refine iteInduction (motive := x.Poll) (fun hclosing => ?_) fun hclosing => ?_
  · have now := statusIsClosing_iff.2 hclosing
    exact .closing has (was_of_skip hlost (statusIsOpen_of_closing now)) now
  refine iteInduction (motive := x.Poll) (fun hinit => ?_) fun hinit => ?_
  · have now : statusIsOpen x.refreshStatus.lastStatus = false := hinit ▸ rfl
    refine iteInduction (motive := x.Poll) (fun _ => ?_) fun _ => ?_
    · exact .stuck has (was_of_skip hlost now) now (by rw [hinit]; decide)
    · exact .initializing has (was_of_skip hlost now) hinit
  refine iteInduction (motive := x.Poll) (fun hother => ?_) fun hother => ?_
  · have now : statusIsOpen x.refreshStatus.lastStatus = false := by
      rcases hother with h | h | h | h | h <;> rw [h] <;> rfl
    have known : x.refreshStatus.lastStatus ∈ SnSR.documented := by
      rcases hother with h | h | h | h | h <;> rw [h] <;> decide
    exact .stuck has (was_of_skip hlost now) now known
  · have now : x.refreshStatus.lastStatus ∉ SnSR.documented := by
      simp only [not_or] at hclosing hother
      simp only [SnSR.documented, List.mem_cons, List.not_mem_nil, or_false, not_or]
      exact ⟨hclosed, hinit, hlisten, hother.1, hsyn, hest, hclosing.1, hclosing.2.1, hclosing.2.2.1,
        hwait, hclosing.2.2.2, hother.2⟩
    exact .undocumented has (was_of_skip hlost (statusIsOpen_of_not_documented now)) now

/-- A poll that reads a closing status, and does not take it for the end of an
open connection, is `DetectCloseTimeout`. -/
theorem performIo_closing {x : ServerSocket W L} (has : x.hasSocket = true)
    (was : statusIsOpen x.lastStatus = false)
    (now : statusIsClosing x.refreshStatus.lastStatus = true) :
    x.performIo = x.refreshStatus.detectCloseTimeout := by
  have hnow := statusIsClosing_iff.1 now
  have hne (s : UInt8) (hs : statusIsClosing s = false) : x.refreshStatus.lastStatus ≠ s :=
    fun h => absurd (hs.symm.trans (h ▸ now)) Bool.false_ne_true
  rw [performIo, if_pos has, dispatch, if_neg (by simp [was]), if_neg (hne _ rfl),
    if_neg (hne _ rfl), if_neg (hne _ rfl), if_neg (hne _ rfl), if_neg (hne _ rfl), if_pos hnow]

/-- A poll changes neither the hardware socket that is used nor the port. -/
theorem Poll.bound {x y : ServerSocket W L} (h : x.Poll y) :
    y.sockNum = x.sockNum ∧ y.tcpPort = x.tcpPort := by
  have hunseen : ∀ {z : ServerSocket W L}, Unseen x.refreshStatus z →
      z.sockNum = x.sockNum ∧ z.tcpPort = x.tcpPort := fun hu => ⟨hu.sockNum, hu.tcpPort⟩
  have htold : ∀ {z : ServerSocket W L} {c : Callback}, Told x.refreshStatus z c →
      z.sockNum = x.sockNum ∧ z.tcpPort = x.tcpPort := fun ht => ⟨ht.sockNum, ht.tcpPort⟩
  cases h with
  | released _ => exact ⟨rfl, rfl⟩
  | lost _ _ _ =>
    rcases x.refreshStatus.noticeLoss_cases with ⟨-, heq⟩ | ⟨-, -, -, -, ht⟩
    · rw [heq]
      exact ⟨rfl, rfl⟩
    · exact ⟨ht.sockNum, ht.tcpPort⟩
  | closed _ _ _ => exact hunseen (unseen_beginListening _)
  | listening _ _ _ => exact ⟨rfl, rfl⟩
  | connected _ _ _ => exact htold (announce_spec _ _ _).1
  | canRead _ _ _ => exact htold (announce_spec _ _ _).1
  | closeWait _ _ _ =>
    rcases x.refreshStatus.handleCloseWait_cases with heq | heq
    · rw [heq]
      have ht := (announce_spec Callback.onCanRead (ServerSocketListener.onCanRead x.listener)
        x.refreshStatus.asked).1
      exact ⟨ht.sockNum, ht.tcpPort⟩
    · rw [heq]
      exact ⟨rfl, rfl⟩
  | closing _ _ _ => exact hunseen (unseen_detectCloseTimeout _)
  | stuck _ _ _ _ => exact hunseen (unseen_closeHardwareSocket _)
  | initializing _ _ _ => exact ⟨rfl, rfl⟩
  | undocumented _ _ _ => exact ⟨rfl, rfl⟩

/-- A poll keeps the hardware socket. -/
theorem Poll.sockNum {x y : ServerSocket W L} (h : x.Poll y) : y.sockNum = x.sockNum := h.bound.1

/-- A poll neither finds a hardware socket nor gives one up. -/
theorem Poll.hasSocket {x y : ServerSocket W L} (h : x.Poll y) : y.hasSocket = x.hasSocket := by
  rw [ServerSocket.hasSocket, h.sockNum, ServerSocket.hasSocket]

/-! ### Runs -/

/-- One step of a run: something changes outside, or one of the calls that `ok`
allows in this state is made. -/
inductive Step (Env : W → W → Prop) (ok : ServerSocket W L → PublicCall → Prop) :
    ServerSocket W L → ServerSocket W L → Prop where
  | outside {x : ServerSocket W L} {w : W} (h : Env x.net w) : Step Env ok x { x with net := w }
  | call {x : ServerSocket W L} {c : PublicCall} (h : ok x c) : Step Env ok x (x.run c)

/-- A run from a newly constructed server socket. -/
def Reaches (Env : W → W → Prop) (ok : ServerSocket W L → PublicCall → Prop)
    (x : ServerSocket W L) : Prop :=
  ∃ (port : UInt16) (listener : L) (w : W),
    Relation.ReflTransGen (Step Env ok) { listener := listener, tcpPort := port, net := w } x

theorem Reaches.start {Env : W → W → Prop} {ok : ServerSocket W L → PublicCall → Prop}
    (port : UInt16) (listener : L) (w : W) :
    Reaches Env ok { listener := listener, tcpPort := port, net := w } :=
  ⟨port, listener, w, .refl⟩

theorem Reaches.outside {Env : W → W → Prop} {ok : ServerSocket W L → PublicCall → Prop}
    {x : ServerSocket W L} {w : W} (h : Reaches Env ok x) (hw : Env x.net w) :
    Reaches Env ok { x with net := w } := by
  obtain ⟨port, listener, w, hrun⟩ := h
  exact ⟨port, listener, w, hrun.tail (.outside hw)⟩

theorem Reaches.call {Env : W → W → Prop} {ok : ServerSocket W L → PublicCall → Prop}
    {x : ServerSocket W L} {c : PublicCall} (h : Reaches Env ok x) (hc : ok x c) :
    Reaches Env ok (x.run c) := by
  obtain ⟨port, listener, w, hrun⟩ := h
  exact ⟨port, listener, w, hrun.tail (.call hc)⟩

/-- **The rule for runs.** -/
theorem Reaches.invariant {Env : W → W → Prop} {ok : ServerSocket W L → PublicCall → Prop}
    {I : ServerSocket W L → Prop} {x : ServerSocket W L} (h : Reaches Env ok x)
    (start : ∀ port listener w, I { listener := listener, tcpPort := port, net := w })
    (outside : ∀ x w, I x → Env x.net w → I { x with net := w })
    (call : ∀ x c, I x → ok x c → I (x.run c)) : I x := by
  obtain ⟨port, listener, w, hrun⟩ := h
  induction hrun with
  | refl => exact start port listener w
  | tail _ hstep ih =>
    cases hstep with
    | outside henv => exact outside _ _ ih henv
    | call hok => exact call _ _ ih hok

end ServerSocket
end McuNet
