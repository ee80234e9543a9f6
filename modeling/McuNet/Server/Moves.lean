/-
# What every call may do to the platform

A relation on the states of the platform that every call of the platform
respects is respected by every public call of a `ServerSocket`
(`ServerSocket.run_moves`), whatever branch it takes and whatever the listener
does.  It is used for what only ever grows, or stays as it is.

A hardware socket is set to listen in one place of `BeginListening` only, so for that
call it is enough to know what it does to the server socket that makes it
(`ServerSocket.run_moves_of`).
-/

import McuNet.Server.Poll

namespace McuNet

variable {W L : Type*} [Platform W] {R : W → W → Prop}

/-- Every call of the platform changes its state as `R` allows. -/
structure PlatformMoves (R : W → W → Prop) : Prop where
  refl : ∀ w, R w w
  trans : ∀ {a b c}, R a b → R b c → R a c
  findUnusedSocket : ∀ w, R w (Platform.findUnusedSocket w).2
  socketIsTcpListener : ∀ n w, R w (Platform.socketIsTcpListener n w).2
  socketIsInTcpConnectionLifecycle : ∀ n w, R w (Platform.socketIsInTcpConnectionLifecycle n w).2
  socketStatus : ∀ n w, R w (Platform.socketStatus n w).2
  initializeTcpListenerSocket : ∀ n port w, R w (Platform.initializeTcpListenerSocket n port w).2
  disconnectSocket : ∀ n w, R w (Platform.disconnectSocket n w).2
  closeSocket : ∀ n w, R w (Platform.closeSocket n w).2
  ethernetClient : ∀ n, (Platform.ethernetClient (W := W) n).Moves R
  millis : ∀ w, R w (Platform.millis w).2
  elapsedMillis : ∀ t w, R w (Platform.elapsedMillis t w).2

/-- Every call but `InitializeTcpListenerSocket` does. -/
structure QuietMoves (R : W → W → Prop) : Prop where
  refl : ∀ w, R w w
  trans : ∀ {a b c}, R a b → R b c → R a c
  findUnusedSocket : ∀ w, R w (Platform.findUnusedSocket w).2
  socketIsTcpListener : ∀ n w, R w (Platform.socketIsTcpListener n w).2
  socketIsInTcpConnectionLifecycle : ∀ n w, R w (Platform.socketIsInTcpConnectionLifecycle n w).2
  socketStatus : ∀ n w, R w (Platform.socketStatus n w).2
  disconnectSocket : ∀ n w, R w (Platform.disconnectSocket n w).2
  closeSocket : ∀ n w, R w (Platform.closeSocket n w).2
  ethernetClient : ∀ n, (Platform.ethernetClient (W := W) n).Moves R
  millis : ∀ w, R w (Platform.millis w).2
  elapsedMillis : ∀ t w, R w (Platform.elapsedMillis t w).2

/-- What every call does, every call but one does. -/
theorem PlatformMoves.quiet (hR : PlatformMoves R) : QuietMoves R where
  refl := hR.refl
  trans := hR.trans
  findUnusedSocket := hR.findUnusedSocket
  socketIsTcpListener := hR.socketIsTcpListener
  socketIsInTcpConnectionLifecycle := hR.socketIsInTcpConnectionLifecycle
  socketStatus := hR.socketStatus
  disconnectSocket := hR.disconnectSocket
  closeSocket := hR.closeSocket
  ethernetClient := hR.ethernetClient
  millis := hR.millis
  elapsedMillis := hR.elapsedMillis

/-! ### Connections -/

/-- Recording the end of a connection reads the clock at most. -/
theorem DisconnectData.moves_recordDisconnect (hR : QuietMoves R) (data : DisconnectData W)
    (w : W) : R w (data.recordDisconnect w).2 := by
  unfold recordDisconnect
  split_ifs
  · exact hR.refl w
  · exact hR.millis w

/-- A flush makes calls of the client only. -/
theorem TcpServerConnection.moves_flush (hR : QuietMoves R) (conn : TcpServerConnection W)
    (w : W) : R w (conn.flush w).2 :=
  WriteBufferedConnection.flush_rel hR.refl hR.trans (hR.ethernetClient conn.sockNum) _ _

/-- `close` reads the status, flushes, disconnects the socket if it is open, and records when. -/
theorem TcpServerConnection.moves_close (hR : QuietMoves R) (conn : TcpServerConnection W)
    (w : W) : R w (conn.close w).2 := by
  have hstart : R w (conn.startDisconnect w).2 := by
    have hread := hR.socketStatus conn.sockNum w
    simp only [startDisconnect]
    split_ifs
    · exact hR.trans (hR.trans (hR.trans hread (conn.moves_flush hR _)) (hR.socketStatus _ _))
        (hR.trans (hR.disconnectSocket _ _) (hR.socketStatus _ _))
    · exact hR.trans (hR.trans hread (conn.moves_flush hR _)) (hR.socketStatus _ _)
    · exact hread
  exact hR.trans hstart (DisconnectData.moves_recordDisconnect hR _ _)

/-- **A callback of the listener moves the platform as its calls do**, whatever program over the
connection it is: by induction on its calls (`serve_invariant`), of which only `close` does
more than the client does. -/
theorem Serving.moves_serve (hR : QuietMoves R) {α : Type*} (p : Program ConnectionOp Reply α)
    (n : UInt8) (w : W) : R w (serve p n w).2.net := by
  refine serve_invariant (I := fun s => R w s.net) hR.refl hR.trans hR.ethernetClient p ?_ ?_
    (hR.refl w)
  · intro s t hst hs
    exact hR.trans hs hst.net
  · intro s hs
    exact hR.trans hs (s.conn.moves_close hR s.net)

/-! ### Server sockets -/

namespace ServerSocket

variable (hR : QuietMoves R) (x : ServerSocket W L)

include hR

/-- `RefreshStatus` is one status read. -/
theorem moves_refreshStatus : R x.net x.refreshStatus.net := hR.socketStatus _ _

/-- `CloseHardwareSocket` closes the socket and reads its status. -/
theorem moves_closeHardwareSocket : R x.net x.closeHardwareSocket.net :=
  hR.trans (hR.closeSocket _ _) (hR.socketStatus _ _)

/-- `IsConnected` asks the platform if there is a socket, and does nothing otherwise. -/
theorem moves_isConnected : R x.net x.isConnected.2.net := by
  rw [isConnected]
  split_ifs
  · exact hR.socketIsInTcpConnectionLifecycle _ _
  · exact hR.refl _

/-- `hset` is about the call that sets the hardware socket to listen, and is asked for only
when it is made. -/
theorem moves_beginListening
    (hset : x.hasSocket = true → x.Idle → R x.cleared.net x.setToListen.2) :
    R x.net x.beginListening.2.net := by
  by_cases has : x.hasSocket = true
  · have hlistener : R x.net x.askedListener := hR.socketIsTcpListener _ _
    have hconnected : R x.net x.askedConnected :=
      hR.trans hlistener (hR.socketIsInTcpConnectionLifecycle _ _)
    have hset : x.Idle → R x.net x.setToListen.2 := fun idle =>
      hR.trans (hR.trans hconnected (moves_closeHardwareSocket hR { x with net := x.askedConnected }))
        (hset has idle)
    generalize hr : x.beginListening = r
    cases hr ▸ x.beginListening_begin has with
    | already _ => exact hR.trans hlistener (hR.socketStatus _ _)
    | busy _ => exact hconnected
    | listening _ idle => exact hR.trans (hset idle) (hR.socketStatus _ _)
    | refused _ idle => exact hset idle
  · rw [beginListening, if_neg has]
    exact hR.refl _

/-- `hset` is about the call that sets the socket that was found to listen, so it is asked
for only when `FindUnusedSocket` has found one. -/
theorem moves_pickClosedSocket
    (hset : x.hasSocket = false → 0 ≤ (Platform.findUnusedSocket x.net).1 →
      (Platform.findUnusedSocket x.net).1 < maxSockNum.toNat → x.found.Idle →
      R x.found.cleared.net x.found.setToListen.2) :
    R x.net x.pickClosedSocket.2.net := by
  have hfound : R x.net x.found.net := hR.findUnusedSocket x.net
  generalize hr : x.pickClosedSocket = r
  cases hr ▸ x.pickClosedSocket_pick with
  | bound _ => exact hR.refl _
  | noneFree _ _ => exact hfound
  | refused has _ h0 h8 _ =>
    exact hR.trans hfound (moves_beginListening hR x.found fun _ => hset has h0 h8)
  | picked has _ h0 h8 _ =>
    have hbegun : R x.net x.found.beginListening.2.net :=
      hR.trans hfound (moves_beginListening hR x.found fun _ => hset has h0 h8)
    exact hR.trans hbegun (hR.socketStatus _ _)

/-- `ReleaseSocket` asks whether there is a connection, and closes the socket if not. -/
theorem moves_releaseSocket : R x.net x.releaseSocket.2.net := by
  have hconnected := moves_isConnected hR x
  simp only [releaseSocket]
  split_ifs
  · exact hconnected
  · exact hR.trans hconnected (moves_closeHardwareSocket hR _)
  · exact hR.refl _

/-- `DetectCloseTimeout` reads the clock, and closes the socket when it is late. -/
theorem moves_detectCloseTimeout : R x.net x.detectCloseTimeout.net := by
  have hclock : R x.net (x.disconnectData.elapsedDisconnectTime x.net).2 := hR.elapsedMillis _ _
  simp only [detectCloseTimeout]
  split_ifs
  · exact hR.trans hclock (moves_closeHardwareSocket hR
      { x with net := (x.disconnectData.elapsedDisconnectTime x.net).2 })
  · exact hclock
  · exact hR.refl _

/-- `DetectListenerInitiatedDisconnect` reads the status if the listener has closed the
connection. -/
theorem moves_detectListenerInitiatedDisconnect :
    R x.net x.detectListenerInitiatedDisconnect.net := by
  rw [detectListenerInitiatedDisconnect]
  split_ifs
  · exact hR.socketStatus _ _
  · exact hR.refl _

/-- A callback with a connection: the listener, the status, and the destructor, which flushes. -/
theorem moves_announce (kind : Bool → Callback) (p : Program ConnectionOp Reply L) :
    R x.net (x.announce kind p).net :=
  hR.trans (hR.trans (Serving.moves_serve hR p x.sockNum x.net)
    (moves_detectListenerInitiatedDisconnect hR (x.serve kind p).1))
    (TcpServerConnection.moves_flush hR _ _)

variable [ServerSocketListener L]

/-- A connection that is noticed to be gone has its end recorded. -/
theorem moves_noticeLoss : R x.net x.noticeLoss.net := by
  rw [noticeLoss]
  split_ifs
  · exact hR.refl _
  · exact DisconnectData.moves_recordDisconnect hR _ _

/-- `HandleCloseWait` asks what is left to read, and either lets the listener read it or closes
the connection. -/
theorem moves_handleCloseWait : R x.net x.handleCloseWait.net := by
  have hasked : R x.net x.asked.net := (hR.ethernetClient _).available _
  rcases x.handleCloseWait_cases with heq | heq
  · rw [heq]
    exact hR.trans hasked (moves_announce hR _ _ _)
  · rw [heq]
    have hclosed : R x.asked.net x.asked.halfClosed.net :=
      hR.trans (TcpServerConnection.moves_close hR _ _) (hR.socketStatus _ _)
    exact hR.trans (hR.trans hasked hclosed) (TcpServerConnection.moves_flush hR _ _)

/-- **A poll moves the platform as its calls do**, branch by branch.  `hset` is about the one
in which the socket is found closed, which is set to listen again. -/
theorem Poll.moves {y : ServerSocket W L} (h : x.Poll y)
    (hset : statusIsOpen x.lastStatus = false → x.refreshStatus.lastStatus = SnSR.closed →
      x.hasSocket = true → x.refreshStatus.Idle →
      R x.refreshStatus.cleared.net x.refreshStatus.setToListen.2) :
    R x.net y.net := by
  have hread := moves_refreshStatus hR x
  cases h with
  | released _ => exact hR.refl _
  | lost _ _ _ => exact hR.trans hread (moves_noticeLoss hR _)
  | closed _ was now => exact hR.trans hread (moves_beginListening hR _ (hset was now))
  | listening _ _ _ => exact hread
  | connected _ _ _ => exact hR.trans hread (moves_announce hR _ _ _)
  | canRead _ _ _ => exact hR.trans hread (moves_announce hR _ _ _)
  | closeWait _ _ _ => exact hR.trans hread (moves_handleCloseWait hR _)
  | closing _ _ _ => exact hR.trans hread (moves_detectCloseTimeout hR _)
  | stuck _ _ _ _ => exact hR.trans hread (moves_closeHardwareSocket hR _)
  | initializing _ _ _ => exact hread
  | undocumented _ _ _ => exact hread

/-- `SocketLost` records the end of the connection, and makes no other call. -/
theorem moves_socketLost : R x.net x.socketLost.net := by
  simp only [socketLost]
  split_ifs
  · exact DisconnectData.moves_recordDisconnect hR _ _
  · exact DisconnectData.moves_recordDisconnect hR _ _

omit hR [ServerSocketListener L] in
/-- The server socket as it is in a call when `BeginListening` is about to set its hardware
socket to listen: `PickClosedSocket` does it with the socket that `FindUnusedSocket` has
found, and with none if the answer is out of range (`-1` when no socket is free);
`PerformIO` does it with its own socket when that is read to be closed. -/
inductive Sets (x : ServerSocket W L) : PublicCall → ServerSocket W L → Prop where
  | pick (has : x.hasSocket = false) (h0 : 0 ≤ (Platform.findUnusedSocket x.net).1)
      (h8 : (Platform.findUnusedSocket x.net).1 < maxSockNum.toNat) (idle : x.found.Idle) :
      Sets x .pickClosedSocket x.found
  | poll (has : x.hasSocket = true) (was : statusIsOpen x.lastStatus = false)
      (now : x.refreshStatus.lastStatus = SnSR.closed) (idle : x.refreshStatus.Idle) :
      Sets x .performIo x.refreshStatus

/-- **Every public call moves the platform as its calls do**, as long as the one does
that sets the hardware socket to listen. -/
theorem run_moves_of (c : PublicCall)
    (hset : ∀ y, x.Sets c y → R y.cleared.net y.setToListen.2) : R x.net (x.run c).net := by
  cases c with
  | pickClosedSocket =>
    exact moves_pickClosedSocket hR x fun has h0 h8 idle => hset _ (.pick has h0 h8 idle)
  | performIo =>
    exact x.performIo_poll.moves hR x fun was now has idle => hset _ (.poll has was now idle)
  | releaseSocket => exact moves_releaseSocket hR x
  | socketLost => exact moves_socketLost hR x

omit hR in
/-- **Every public call moves the platform as its calls do.** -/
theorem run_moves (hM : PlatformMoves R) (x : ServerSocket W L) (c : PublicCall) :
    R x.net (x.run c).net :=
  run_moves_of hM.quiet x c fun _ _ => hM.initializeTcpListenerSocket _ _ _

end ServerSocket
end McuNet
