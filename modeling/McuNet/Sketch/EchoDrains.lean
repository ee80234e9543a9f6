/-
# How long the echo server takes

`src/examples/NetEcho/NetEcho.ino` on the host, for a peer that has sent what it has to
send and shut down its side.

Each pass of `loop` then reads at most 128 bytes and sends them back, so `n` bytes take
`n / 128` passes, rounded up; the pass after these finds the end of the stream, tells the
listener and shuts the connection down (`drains`).  All of this is about runs in which
`recv` reports no broken connection and no `send` is refused: a `send` that fails makes the
flush loop run off its buffer (`McuNet.Host.FlushSend`), and the pass does not end.  A peer
that keeps its side open while nothing has arrived ends the process
(`McuNet.Host.Polling`), so this is how a client has to use the server.
-/

import McuNet.Host.Polling
import McuNet.Sketch.EchoOnHost

namespace McuNet

/-- The functions of McuCore do nothing to connections. -/
class CoreKeepsStreams (K : Type*) [Posix K] [McuCore K] [StreamKernel K] : Prop where
  millis : ∀ (fd : ℤ) (k : K), (StreamKernel.incoming k fd).Arrives
    (StreamKernel.incoming (McuCore.millis k).2 fd)
  elapsedMillis : ∀ (t : UInt32) (fd : ℤ) (k : K), (StreamKernel.incoming k fd).Arrives
    (StreamKernel.incoming (McuCore.elapsedMillis t k).2 fd)
  getWriteError : ∀ (fd : ℤ) (k : K), (StreamKernel.incoming k fd).Arrives
    (StreamKernel.incoming (McuCore.getWriteError k).2 fd)

namespace NetEcho

open HostNetwork HostSocketInfo Tapped

variable {K : Type*} [Posix K] [McuCore K] [StreamKernel K]

/-- What arrives on a file descriptor. -/
def wire (fd : ℤ) (w : HostNetwork (Tapped K)) : Incoming UInt8 :=
  StreamKernel.incoming w.kernel fd

/-- The server socket attends to the open connection on `fd`, which was announced. -/
structure Attends (fd : ℤ) (x : ServerSocket (HostNetwork (Tapped K)) EchoListener) : Prop where
  live : x.net.aborted = false
  range : x.sockNum < kMaxSockets
  isOpen : haveFd fd = true
  socket : (x.net.sockets x.sockNum).connectionSocketFd = fd
  agrees : (x.net.sockets x.sockNum).FieldsAgree
  readable : (x.net.sockets x.sockNum).canReadFromConnection = true
  writable : (x.net.sockets x.sockNum).canWriteToConnection = true
  known : statusIsOpen x.lastStatus = true

variable {fd : ℤ} {x : ServerSocket (HostNetwork (Tapped K)) EchoListener}

namespace Attends

omit [Posix K] [McuCore K] [StreamKernel K] in
theorem hasSocket (h : Attends fd x) : x.hasSocket = true := decide_eq_true h.range

omit [Posix K] [McuCore K] [StreamKernel K] in
theorem has (h : Attends fd x) :
    x.net.Has x.sockNum (x.net.sockets x.sockNum, x.net.kernel) := ⟨h.live, h.range, rfl, rfl⟩

omit [Posix K] [McuCore K] [StreamKernel K] in
/-- Another kernel state, with the connection as it is. -/
theorem put (h : Attends fd x) (k : Tapped K) :
    Attends fd { x with net := { x.net with kernel := k } } :=
  ⟨h.live, h.range, h.isOpen, h.socket, h.agrees, h.readable, h.writable, h.known⟩

omit [Posix K] [McuCore K] [StreamKernel K] in
/-- A socket that has a connection has no listener. -/
theorem noListener (h : Attends fd x) :
    haveFd (x.net.sockets x.sockNum).listenerSocketFd = false :=
  haveFd_eq_false_iff.2 fun hl => h.agrees.exclusive ⟨hl, h.socket ▸ haveFd_iff.1 h.isOpen⟩

omit [McuCore K] [StreamKernel K] in
/-- What a status read finds on the open connection. -/
theorem status (h : Attends fd x) {half : Bool} {s : HostSocketInfo} {k : Tapped K}
    (hprobe : (x.net.sockets x.sockNum).isConnectionHalfClosed x.net.kernel = some (half, s, k)) :
    HostNetwork.socketStatus x.sockNum x.net =
      (if half then kStatusCloseWait else kStatusEstablished,
        { x.net with kernel := k, sockets := Function.update x.net.sockets x.sockNum s }) := by
  have hfd : haveFd (x.net.sockets x.sockNum).connectionSocketFd = true := h.socket ▸ h.isOpen
  refine h.has.onSocket kStatusClosed (r := (_, s, k)) ?_
  rw [FieldsAgree.socketStatus_connected (x := (_, x.net.kernel)) h.agrees h.noListener,
    if_pos hfd, connectionStatus, isConnected, if_pos hfd, hprobe]
  rfl

/-- **While a byte is waiting** the status is `ESTABLISHED`, and stays as it is. -/
theorem status_byte (h : Attends fd x) (live : (wire fd x.net).broken = false)
    (waiting : (wire fd x.net).unread ≠ []) :
    ∃ k, SameTraffic x.net.kernel k ∧
      StreamKernel.incoming k fd = StreamKernel.incoming x.net.kernel fd ∧
      x.refreshStatus =
        { x with lastStatus := SnSR.established, net := { x.net with kernel := k } } := by
  have hprobe := isConnectionHalfClosed_stream (x.net.sockets x.sockNum, x.net.kernel)
  generalize hr : (x.net.sockets x.sockNum).isConnectionHalfClosed x.net.kernel = r at hprobe
  have hfd : haveFd (x.net.sockets x.sockNum).connectionSocketFd = true := h.socket ▸ h.isOpen
  have hstream : stream (x.net.sockets x.sockNum, x.net.kernel) = wire fd x.net :=
    congrArg (StreamKernel.incoming x.net.kernel) h.socket
  cases hprobe with
  | notOpen hno => exact absurd (hno.symm.trans hfd) Bool.false_ne_true
  | known _ hno => exact absurd (hno.symm.trans h.readable) Bool.false_ne_true
  | @byte k _ _ _ after =>
    have hsame := quiet_sameTraffic.isConnectionHalfClosed _ _ hr
    rw [hstream] at after
    refine ⟨k, hsame, h.socket ▸ after, ?_⟩
    have hstatus : Platform.socketStatus x.sockNum x.net = _ := h.status hr
    simp only [ServerSocket.refreshStatus]
    rw [hstatus, Function.update_eq_self]
    rfl
  | ended _ _ atEnd _ => exact absurd (hstream ▸ atEnd).1 waiting
  | nothing _ _ empty _ => exact absurd (hstream ▸ empty) waiting
  | lost _ broken => exact absurd (live.symm.trans (hstream ▸ broken)) Bool.false_ne_true

/-- **What `OnCanRead` reads while bytes are waiting**: as many as fit into its buffer. -/
theorem reads (h : Attends fd x) (live : (wire fd x.net).broken = false)
    (waiting : (wire fd x.net).unread ≠ []) :
    let bytes := (wire fd x.net).unread.take EchoListener.bufferSize
    ∃ k : Tapped K,
      readsFirst x.sockNum x.net = (((bytes.length : ℤ), bytes), { x.net with kernel := k }) ∧
      k.sent = x.net.kernel.sent ∧ k.refused = x.net.kernel.refused ∧
      StreamKernel.incoming k fd = (wire fd x.net).take EchoListener.bufferSize := by
  intro bytes
  obtain ⟨r, hr, hcase⟩ := recvInternal_stream EchoListener.bufferSize false
    (x.net.sockets x.sockNum, x.net.kernel)
  have hstream : stream (x.net.sockets x.sockNum, x.net.kernel) = wire fd x.net :=
    congrArg (StreamKernel.incoming x.net.kernel) h.socket
  have hread : Readable (x.net.sockets x.sockNum) := ⟨h.socket ▸ h.isOpen, h.readable⟩
  have hle : bytes.length ≤ 128 := List.length_take_le _ _
  have hpos : 0 < bytes.length :=
    List.length_pos_iff.2 fun hnil => (List.take_eq_nil_iff.1 hnil).elim (by decide) waiting
  cases hcase with
  | skipped hno => exact absurd hread hno
  | @bytes k _ _ _ _ after =>
    rw [hstream] at hr after
    rcases recv_took EchoListener.bufferSize hr with htook | ⟨hnone, -⟩
    · refine ⟨k, ?_, htook.sent, htook.refused, h.socket ▸ after⟩
      have hcall : HostNetwork.recv x.sockNum EchoListener.bufferSize x.net = _ :=
        h.has.onSocket (-1, []) hr
      rw [readsFirst_eq, hcall, Function.update_eq_self]
      show ((((bytes.length : ℤ).bmod (2 ^ 32), bytes), _) : (ℤ × List UInt8) × _) = _
      rw [(ReadContract.bmod_count_iff bytes.length).2 (by omega)]
    · have hsome : (0 : ℤ) < bytes.length := by omega
      rcases hnone with hnone | hnone
      · exact absurd (hsome.trans_eq hnone) (by decide)
      · exact absurd (hsome.trans_eq hnone) (by decide)
  | zero _ _ _ asked _ => exact absurd asked (by decide)
  | ended _ _ atEnd _ => exact absurd (hstream ▸ atEnd).1 waiting
  | nothing _ _ empty _ _ => exact absurd (hstream ▸ empty) waiting
  | lost _ broken => exact absurd (live.symm.trans (hstream ▸ broken)) Bool.false_ne_true

/-- Writing to the connection takes nothing out of what arrives on it. -/
theorem arrives_writeAndDestroy [CoreKeepsStreams K] {n : UInt8} (hn : n < kMaxSockets)
    {w : HostNetwork (Tapped K)} (hlive : w.aborted = false)
    (hfd : haveFd (w.sockets n).connectionSocketFd = true) (buf : List UInt8)
    (conn : WriteBufferedConnection) :
    (wire (w.sockets n).connectionSocketFd w).Arrives (wire (w.sockets n).connectionSocketFd
      (WriteBufferedConnection.writeAndDestroy (ethernetClient n) buf conn w).2) := by
  let R := fun v v' : HostNetwork (Tapped K) => v.aborted = false → v.sockets = w.sockets →
    v'.aborted = false ∧ v'.sockets = w.sockets ∧
      (wire (w.sockets n).connectionSocketFd v).Arrives (wire (w.sockets n).connectionSocketFd v')
  refine (WriteBufferedConnection.writeAndDestroy_rel (ethernetClient n) (R := R) ?_ ?_ ?_ ?_ buf
    conn w hlive rfl).2.2
  · exact fun v hl hs => ⟨hl, hs, .refl _⟩
  · intro a b c hab hbc hl hs
    obtain ⟨hl', hs', harrives⟩ := hab hl hs
    obtain ⟨hl'', hs'', harrives'⟩ := hbc hl' hs'
    exact ⟨hl'', hs'', harrives.trans harrives'⟩
  · intro p size v hl hs
    have hsocket : v.sockets n = w.sockets n := congrFun hs n
    simp only [ethernetClient, send_eq hn hl, hsocket, HostSocketInfo.send, hfd, if_true]
    exact ⟨hl, hs, StreamKernel.send _ _ _ v.kernel⟩
  · intro v hl hs
    exact ⟨hl, hs, CoreKeepsStreams.getWriteError _ v.kernel.kernel⟩

/-- **`OnCanRead` while bytes are waiting**: as many as fit into the buffer of the listener
are taken out of the stream and, if nothing is refused, sent back. -/
theorem announceCanRead [LawfulSend K] [CoreKeepsStreams K] (h : Attends fd x)
    (live : (wire fd x.net).broken = false) (waiting : (wire fd x.net).unread ≠ []) :
    let y := x.announceCanRead
    Attends fd y ∧ y.sockNum = x.sockNum ∧ y.callbacks = x.callbacks ++ [.onCanRead false] ∧
      ((wire fd x.net).take EchoListener.bufferSize).Arrives (wire fd y.net) ∧
      (y.net.kernel.refused = false → x.net.kernel.refused = false ∧
        y.net.kernel.sent fd =
          x.net.kernel.sent fd ++ (wire fd x.net).unread.take EchoListener.bufferSize) := by
  intro y
  let bytes := (wire fd x.net).unread.take EchoListener.bufferSize
  obtain ⟨k, hreads, hsent, hrefused, hwire⟩ := h.reads live waiting
  let w : HostNetwork (Tapped K) := { x.net with kernel := k }
  have hle : bytes.length ≤ 128 := List.length_take_le _ _
  have hne : bytes ≠ [] := fun hnil => (List.take_eq_nil_iff.1 hnil).elim (by decide) waiting
  have hpos : (0 : ℤ) < bytes.length := by
    have := List.length_pos_iff.2 hne
    omega
  have hbytes : bytesRead ((bytes.length : ℤ), bytes) = bytes := by
    rw [bytesRead, Int.toNat_natCast, List.take_length]
  have hfd : haveFd (w.sockets x.sockNum).connectionSocketFd = true := h.socket ▸ h.isOpen
  have hnet : y.net = (WriteBufferedConnection.writeAndDestroy (ethernetClient x.sockNum) bytes
      (newConn (W := HostNetwork (Tapped K)) x.sockNum) w).2 := by
    refine (net_announceCanRead x).trans ?_
    rw [hreads, if_pos hpos, hbytes]
    rfl
  obtain ⟨htalks, hgood⟩ := (watched_client h.range w hfd).writeAndDestroy_takes
    (WriteBufferedConnection.wellFormed_new (W := HostNetwork (Tapped K)) x.sockNum) rfl rfl hne
    (hle.trans (show 128 ≤ TcpServerConnection.kWriteBufferSize by decide)) (Talks.refl h.live)
  have harrives := arrives_writeAndDestroy h.range (w := w) h.live hfd bytes
    (newConn (W := HostNetwork (Tapped K)) x.sockNum)
  rw [← hnet] at htalks hgood harrives
  obtain ⟨htold, -, hlast⟩ := ServerSocket.announce_spec Callback.onCanRead
    (ServerSocketListener.onCanRead x.listener) x
  have hstatus : y.lastStatus = x.lastStatus := hlast (closed_onCanRead _ _ _)
  have hsocket : y.net.sockets y.sockNum = x.net.sockets x.sockNum := by
    rw [htalks.sockets]
    exact congrArg x.net.sockets htold.sockNum
  have hcallback : y.callbacks = x.callbacks ++ [.onCanRead false] := by
    refine htold.callbacks.trans ?_
    exact congrArg (fun closed => x.callbacks ++ [Callback.onCanRead closed])
      (closed_onCanRead _ _ _)
  refine ⟨⟨htalks.live, ?_, h.isOpen, ?_, ?_, ?_, ?_, ?_⟩, htold.sockNum, hcallback, ?_,
    fun hno => ?_⟩
  · rw [show y.sockNum = x.sockNum from htold.sockNum]
    exact h.range
  · rw [hsocket]
    exact h.socket
  · rw [hsocket]
    exact h.agrees
  · rw [hsocket]
    exact h.readable
  · rw [hsocket]
    exact h.writable
  · rw [hstatus]
    exact h.known
  · rw [h.socket] at harrives
    exact hwire ▸ harrives
  · obtain ⟨hno', htaken⟩ := hgood hno
    rw [h.socket] at htaken
    refine ⟨hrefused.symm.trans hno', htaken.trans ?_⟩
    exact congrArg (· fd ++ bytes) hsent

omit [StreamKernel K] in
/-- A poll that finds the connection established, which was announced. -/
theorem loop_established (h : Attends fd x) (now : x.refreshStatus.lastStatus = SnSR.established) :
    loop x = x.refreshStatus.announceCanRead := by
  rw [loop, if_pos h.hasSocket, ServerSocket.performIo, if_pos h.hasSocket, ServerSocket.dispatch,
    h.known, now]
  rfl

omit [StreamKernel K] in
/-- A poll that finds the connection half closed. -/
theorem loop_closeWait (h : Attends fd x) (now : x.refreshStatus.lastStatus = SnSR.closeWait) :
    loop x = x.refreshStatus.handleCloseWait := by
  rw [loop, if_pos h.hasSocket, ServerSocket.performIo, if_pos h.hasSocket, ServerSocket.dispatch,
    h.known, now]
  rfl

/-- **A pass while bytes are waiting.** -/
theorem pass_byte [LawfulSend K] [CoreKeepsStreams K] (h : Attends fd x)
    (live : (wire fd x.net).broken = false) (waiting : (wire fd x.net).unread ≠ []) :
    Attends fd (loop x) ∧ (loop x).sockNum = x.sockNum ∧
      (loop x).callbacks = x.callbacks ++ [.onCanRead false] ∧
      ((wire fd x.net).take EchoListener.bufferSize).Arrives (wire fd (loop x).net) ∧
      ((loop x).net.kernel.refused = false → x.net.kernel.refused = false ∧
        (loop x).net.kernel.sent fd =
          x.net.kernel.sent fd ++ (wire fd x.net).unread.take EchoListener.bufferSize) := by
  obtain ⟨k, hsame, hwire, hrefresh⟩ := h.status_byte live waiting
  have hz : Attends fd x.refreshStatus := by
    rw [hrefresh]
    exact { h.put k with known := rfl }
  have hwire' : wire fd x.refreshStatus.net = wire fd x.net := by
    rw [hrefresh]
    exact hwire
  have hnow : x.refreshStatus.lastStatus = SnSR.established := by rw [hrefresh]
  have hkernel : x.refreshStatus.net.kernel = k := by rw [hrefresh]
  rw [h.loop_established hnow]
  obtain ⟨hattends, hsock, hcallbacks, harrives, hgood⟩ :=
    hz.announceCanRead (by rw [hwire']; exact live) (by rw [hwire']; exact waiting)
  rw [hwire'] at harrives hgood
  rw [hkernel, ← hsame.sent, ← hsame.refused] at hgood
  have hlog : x.refreshStatus.callbacks = x.callbacks := by
    rw [hrefresh]
    rfl
  rw [hlog] at hcallbacks
  exact ⟨hattends, hsock.trans (by rw [hrefresh]), hcallbacks, harrives, hgood⟩

end Attends

/-! ### The end of the stream -/

/-- Socket `n` has the connection on `fd`, whose peer has shut down its side, which was
noticed. -/
structure HalfClosed (fd : ℤ) (n : UInt8) (w : HostNetwork (Tapped K)) : Prop where
  live : w.aborted = false
  range : n < kMaxSockets
  isOpen : haveFd fd = true
  socket : (w.sockets n).connectionSocketFd = fd
  agrees : (w.sockets n).FieldsAgree
  ended : (w.sockets n).canReadFromConnection = false
  writable : (w.sockets n).canWriteToConnection = true

namespace HalfClosed

variable {n : UInt8} {w : HostNetwork (Tapped K)}

omit [Posix K] [McuCore K] [StreamKernel K] in
theorem has (h : HalfClosed fd n w) : w.Has n (w.sockets n, w.kernel) :=
  ⟨h.live, h.range, rfl, rfl⟩

omit [Posix K] [McuCore K] [StreamKernel K] in
theorem put (h : HalfClosed fd n w) (k : Tapped K) : HalfClosed fd n { w with kernel := k } :=
  ⟨h.live, h.range, h.isOpen, h.socket, h.agrees, h.ended, h.writable⟩

omit [McuCore K] [StreamKernel K] in
/-- The status is read without a call of the kernel. -/
theorem status (h : HalfClosed fd n w) :
    HostNetwork.socketStatus n w = (kStatusCloseWait, w) := by
  have hfd : haveFd (w.sockets n).connectionSocketFd = true := h.socket ▸ h.isOpen
  have hl : haveFd (w.sockets n).listenerSocketFd = false :=
    haveFd_eq_false_iff.2 fun hl => h.agrees.exclusive ⟨hl, haveFd_iff.1 hfd⟩
  have hstatus := h.has.onSocket kStatusClosed (f := HostSocketInfo.socketStatus)
    (r := (kStatusCloseWait, w.sockets n, w.kernel)) (by
      rw [FieldsAgree.socketStatus_connected (x := (w.sockets n, w.kernel)) h.agrees hl,
        if_pos hfd, connectionStatus, isConnected, if_pos hfd, isConnectionHalfClosed, if_pos hfd,
        h.ended]
      rfl)
  rw [Function.update_eq_self] at hstatus
  exact hstatus

omit [McuCore K] [StreamKernel K] in
/-- Nothing is left to read, and the connection can still be written to. -/
theorem available (h : HalfClosed fd n w) : HostNetwork.availableBytes n w = (0, w) := by
  have hfd : haveFd (w.sockets n).connectionSocketFd = true := h.socket ▸ h.isOpen
  have havailable := h.has.onSocket (-1) (f := HostSocketInfo.availableBytes)
    (r := (0, w.sockets n, w.kernel)) (by
      rw [HostSocketInfo.availableBytes, recvInternal, if_pos hfd, h.ended,
        if_neg Bool.false_ne_true]
      simp only [Option.map_some, h.ended, h.writable]
      rfl)
  rw [Function.update_eq_self] at havailable
  exact havailable

omit [McuCore K] in
/-- The connection is shut down. -/
theorem disconnect (h : HalfClosed fd n w) :
    let w' := (HostNetwork.disconnectSocket n w).2
    HalfClosed fd n w' ∧ (w'.sockets n).disconnecting = true ∧ SameTraffic w.kernel w'.kernel ∧
      (wire fd w).Arrives (wire fd w') := by
  intro w'
  have hfd : haveFd (w.sockets n).connectionSocketFd = true := h.socket ▸ h.isOpen
  have hcall := h.has.onSocket false
    (f := fun s k => some (s.disconnectConnectionSocket k))
    (r := (w.sockets n).disconnectConnectionSocket w.kernel) rfl
  simp only [disconnectConnectionSocket, hfd, if_true] at hcall
  have hw' : w' = _ := congrArg Prod.snd hcall
  have hsocket : w'.sockets n = { w.sockets n with disconnecting := true } := by
    rw [hw']
    exact Function.update_self _ _ _
  have hkernel : w'.kernel = (Posix.shutdownWr (w.sockets n).connectionSocketFd w.kernel).2 := by
    rw [hw']
  refine ⟨⟨?_, h.range, h.isOpen, ?_, ?_, ?_, ?_⟩, ?_, ?_, ?_⟩
  · rw [hw']
    exact h.live
  · rw [hsocket]
    exact h.socket
  · rw [hsocket]
    exact ⟨h.agrees.ports, h.agrees.mapped, h.agrees.exclusive, h.agrees.flags⟩
  · rw [hsocket]
    exact h.ended
  · rw [hsocket]
    exact h.writable
  · rw [hsocket]
  · rw [hkernel]
    exact sameTraffic_put _ _
  · show (StreamKernel.incoming w.kernel fd).Arrives (StreamKernel.incoming w'.kernel fd)
    rw [hkernel, h.socket]
    exact StreamKernel.shutdownWr fd w.kernel

/-- **`close` on a connection that was not written to** shuts it down. -/
theorem close [CoreKeepsStreams K] (h : HalfClosed fd n w) :
    let w' := ((TcpServerConnection.new n : TcpServerConnection (HostNetwork (Tapped K))).close w).2
    HalfClosed fd n w' ∧ (w'.sockets n).disconnecting = true ∧ SameTraffic w.kernel w'.kernel ∧
      (wire fd w).Arrives (wire fd w') := by
  let conn : TcpServerConnection (HostNetwork (Tapped K)) := TcpServerConnection.new n
  obtain ⟨hclosed, hdis, hsame, harrives⟩ := h.disconnect
  have hread : Platform.socketStatus n w = (kStatusCloseWait, w) := h.status
  have hagain : Platform.socketStatus n (HostNetwork.disconnectSocket n w).2 =
      (kStatusCloseWait, (HostNetwork.disconnectSocket n w).2) := hclosed.status
  have hstart : conn.startDisconnect w = (conn, (HostNetwork.disconnectSocket n w).2) := by
    have hopen : kStatusCloseWait = SnSR.established ∨ kStatusCloseWait = SnSR.closeWait :=
      .inr rfl
    have hflush : conn.flush w = (conn, w) := TcpServerConnection.flush_new n w
    have hn : conn.sockNum = n := rfl
    simp only [TcpServerConnection.startDisconnect, hn, hread, hopen, if_true, hflush]
    rw [show Platform.disconnectSocket n w = HostNetwork.disconnectSocket n w from rfl, hagain]
  have hclose : (conn.close w).2 =
      (onKernel McuCore.millis (HostNetwork.disconnectSocket n w).2).2 := by
    simp only [TcpServerConnection.close, hstart]
    rfl
  rw [show (TcpServerConnection.new n : TcpServerConnection (HostNetwork (Tapped K))) = conn from rfl,
    hclose]
  refine ⟨hclosed.put _, hdis, hsame.trans (sameTraffic_put _ _), harrives.trans ?_⟩
  exact CoreKeepsStreams.millis fd (HostNetwork.disconnectSocket n w).2.kernel.kernel

/-- **`HandleCloseWait` when everything was read**: the listener is told, and the connection
shut down. -/
theorem handleCloseWait [CoreKeepsStreams K]
    {z : ServerSocket (HostNetwork (Tapped K)) EchoListener}
    (h : HalfClosed fd z.sockNum z.net) :
    let y := z.handleCloseWait
    y.callbacks = z.callbacks ++ [.onDisconnect] ∧ (y.net.sockets z.sockNum).disconnecting = true ∧
      SameTraffic z.net.kernel y.net.kernel ∧ (wire fd z.net).Arrives (wire fd y.net) := by
  have hasked : Client.available (Platform.ethernetClient z.sockNum) z.net = (0, z.net) :=
    h.available
  have heq : z.handleCloseWait = z.endHalfClosed := by
    simp only [ServerSocket.handleCloseWait, hasked, lt_irrefl, if_false]
  obtain ⟨hclosed, hdis, hsame, harrives⟩ := h.close
  let w := ((TcpServerConnection.new z.sockNum :
    TcpServerConnection (HostNetwork (Tapped K))).close z.net).2
  have hread : Platform.socketStatus z.sockNum w = (kStatusCloseWait, w) := hclosed.status
  have hhalf : z.halfClosed.net = w := congrArg Prod.snd hread
  have hnet : z.endHalfClosed.net = w :=
    (TcpServerConnection.close_new control_sameTraffic z.sockNum z.net).2 z.halfClosed.net |>.trans
      hhalf
  rw [heq]
  refine ⟨(ServerSocket.told_endHalfClosed z).callbacks, ?_⟩
  rw [hnet]
  exact ⟨hdis, hsame, harrives⟩

end HalfClosed

/-- **A pass at the end of the stream.** -/
theorem Attends.pass_end [CoreKeepsStreams K] (h : Attends fd x)
    (live : (wire fd x.net).broken = false) (atEnd : (wire fd x.net).AtEnd) :
    let y := loop x
    y.callbacks = x.callbacks ++ [.onDisconnect] ∧ (y.net.sockets x.sockNum).disconnecting = true ∧
      SameTraffic x.net.kernel y.net.kernel ∧ (wire fd x.net).Arrives (wire fd y.net) := by
  have hprobe := isConnectionHalfClosed_stream (x.net.sockets x.sockNum, x.net.kernel)
  generalize hr : (x.net.sockets x.sockNum).isConnectionHalfClosed x.net.kernel = r at hprobe
  have hfd : haveFd (x.net.sockets x.sockNum).connectionSocketFd = true := h.socket ▸ h.isOpen
  have hstream : stream (x.net.sockets x.sockNum, x.net.kernel) = wire fd x.net :=
    congrArg (StreamKernel.incoming x.net.kernel) h.socket
  cases hprobe with
  | notOpen hno => exact absurd (hno.symm.trans hfd) Bool.false_ne_true
  | known _ hno => exact absurd (hno.symm.trans h.readable) Bool.false_ne_true
  | byte _ _ waiting _ => exact absurd (hstream ▸ atEnd).1 waiting
  | @ended k _ _ _ after =>
    have hsame : SameTraffic x.net.kernel k := quiet_sameTraffic.isConnectionHalfClosed _ _ hr
    let s : HostSocketInfo := { x.net.sockets x.sockNum with canReadFromConnection := false }
    let w : HostNetwork (Tapped K) :=
      { x.net with kernel := k, sockets := Function.update x.net.sockets x.sockNum s }
    have hstatus : Platform.socketStatus x.sockNum x.net = (kStatusCloseWait, w) := h.status hr
    have hrefresh : x.refreshStatus = { x with lastStatus := SnSR.closeWait, net := w } := by
      simp only [ServerSocket.refreshStatus]
      rw [hstatus]
      rfl
    have hsocket : w.sockets x.sockNum = s := Function.update_self _ _ _
    have hwire : wire fd w = wire fd x.net := by
      rw [← hstream, ← after]
      exact congrArg (StreamKernel.incoming k) h.socket.symm
    have hhalf : HalfClosed fd x.sockNum w := by
      refine ⟨h.live, h.range, h.isOpen, ?_, ?_, ?_, ?_⟩
      · rw [hsocket]
        exact h.socket
      · rw [hsocket]
        exact ⟨h.agrees.ports, h.agrees.mapped, h.agrees.exclusive,
          fun hno => absurd (haveFd_iff.1 hfd) hno⟩
      · rw [hsocket]
      · rw [hsocket]
        exact h.writable
    rw [h.loop_closeWait (by rw [hrefresh]), hrefresh]
    obtain ⟨hlog, hdis, htraffic, harrives⟩ := HalfClosed.handleCloseWait
      (z := { x with lastStatus := SnSR.closeWait, net := w }) hhalf
    exact ⟨hlog, hdis, hsame.trans htraffic, hwire ▸ harrives⟩
  | nothing _ _ _ more => exact absurd ((hstream ▸ more).symm.trans atEnd.2) Bool.false_ne_true
  | lost _ broken => exact absurd (live.symm.trans (hstream ▸ broken)) Bool.false_ne_true

/-! ### Runs -/

/-- What happens outside of the process: peers send, shut down or break their connections. -/
def PeersGoOn (w w' : HostNetwork (Tapped K)) : Prop :=
  ∃ k, w' = { w with kernel := { w.kernel with kernel := k } } ∧ PeersSend w.kernel.kernel k

/-- How many times `OnCanRead` has to be called for so many bytes. -/
def passesFor (bytes : ℕ) : ℕ := (bytes + 127) / 128

/-- The state after `m` passes: so much of what waited in `x` was taken out and sent back. -/
structure Drained (fd : ℤ) (x : ServerSocket (HostNetwork (Tapped K)) EchoListener) (m : ℕ)
    (y : ServerSocket (HostNetwork (Tapped K)) EchoListener) : Prop where
  attends : Attends fd y
  sockNum : y.sockNum = x.sockNum
  shutdown : (wire fd y.net).shutdown = true
  unread : (wire fd y.net).unread = (wire fd x.net).unread.drop (128 * m)
  callbacks : y.callbacks = x.callbacks ++ List.replicate m (.onCanRead false)
  sent : y.net.kernel.sent fd =
    x.net.kernel.sent fd ++ (wire fd x.net).unread.take (128 * m)

/-- The state after the last of these passes and one more. -/
structure Finished (fd : ℤ) (x y : ServerSocket (HostNetwork (Tapped K)) EchoListener) :
    Prop where
  shutdown : (wire fd y.net).shutdown = true
  unread : (wire fd y.net).unread = []
  callbacks : y.callbacks = x.callbacks ++
    List.replicate (passesFor (wire fd x.net).unread.length) (.onCanRead false) ++ [.onDisconnect]
  disconnecting : (y.net.sockets x.sockNum).disconnecting = true
  sent : y.net.kernel.sent fd = x.net.kernel.sent fd ++ (wire fd x.net).unread

variable {m : ℕ} {y : ServerSocket (HostNetwork (Tapped K)) EchoListener}

omit [McuCore K] in
theorem Drained.outside (h : Drained fd x m y) {w : HostNetwork (Tapped K)}
    (hw : PeersGoOn y.net w) : Drained fd x m { y with net := w } := by
  obtain ⟨k, rfl, hk⟩ := hw
  obtain ⟨hshut, hunread⟩ := (hk fd).shutdown h.shutdown
  exact ⟨h.attends.put _, h.sockNum, hshut, hunread.trans h.unread, h.callbacks, h.sent⟩

omit [McuCore K] in
theorem Finished.outside (h : Finished fd x y) {w : HostNetwork (Tapped K)}
    (hw : PeersGoOn y.net w) : Finished fd x { y with net := w } := by
  obtain ⟨k, rfl, hk⟩ := hw
  obtain ⟨hshut, hunread⟩ := (hk fd).shutdown h.shutdown
  exact ⟨hshut, hunread.trans h.unread, h.callbacks, h.disconnecting, h.sent⟩

/-- A pass while something is left, in which no `send` is refused. -/
theorem Drained.pass [LawfulSend K] [CoreKeepsStreams K] (h : Drained fd x m y)
    (live : (wire fd y.net).broken = false) (hno : (loop y).net.kernel.refused = false)
    (hm : 128 * m < (wire fd x.net).unread.length) : Drained fd x (m + 1) (loop y) := by
  have hwaiting : (wire fd y.net).unread ≠ [] := by
    rw [h.unread]
    exact fun hnil => absurd (List.drop_eq_nil_iff.1 hnil) (by omega)
  obtain ⟨hattends, hsock, hcallbacks, harrives, hgood⟩ := h.attends.pass_byte live hwaiting
  obtain ⟨hshut, hunread⟩ := harrives.shutdown h.shutdown
  refine ⟨hattends, hsock.trans h.sockNum, hshut, ?_, ?_, ?_⟩
  · rw [hunread, Incoming.take, h.unread, List.drop_drop]
    rfl
  · rw [hcallbacks, h.callbacks, List.append_assoc, List.replicate_succ']
  · rw [(hgood hno).2, h.sent, h.unread, List.append_assoc, Nat.mul_add, List.take_add]
    rfl

/-- The pass after nothing is left. -/
theorem Drained.finish [LawfulSend K] [CoreKeepsStreams K]
    (h : Drained fd x (passesFor (wire fd x.net).unread.length) y)
    (live : (wire fd y.net).broken = false) : Finished fd x (loop y) := by
  have hall : (wire fd x.net).unread.length ≤ 128 * passesFor (wire fd x.net).unread.length := by
    unfold passesFor
    omega
  have hempty : (wire fd y.net).unread = [] := by
    rw [h.unread]
    exact List.drop_eq_nil_of_le hall
  obtain ⟨hcallbacks, hdis, hsame, harrives⟩ := h.attends.pass_end live ⟨hempty, h.shutdown⟩
  obtain ⟨hshut, hunread⟩ := harrives.shutdown h.shutdown
  refine ⟨hshut, hunread.trans hempty, ?_, h.sockNum ▸ hdis, ?_⟩
  · rw [hcallbacks, h.callbacks]
  · rw [← hsame.sent, h.sent, List.take_of_length_le hall]

instance : CoreKeepsStreams LocalKernel where
  millis _ _ := .refl _
  elapsedMillis _ _ _ := .refl _
  getWriteError _ _ := .refl _

end NetEcho
end McuNet
