/-
# What is assumed of a hardware socket

A statement about `ServerSocket` needs assumptions about what the chip does with
a socket, and different statements need different ones.  A `SocketMachine` says
what a hardware socket may do by itself and in answer to each call, as relations
on a type of states of which the status byte is one part.  `Implements M W` says
that the platform `W` has such a machine behind every socket number.

The rest carries the functions of `ServerSocket` over to any machine: which
relations hold between the states of the socket before and after each of them.
-/

import McuNet.Server.Poll

namespace McuNet

/-- A hardware socket.  `Advance` is what may happen to it by itself during any
call; the others are the effects of the calls that change it, of
`InitializeTcpListenerSocket` with `Listen` if it succeeds and `Refuse` if not. -/
structure SocketMachine where
  State : Type
  status : State → UInt8
  Advance : State → State → Prop
  Listen : State → State → Prop
  Refuse : State → State → Prop
  Disconnect : State → State → Prop
  Close : State → State → Prop
  advance_refl : ∀ a, Advance a a
  advance_trans : ∀ {a b c}, Advance a b → Advance b c → Advance a c
  listen_of_advance : ∀ {a b c}, Advance a b → Listen b c → Listen a c
  refuse_of_advance : ∀ {a b}, Advance a b → Refuse a b

namespace SocketMachine

variable {W : Type*} (M : SocketMachine)

/-- The sockets have at most advanced. -/
def QuietIn (view : W → UInt8 → M.State) (w w' : W) : Prop :=
  ∀ n, M.Advance (view w n) (view w' n)

/-- A call had an effect on one socket, and the others have at most advanced. -/
def ActsIn (view : W → UInt8 → M.State) (n : UInt8) (R : M.State → M.State → Prop)
    (w w' : W) : Prop :=
  R (view w n) (view w' n) ∧ ∀ m, m ≠ n → M.Advance (view w m) (view w' m)

end SocketMachine

open SocketMachine

/-- The platform has a machine `M` behind every hardware socket.  A status read
tells the truth about the moment it returns, and a socket that
`FindUnusedSocket` returns was closed. -/
class Implements (M : SocketMachine) (W : Type*) [Platform W] where
  view : W → UInt8 → M.State
  socketStatus_eq : ∀ n (w : W),
    (Platform.socketStatus n w).1 = M.status (view (Platform.socketStatus n w).2 n)
  socketStatus : ∀ n (w : W), M.QuietIn view w (Platform.socketStatus n w).2
  findUnusedSocket_closed : ∀ w : W, 0 ≤ (Platform.findUnusedSocket w).1 →
    (Platform.findUnusedSocket w).1 < maxSockNum.toNat →
    M.status (view (Platform.findUnusedSocket w).2
      (UInt8.ofNat (Platform.findUnusedSocket w).1.toNat)) = SnSR.closed
  findUnusedSocket : ∀ w : W, M.QuietIn view w (Platform.findUnusedSocket w).2
  socketIsTcpListener : ∀ n (w : W), M.QuietIn view w (Platform.socketIsTcpListener n w).2
  socketIsInTcpConnectionLifecycle : ∀ n (w : W),
    M.QuietIn view w (Platform.socketIsInTcpConnectionLifecycle n w).2
  initializeTcpListenerSocket_true : ∀ n port (w : W),
    (Platform.initializeTcpListenerSocket n port w).1 = true →
      M.ActsIn view n M.Listen w (Platform.initializeTcpListenerSocket n port w).2
  initializeTcpListenerSocket_false : ∀ n port (w : W),
    (Platform.initializeTcpListenerSocket n port w).1 = false →
      M.ActsIn view n M.Refuse w (Platform.initializeTcpListenerSocket n port w).2
  disconnectSocket : ∀ n (w : W),
    M.ActsIn view n M.Disconnect w (Platform.disconnectSocket n w).2
  closeSocket : ∀ n (w : W), M.ActsIn view n M.Close w (Platform.closeSocket n w).2
  ethernetClient : ∀ n, (Platform.ethernetClient (W := W) n).Moves (M.QuietIn view)
  millis : ∀ w : W, M.QuietIn view w (Platform.millis w).2
  elapsedMillis : ∀ t (w : W), M.QuietIn view w (Platform.elapsedMillis t w).2

namespace SocketMachine

variable (M : SocketMachine) {W : Type*} [Platform W] [Implements M W]

/-- The state of hardware socket `n`. -/
def socket (w : W) (n : UInt8) : M.State := Implements.view w n

/-- `QuietIn` and `ActsIn` for the sockets of the platform. -/
def Quiet (w w' : W) : Prop := M.QuietIn Implements.view w w'

def Acts (n : UInt8) (R : M.State → M.State → Prop) (w w' : W) : Prop :=
  M.ActsIn Implements.view n R w w'

/-- Hardware socket `n` has an open status. -/
def IsOpen (w : W) (n : UInt8) : Prop := statusIsOpen (M.status (M.socket w n)) = true

instance (w : W) (n : UInt8) : Decidable (M.IsOpen w n) :=
  inferInstanceAs (Decidable (statusIsOpen _ = true))

variable {M}

theorem Quiet.refl (w : W) : M.Quiet w w := fun _ => M.advance_refl _

theorem Quiet.trans {a b c : W} (h : M.Quiet a b) (h' : M.Quiet b c) : M.Quiet a c :=
  fun n => M.advance_trans (h n) (h' n)

variable (M)

/-- What `close` does to the hardware before it records the disconnect: nothing,
because the socket was found not to be open, or a disconnect of an open
socket. -/
inductive Disconnects (n : UInt8) (w w' : W) : Prop where
  | skipped {v : W} (before : M.Quiet w v) (notOpen : ¬ M.IsOpen v n) (after : M.Quiet v w')
  | disconnected {u v : W} (before : M.Quiet w u) (isOpen : M.IsOpen u n)
      (effect : M.Acts n M.Disconnect u v) (after : M.Quiet v w')

end SocketMachine

/-! ### Connections -/

section Connection

variable (M : SocketMachine) {W : Type*} [Platform W] [Implements M W]

/-- A flush only talks to the client. -/
theorem TcpServerConnection.quiet_flush (conn : TcpServerConnection W) (w : W) :
    M.Quiet w (conn.flush w).2 :=
  WriteBufferedConnection.flush_rel (R := M.Quiet) Quiet.refl Quiet.trans
    (Implements.ethernetClient conn.sockNum) _ _

/-- The status tests of `close` are those of an open socket. -/
theorem isOpen_socketStatus (n : UInt8) (w : W) :
    M.IsOpen (Platform.socketStatus n w).2 n ↔
      (Platform.socketStatus n w).1 = SnSR.established ∨
        (Platform.socketStatus n w).1 = SnSR.closeWait := by
  rw [← statusIsOpen_iff, Implements.socketStatus_eq (M := M)]
  rfl

/-- **What `close` does to the hardware.** -/
theorem TcpServerConnection.startDisconnect_spec (conn : TcpServerConnection W) (w : W) :
    (conn.startDisconnect w).1.disconnectData = conn.disconnectData ∧
    (conn.startDisconnect w).1.sockNum = conn.sockNum ∧
    M.Disconnects conn.sockNum w (conn.startDisconnect w).2 := by
  have hread : ∀ v : W, M.Quiet v (Platform.socketStatus conn.sockNum v).2 :=
    Implements.socketStatus conn.sockNum
  have hflush := conn.quiet_flush M (Platform.socketStatus conn.sockNum w).2
  simp only [startDisconnect]
  split_ifs with hopen hstill
  · exact ⟨rfl, rfl, .disconnected (((hread w).trans hflush).trans (hread _))
      ((isOpen_socketStatus M _ _).2 hstill) (Implements.disconnectSocket conn.sockNum _) (hread _)⟩
  · exact ⟨rfl, rfl, .skipped (((hread w).trans hflush).trans (hread _))
      (mt (isOpen_socketStatus M _ _).1 hstill) (Quiet.refl _)⟩
  · exact ⟨rfl, rfl, .skipped (hread w) (mt (isOpen_socketStatus M _ _).1 hopen) (Quiet.refl _)⟩

/-- Recording a disconnect at most reads the clock. -/
theorem DisconnectData.quiet_recordDisconnect (data : DisconnectData W) (w : W) :
    M.Quiet w (data.recordDisconnect w).2 := by
  rw [recordDisconnect]
  split_ifs
  · exact Quiet.refl w
  · exact Implements.millis w

/-- `close`, called by the listener. -/
theorem Serving.close_spec (s : Serving W) :
    let t := (s.call .close).2
    t.conn.sockNum = s.conn.sockNum ∧ t.closed = true ∧
    ∃ v, M.Disconnects s.conn.sockNum s.net v ∧ M.Quiet v t.net ∧
      t.conn.disconnectData = (s.conn.disconnectData.recordDisconnect v).1 := by
  intro t
  obtain ⟨hdata, hsock, hdis⟩ := s.conn.startDisconnect_spec M s.net
  refine ⟨hsock, rfl, _, hdis, DisconnectData.quiet_recordDisconnect M _ _, ?_⟩
  show ((s.conn.startDisconnect s.net).1.disconnectData.recordDisconnect _).1 = _
  rw [hdata]

/-- The rule for callbacks, on a machine: `close` is described by `close_spec`,
and everything else at most lets the sockets advance. -/
theorem Serving.serve_machine {I : Serving W → Prop} {α : Type*} (p : Program ConnectionOp Reply α)
    {n : UInt8} {w : W} (hframe : ∀ s t, Frame M.Quiet s t → I s → I t)
    (hclose : ∀ s, I s → I (s.call .close).2)
    (hnew : I { conn := TcpServerConnection.new n, net := w }) : I (serve p n w).2 :=
  serve_invariant Quiet.refl Quiet.trans Implements.ethernetClient p hframe hclose hnew

end Connection

/-! ### Server sockets -/

namespace ServerSocket

variable (M : SocketMachine) {W L : Type*} [Platform W] [Implements M W]

/-- The state of the hardware socket that `x` is bound to. -/
def hardware (x : ServerSocket W L) : M.State := M.socket x.net x.sockNum

theorem quiet_refreshStatus (x : ServerSocket W L) : M.Quiet x.net x.refreshStatus.net :=
  Implements.socketStatus x.sockNum x.net

/-- A status that was just read is the one the hardware has. -/
theorem lastStatus_refreshStatus (x : ServerSocket W L) :
    x.refreshStatus.lastStatus = M.status (x.refreshStatus.hardware M) :=
  Implements.socketStatus_eq x.sockNum x.net

/-- The hardware socket is closed, and then its status is read. -/
theorem closeHardwareSocket_spec (x : ServerSocket W L) :
    ∃ s, M.Close (x.hardware M) s ∧ M.Advance s (x.closeHardwareSocket.hardware M) ∧
      x.closeHardwareSocket.lastStatus = M.status (x.closeHardwareSocket.hardware M) :=
  let y := { x with net := (Platform.closeSocket x.sockNum x.net).2 }
  ⟨y.hardware M, (Implements.closeSocket x.sockNum x.net).1, y.quiet_refreshStatus M x.sockNum,
    y.lastStatus_refreshStatus M⟩

/-- **What `BeginListening` does to the hardware**: it leaves the socket as it
is, or it closes it and then succeeds or fails to make it listen. -/
theorem beginListening_spec (x : ServerSocket W L) (has : x.hasSocket = true) :
    let y := x.beginListening.2
    (M.Advance (x.hardware M) (y.hardware M) ∧
      (y.lastStatus = M.status (y.hardware M) ∨ y.lastStatus = x.lastStatus)) ∨
    ∃ a b c, M.Advance (x.hardware M) a ∧ M.Close a b ∧ M.Advance b c ∧
      ((∃ d, M.Listen c d ∧ M.Advance d (y.hardware M) ∧
          y.lastStatus = M.status (y.hardware M)) ∨
        M.Refuse c (y.hardware M) ∧ y.lastStatus = M.status c) := by
  have hport : M.Quiet x.net x.askedListener := Implements.socketIsTcpListener x.sockNum x.net
  have hconn : M.Quiet x.net x.askedConnected :=
    hport.trans (Implements.socketIsInTcpConnectionLifecycle x.sockNum _)
  obtain ⟨b, hclose, hadv, hlast⟩ := closeHardwareSocket_spec M { x with net := x.askedConnected }
  generalize hr : x.beginListening = r
  cases hr ▸ x.beginListening_begin has with
  | already _ =>
    let y := { x with net := x.askedListener }
    exact .inl ⟨(hport.trans (y.quiet_refreshStatus M)) x.sockNum,
      .inl (y.lastStatus_refreshStatus M)⟩
  | busy _ => exact .inl ⟨hconn x.sockNum, .inr rfl⟩
  | listening hset =>
    let y := { x with net := x.setToListen.2 }
    have hinit : M.Acts x.sockNum M.Listen x.cleared.net x.setToListen.2 :=
      Implements.initializeTcpListenerSocket_true x.sockNum x.tcpPort x.cleared.net hset
    exact .inr ⟨_, b, _, hconn x.sockNum, hclose, hadv, .inl ⟨_, hinit.1,
      y.quiet_refreshStatus M x.sockNum, y.lastStatus_refreshStatus M⟩⟩
  | refused hset =>
    have hinit : M.Acts x.sockNum M.Refuse x.cleared.net x.setToListen.2 :=
      Implements.initializeTcpListenerSocket_false x.sockNum x.tcpPort x.cleared.net hset
    exact .inr ⟨_, b, _, hconn x.sockNum, hclose, hadv, .inr ⟨hinit.1, hlast⟩⟩

/-- What is left to do after the listener's program is no effect on the
hardware; if the listener closed the connection, the status is read once more. -/
theorem announce_quiet (kind : Bool → Callback) (p : Program ConnectionOp Reply L)
    (x : ServerSocket W L) :
    let s := (Serving.serve p x.sockNum x.net).2
    M.Quiet s.net (x.announce kind p).net ∧
      (s.closed = true → ∃ w, M.Quiet s.net w ∧ M.Quiet w (x.announce kind p).net ∧
        (x.announce kind p).lastStatus = M.status (M.socket w x.sockNum)) := by
  intro s
  let y := (x.serve kind p).1
  have hflush := s.conn.quiet_flush M y.detectListenerInitiatedDisconnect.net
  have hd : y.disconnectData.disconnected = s.closed := Serving.serve_disconnected p _ _
  by_cases hc : s.closed = true
  · have hy : y.detectListenerInitiatedDisconnect = y.refreshStatus := if_pos (hd.trans hc)
    have hread : M.Quiet s.net y.detectListenerInitiatedDisconnect.net :=
      hy ▸ quiet_refreshStatus M y
    refine ⟨hread.trans hflush, fun _ => ⟨_, hread, hflush, ?_⟩⟩
    show y.detectListenerInitiatedDisconnect.lastStatus = _
    rw [hy]
    exact lastStatus_refreshStatus M y
  · have hy : y.detectListenerInitiatedDisconnect = y :=
      if_neg (by rw [hd]; exact hc)
    rw [hy] at hflush
    refine ⟨?_, fun h => absurd h hc⟩
    show M.Quiet s.net (s.conn.flush y.detectListenerInitiatedDisconnect.net).2
    rw [hy]
    exact hflush

/-- `HandleCloseWait` closing the connection, as far as the hardware is
concerned: first as in `close`, then the clock and the status are read, the
listener is told, and the connection is destroyed. -/
theorem endHalfClosed_spec [ServerSocketListener L] (x : ServerSocket W L) :
    ∃ v, M.Disconnects x.sockNum x.net v ∧ M.Quiet v x.halfClosed.net ∧
      M.Quiet x.halfClosed.net x.endHalfClosed.net ∧
      x.endHalfClosed.lastStatus = M.status (x.halfClosed.hardware M) ∧
      x.endHalfClosed.disconnectData = (DisconnectData.reset.recordDisconnect v).1 := by
  let conn := TcpServerConnection.new (W := W) x.sockNum
  obtain ⟨hdata, hsock, hdis⟩ := conn.startDisconnect_spec M x.net
  have hclock : M.Quiet (conn.startDisconnect x.net).2 (conn.close x.net).2 :=
    DisconnectData.quiet_recordDisconnect M _ _
  refine ⟨(conn.startDisconnect x.net).2, hdis,
    hclock.trans (Implements.socketStatus x.sockNum _), TcpServerConnection.quiet_flush M _ _,
    Implements.socketStatus_eq x.sockNum _, ?_⟩
  show (DisconnectData.recordDisconnect (conn.startDisconnect x.net).1.disconnectData _).1 = _
  rw [hdata]
  rfl

theorem quiet_asked (x : ServerSocket W L) : M.Quiet x.net x.asked.net :=
  (Implements.ethernetClient x.sockNum).available x.net

/-- Noticing the loss of a connection at most reads the clock. -/
theorem quiet_noticeLoss [ServerSocketListener L] (x : ServerSocket W L) :
    M.Quiet x.net x.noticeLoss.net := by
  rcases x.noticeLoss_cases with ⟨-, heq⟩ | ⟨-, -, -, hnet, -⟩
  · rw [heq]
    exact Quiet.refl _
  · rw [hnet]
    exact DisconnectData.quiet_recordDisconnect M _ _

end ServerSocket

/-! ### The lifecycle of a TCP server -/

/-- A W5500 socket that serves TCP, seen from a program that it does not
overtake: the status only changes between the calls and by them.  A closed
socket can be made to listen, and after a disconnect an open one is no longer
open. -/
def lifecycle : SocketMachine where
  State := UInt8
  status := id
  Advance := Eq
  Listen a b := a = SnSR.closed → b = SnSR.listen
  Refuse a b := a = SnSR.closed → b = SnSR.closed
  Disconnect a b := statusIsOpen a = true → statusIsClosing b = true ∨ b = SnSR.closed
  Close _ b := b = SnSR.closed
  advance_refl _ := rfl
  advance_trans := Eq.trans
  listen_of_advance h hl ha := hl (h ▸ ha)
  refuse_of_advance h ha := h ▸ ha

end McuNet
