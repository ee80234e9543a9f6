/-
# A hardware socket that does not wait

`src/server_socket.h` and `extras/host/ethernet5500/host_socket_info.cpp`.

The peer and the chip do not stop while a program runs: a socket that was just
put into `LISTEN` may be `ESTABLISHED` when its status is next read, and on the
host the status read itself accepts a pending connection.  `link` is a hardware
socket whose status may change during every call.  What it is used for (`Use`)
is kept apart from the status byte, which is only tied to it where it matters: an
open status means a connection, a closing one a connection that
`DisconnectSocket` was called for, and `CLOSED` that the socket is not in use.
The connections of a socket are numbered as they are established.

`Settled` is the part that does not change by itself: a socket that is not
listening keeps its connection or drops it, and gets no new one.
-/

import McuNet.Server.Hardware
import McuNet.Server.Moves

namespace McuNet

/-- What a hardware socket is used for.  `disconnecting`: `DisconnectSocket` was
called on this connection. -/
inductive Use where
  | idle
  | armed
  | conn (disconnecting : Bool)
  deriving DecidableEq

/-- A hardware socket: the status it reports, its use, how many connections were
established on it so far, and how often it was closed with `CloseSocket`. -/
structure Link where
  status : UInt8
  use : Use
  serial : ℕ := 0
  closes : ℕ := 0
  conn_of_open : statusIsOpen status = true → ∃ d, use = .conn d
  disconnecting_of_closing : statusIsClosing status = true → use = .conn true
  idle_of_closed : status = SnSR.closed → use = .idle

namespace Link

/-- A socket that is not in use. -/
def unused (serial closes : ℕ) : Link where
  status := SnSR.closed
  use := .idle
  serial := serial
  closes := closes
  conn_of_open h := absurd h Bool.false_ne_true
  disconnecting_of_closing h := absurd h Bool.false_ne_true
  idle_of_closed _ := rfl

/-- A socket that listens. -/
def listening (serial closes : ℕ) : Link where
  status := SnSR.listen
  use := .armed
  serial := serial
  closes := closes
  conn_of_open h := absurd h (by decide)
  disconnecting_of_closing h := absurd h (by decide)
  idle_of_closed h := absurd h (by decide)

/-- A connection with an open status. -/
def connected (status : UInt8) (h : statusIsOpen status = true) (disconnecting : Bool)
    (serial closes : ℕ) : Link where
  status := status
  use := .conn disconnecting
  serial := serial
  closes := closes
  conn_of_open _ := ⟨disconnecting, rfl⟩
  disconnecting_of_closing hc := absurd ((statusIsOpen_of_closing hc).symm.trans h) (by decide)
  idle_of_closed hc := absurd (hc ▸ h) (by decide)

/-- A connection that is closing after `DisconnectSocket`. -/
def finishing (serial closes : ℕ) : Link where
  status := SnSR.finWait
  use := .conn true
  serial := serial
  closes := closes
  conn_of_open h := absurd h (by decide)
  disconnecting_of_closing _ := rfl
  idle_of_closed h := absurd h (by decide)

/-- What happens to a socket by itself: its status changes, its connection or its
listening ends, or a peer connects to a listening socket. -/
inductive Advance (a b : Link) : Prop where
  | same (use : b.use = a.use) (serial : b.serial = a.serial) (closes : b.closes = a.closes)
  | dropped (use : b.use = .idle) (serial : b.serial = a.serial) (closes : b.closes = a.closes)
  | accepted (armed : a.use = .armed) (use : b.use = .conn false ∨ b.use = .idle)
      (serial : b.serial = a.serial + 1) (closes : b.closes = a.closes)

theorem Advance.trans {a b c : Link} (h : Advance a b) (h' : Advance b c) : Advance a c := by
  cases h with
  | same hu hs hc =>
    cases h' with
    | same hu' hs' hc' => exact .same (hu'.trans hu) (hs'.trans hs) (hc'.trans hc)
    | dropped hu' hs' hc' => exact .dropped hu' (hs'.trans hs) (hc'.trans hc)
    | accepted harmed hu' hs' hc' =>
      exact .accepted (hu.symm.trans harmed) hu' (by rw [hs', hs]) (hc'.trans hc)
  | dropped hu hs hc =>
    cases h' with
    | same hu' hs' hc' => exact .dropped (hu'.trans hu) (hs'.trans hs) (hc'.trans hc)
    | dropped hu' hs' hc' => exact .dropped hu' (hs'.trans hs) (hc'.trans hc)
    | accepted harmed _ _ _ => exact absurd (hu.symm.trans harmed) nofun
  | accepted harmed hu hs hc =>
    cases h' with
    | same hu' hs' hc' =>
      exact .accepted harmed (hu.imp hu'.trans hu'.trans) (hs'.trans hs) (hc'.trans hc)
    | dropped hu' hs' hc' => exact .accepted harmed (.inr hu') (hs'.trans hs) (hc'.trans hc)
    | accepted harmed' _ _ _ =>
      rcases hu with hu | hu
      · exact absurd (hu.symm.trans harmed') nofun
      · exact absurd (hu.symm.trans harmed') nofun

/-- The number of a connection only grows. -/
theorem Advance.serial_le {a b : Link} (h : Advance a b) : a.serial ≤ b.serial := by
  cases h with
  | same _ hs _ => exact hs.ge
  | dropped _ hs _ => exact hs.ge
  | accepted _ _ hs _ => omega

/-- Nobody else closes the socket. -/
theorem Advance.closes_eq {a b : Link} (h : Advance a b) : b.closes = a.closes := by
  cases h with
  | same _ _ hc => exact hc
  | dropped _ _ hc => exact hc
  | accepted _ _ _ hc => exact hc

/-- The socket was set to listen, and may have a connection already. -/
def Listen (a b : Link) : Prop :=
  ∃ c : Link, c.use = .armed ∧ a.serial ≤ c.serial ∧ c.closes = a.closes ∧ Advance c b

/-- Only an existing connection can be disconnected; it may stay open for a
while. -/
def Disconnect (a b : Link) : Prop :=
  Advance a b ∨ ∃ c : Link, Advance a c ∧ (∃ d, c.use = .conn d) ∧ b.use = .conn true ∧
    b.serial = c.serial ∧ b.closes = c.closes

/-- Closing ends whatever there is, and is counted. -/
def Close (a b : Link) : Prop :=
  b.use = .idle ∧ a.serial ≤ b.serial ∧ b.closes = a.closes + 1

/-- A socket that is not in use stays so by itself, and is not open. -/
theorem Advance.idle {a b : Link} (h : Advance a b) (ha : a.use = .idle) : b.use = .idle := by
  cases h with
  | same hu _ _ => exact hu.trans ha
  | dropped hu _ _ => exact hu
  | accepted harmed _ _ _ => exact absurd (ha.symm.trans harmed) nofun

/-- A socket that is not in use has no open status. -/
theorem notOpen_of_idle {a : Link} (h : a.use = .idle) : statusIsOpen a.status = false := by
  by_contra ho
  obtain ⟨d, hd⟩ := a.conn_of_open (by simpa using ho)
  exact absurd (h.symm.trans hd) nofun

/-- A socket with an open connection does not listen. -/
theorem ne_armed_of_open {a : Link} (h : statusIsOpen a.status = true) : a.use ≠ .armed := by
  obtain ⟨d, hd⟩ := a.conn_of_open h
  rw [hd]
  exact nofun

/-- No new connection can come, and none has come. -/
def Settled (a b : Link) : Prop :=
  a.use ≠ .armed → b.use ≠ .armed ∧ b.serial = a.serial

theorem Settled.refl (a : Link) : Settled a a := fun h => ⟨h, rfl⟩

theorem Settled.trans {a b c : Link} (h : Settled a b) (h' : Settled b c) : Settled a c := by
  intro ha
  obtain ⟨hb, hs⟩ := h ha
  obtain ⟨hc, hs'⟩ := h' hb
  exact ⟨hc, hs'.trans hs⟩

/-- By itself only a listening socket gets a connection. -/
theorem Advance.settled {a b : Link} (h : Advance a b) : Settled a b := by
  intro ha
  cases h with
  | same hu hs _ => exact ⟨hu ▸ ha, hs⟩
  | dropped hu hs _ => exact ⟨hu ▸ nofun, hs⟩
  | accepted harmed _ _ _ => exact absurd harmed ha

/-- Disconnecting brings no new connection. -/
theorem Disconnect.settled {a b : Link} (h : Disconnect a b) : Settled a b := by
  rcases h with h | ⟨c, hadv, -, hu, hs, -⟩
  · exact h.settled
  · exact fun ha => ⟨hu ▸ nofun, hs.trans (hadv.settled ha).2⟩

/-- `b` comes after `a`: connections are only added, and one that has the number
of `a` was there in `a`. -/
structure Later (a b : Link) : Prop where
  serial : a.serial ≤ b.serial
  conn : ∀ d, b.use = .conn d → b.serial = a.serial → ∃ e, a.use = .conn e

theorem Later.refl (a : Link) : Later a a := ⟨le_rfl, fun d h _ => ⟨d, h⟩⟩

theorem Later.trans {a b c : Link} (h : Later a b) (h' : Later b c) : Later a c := by
  refine ⟨h.serial.trans h'.serial, fun d hd hs => ?_⟩
  have hle := h.serial
  have hle' := h'.serial
  obtain ⟨e, he⟩ := h'.conn d hd (by omega)
  exact h.conn e he (by omega)

/-- What happens by itself adds connections only. -/
theorem Advance.later {a b : Link} (h : Advance a b) : Later a b := by
  refine ⟨h.serial_le, fun d hd hs => ?_⟩
  cases h with
  | same hu _ _ => exact ⟨d, hu.symm.trans hd⟩
  | dropped hu _ _ => exact absurd (hu.symm.trans hd) nofun
  | accepted _ _ hs' _ => omega

/-- Listening ends the connection there is, and later ones are new. -/
theorem Listen.later {a b : Link} (h : Listen a b) : Later a b := by
  obtain ⟨c, harmed, hs, -, hadv⟩ := h
  have hle := hadv.serial_le
  refine ⟨hs.trans hle, fun d hd heq => ?_⟩
  obtain ⟨e, he⟩ := hadv.later.conn d hd (by omega)
  exact absurd (harmed.symm.trans he) nofun

/-- Disconnecting leaves at most the connection there is. -/
theorem Disconnect.later {a b : Link} (h : Disconnect a b) : Later a b := by
  rcases h with h | ⟨c, hadv, ⟨e, he⟩, -, hs, -⟩
  · exact h.later
  · exact hadv.later.trans ⟨hs.ge, fun _ _ _ => ⟨e, he⟩⟩

/-- Closing leaves none. -/
theorem Close.later {a b : Link} (h : Close a b) : Later a b :=
  ⟨h.2.1, fun _ hd _ => absurd (h.1.symm.trans hd) nofun⟩

end Link

/-- A hardware socket whose peers and chip go on during every call. -/
def link : SocketMachine where
  State := Link
  status := Link.status
  Advance := Link.Advance
  Listen := Link.Listen
  Refuse := Link.Advance
  Disconnect := Link.Disconnect
  Close := Link.Close
  advance_refl _ := .same rfl rfl rfl
  advance_trans := Link.Advance.trans
  listen_of_advance := by
    rintro a b c h ⟨d, hd, hs, hc, hadv⟩
    exact ⟨d, hd, h.serial_le.trans hs, hc.trans h.closes_eq, hadv⟩
  refuse_of_advance h := h

/-- **What every effect of a machine respects, every call of the platform respects** for every
socket. -/
theorem SocketMachine.platformMoves (M : SocketMachine) {W : Type*} [Platform W] [Implements M W]
    {S : M.State → M.State → Prop} (refl : ∀ a, S a a)
    (trans : ∀ {a b c}, S a b → S b c → S a c) (advance : ∀ {a b}, M.Advance a b → S a b)
    (listen : ∀ {a b}, M.Listen a b → S a b) (refuse : ∀ {a b}, M.Refuse a b → S a b)
    (disconnect : ∀ {a b}, M.Disconnect a b → S a b) (close : ∀ {a b}, M.Close a b → S a b) :
    PlatformMoves fun w w' : W => ∀ n, S (M.socket w n) (M.socket w' n) :=
  have quiet : ∀ {w w' : W}, M.Quiet w w' → ∀ n, S (M.socket w n) (M.socket w' n) :=
    fun h n => advance (h n)
  have acts : ∀ {m : UInt8} {T : M.State → M.State → Prop} {w w' : W}, (∀ {a b}, T a b → S a b) →
      M.Acts m T w w' → ∀ n, S (M.socket w n) (M.socket w' n) := by
    intro m T w w' hT h n
    by_cases hn : n = m
    · exact hn ▸ hT h.1
    · exact advance (h.2 n hn)
  { refl := fun _ n => refl _
    trans := fun h h' n => trans (h n) (h' n)
    findUnusedSocket := fun w => quiet (Implements.findUnusedSocket w)
    socketIsTcpListener := fun n w => quiet (Implements.socketIsTcpListener n w)
    socketIsInTcpConnectionLifecycle := fun n w =>
      quiet (Implements.socketIsInTcpConnectionLifecycle n w)
    socketStatus := fun n w => quiet (Implements.socketStatus n w)
    initializeTcpListenerSocket := by
      intro n port w
      cases h : (Platform.initializeTcpListenerSocket n port w).1 with
      | true => exact acts listen (Implements.initializeTcpListenerSocket_true n port w h)
      | false => exact acts refuse (Implements.initializeTcpListenerSocket_false n port w h)
    disconnectSocket := fun n w => acts disconnect (Implements.disconnectSocket n w)
    closeSocket := fun n w => acts close (Implements.closeSocket n w)
    ethernetClient := fun n =>
      have h := Implements.ethernetClient (M := M) (W := W) n
      { write := fun p size w => quiet (h.write p size w)
        getWriteError := fun w => quiet (h.getWriteError w)
        available := fun w => quiet (h.available w)
        read := fun w => quiet (h.read w)
        readBuf := fun size w => quiet (h.readBuf size w)
        peek := fun w => quiet (h.peek w)
        connected := fun w => quiet (h.connected w) }
    millis := fun w => quiet (Implements.millis w)
    elapsedMillis := fun t w => quiet (Implements.elapsedMillis t w) }

section Sockets

variable {W L : Type*} [Platform W] [Implements link W]

/-- Hardware socket `n` as a link. -/
def linkOf (w : W) (n : UInt8) : Link := link.socket w n

/-- A quiet step is one of each hardware socket by itself. -/
theorem advance_of_quiet {w w' : W} (h : link.Quiet w w') (n : UInt8) :
    Link.Advance (linkOf w n) (linkOf w' n) := h n

/-- A quiet step brings no new connection to a socket that does not listen. -/
theorem settled_of_quiet {w w' : W} (h : link.Quiet w w') (n : UInt8) :
    Link.Settled (linkOf w n) (linkOf w' n) := (advance_of_quiet h n).settled

/-- Neither does a step in which the socket is disconnected. -/
theorem settled_of_disconnects {n : UInt8} {w w' : W} (h : link.Disconnects n w w') :
    Link.Settled (linkOf w n) (linkOf w' n) := by
  cases h with
  | skipped before _ after => exact (settled_of_quiet before n).trans (settled_of_quiet after n)
  | disconnected before _ effect after =>
    have hdis : Link.Disconnect _ _ := effect.1
    exact ((settled_of_quiet before n).trans hdis.settled).trans (settled_of_quiet after n)

/-- Every socket is later in `w'` than in `w`. -/
def LaterAll (w w' : W) : Prop := ∀ n, Link.Later (linkOf w n) (linkOf w' n)

/-- After a quiet step every hardware socket is later. -/
theorem laterAll_of_quiet {w w' : W} (h : link.Quiet w w') : LaterAll w w' :=
  fun n => (advance_of_quiet h n).later

/-- **Time goes on in every call.** -/
theorem platformMoves_later : PlatformMoves (LaterAll (W := W)) :=
  link.platformMoves Link.Later.refl Link.Later.trans Link.Advance.later Link.Listen.later
    Link.Advance.later Link.Disconnect.later Link.Close.later

/-- The connection that a callback is about: the hardware socket, and the number
of connections that had been established on it by then. -/
def Delivery.connection (e : Delivery W) : UInt8 × ℕ := (e.sockNum, (linkOf e.net e.sockNum).serial)

omit [Platform W] [Implements link W] in
/-- The delivery of an `OnConnect`. -/
def Delivery.announces (e : Delivery W) : Prop := ∃ closed, e.callback = .onConnect closed

/-- The connection on the hardware socket now. -/
def ServerSocket.connection (x : ServerSocket W L) : UInt8 × ℕ :=
  (x.sockNum, (linkOf x.net x.sockNum).serial)

/-- **No callback brings a new connection.** -/
theorem Serving.settled_serve {α : Type*} (p : Program ConnectionOp Reply α) (n : UInt8) (w : W) :
    Link.Settled (linkOf w n) (linkOf (serve p n w).2.net n) := by
  let I : Serving W → Prop := fun s => s.conn.sockNum = n ∧ Link.Settled (linkOf w n) (linkOf s.net n)
  have hI : I (serve p n w).2 := by
    refine serve_machine link p ?_ ?_ ⟨rfl, .refl _⟩
    · rintro s t hst ⟨hn, hs⟩
      exact ⟨hst.sockNum.trans hn, hs.trans (settled_of_quiet hst.net n)⟩
    · rintro s ⟨hn, hs⟩
      obtain ⟨hsock, -, v, hdis, hquiet, -⟩ := s.close_spec link
      exact ⟨hsock.trans hn, (hs.trans (settled_of_disconnects (hn ▸ hdis))).trans
        (settled_of_quiet hquiet n)⟩
  exact hI.2

namespace ServerSocket

/-- What `CloseHardwareSocket` leaves behind is not in use, and the remembered
status not open. -/
theorem closeHardwareSocket_idle (x : ServerSocket W L) :
    (linkOf x.closeHardwareSocket.net x.sockNum).use = .idle ∧
      statusIsOpen x.closeHardwareSocket.lastStatus = false := by
  obtain ⟨s, hclose, hadv, hlast⟩ := x.closeHardwareSocket_spec link
  have hidle : (linkOf x.closeHardwareSocket.net x.sockNum).use = .idle :=
    Link.Advance.idle hadv hclose.1
  exact ⟨hidle, hlast ▸ Link.notOpen_of_idle hidle⟩

/-- **What `BeginListening` leaves behind.**  An open status that it remembers is
the status of the socket; and from a socket that was not in use it makes at most
one that listens or has a new connection. -/
theorem beginListening_link (x : ServerSocket W L) (has : x.hasSocket = true)
    (hlast : statusIsOpen x.lastStatus = false) :
    let y := x.beginListening.2
    (statusIsOpen y.lastStatus = true → link.IsOpen y.net x.sockNum) ∧
      ((linkOf x.net x.sockNum).use = .idle → (linkOf y.net x.sockNum).use ≠ .conn true) := by
  intro y
  have hsock : y.sockNum = x.sockNum := (unseen_beginListening x).sockNum
  have hfresh : ∀ {a b : Link}, a.use = .armed → Link.Advance a b → b.use ≠ .conn true := by
    intro a b ha hadv
    cases hadv with
    | same hu _ _ => rw [hu, ha]; nofun
    | dropped hu _ _ => rw [hu]; nofun
    | accepted _ hu _ _ => rcases hu with hu | hu <;> rw [hu] <;> nofun
  have hnot : ∀ {a : Link}, a.use = .idle → a.use ≠ .conn true := fun h => h ▸ nofun
  have hspec := x.beginListening_spec link has
  simp only [hardware] at hspec
  rw [hsock] at hspec
  rcases hspec with ⟨hadv, h⟩ | ⟨a, b, c, ha, hb, hc, ⟨d, hlisten, hd, h⟩ | ⟨hrefuse, h⟩⟩
  · refine ⟨fun ho => ?_, fun hidle => hnot (Link.Advance.idle hadv hidle)⟩
    rcases h with h | h
    · exact (congrArg statusIsOpen h).symm.trans ho
    · exact absurd ((congrArg statusIsOpen h).symm.trans ho) (by rw [hlast]; decide)
  · obtain ⟨e, harmed, -, -, he⟩ := hlisten
    exact ⟨fun ho => (congrArg statusIsOpen h).symm.trans ho, fun _ =>
      hfresh harmed (Link.Advance.trans he hd)⟩
  · have hcidle : Link.use c = .idle := Link.Advance.idle hc hb.1
    refine ⟨fun ho => ?_, fun _ => hnot (Link.Advance.idle hrefuse hcidle)⟩
    exact absurd ((congrArg statusIsOpen h).symm.trans ho) (by
      rw [show statusIsOpen (link.status c) = false from Link.notOpen_of_idle hcidle]; decide)

/-- **No callback brings a new connection**: the listener has the methods of the connection
only. -/
theorem settled_announce (kind : Bool → Callback) (p : Program ConnectionOp Reply L)
    (x : ServerSocket W L) :
    Link.Settled (linkOf x.net x.sockNum) (linkOf (x.announce kind p).net x.sockNum) :=
  (Serving.settled_serve p x.sockNum x.net).trans
    (settled_of_quiet (x.announce_quiet link kind p).1 x.sockNum)

end ServerSocket

end Sockets
end McuNet
