/-
# A server socket listens again

`ServerSocket::PerformIO` (`src/server_socket.cpp`) over the `#else` branches of
`src/platform_network.cpp`.

A connection ends in many ways, and a hardware socket may be found in a state in which a
server socket should not be.  Whatever the chip reports but a connection that is open or
being opened, and whatever the server socket remembers: if the peers are silent, and the
last connection ended more than five seconds ago, three polls are enough for the socket to
listen again.  Meanwhile the listener is told of the end of its connection, if it does not
know of it, and of nothing else (`listens_again`).
-/

import McuNet.Core.Run
import McuNet.Embedded.Pick

namespace McuNet

open EmbeddedNetwork

variable {C L : Type*} [Ethernet5500 C] [W5500 C]

namespace EmbeddedNetwork

/-- Time passes, and the peers are silent: the sockets of the chip stay as they are. -/
theorem same_millis (w : EmbeddedNetwork C) : Same w (Platform.millis w).2 :=
  ⟨W5500.millis w.chip, rfl⟩

/-- Reading the clock changes no register. -/
theorem same_elapsedMillis (t : UInt32) (w : EmbeddedNetwork C) :
    Same w (Platform.elapsedMillis t w).2 :=
  ⟨W5500.elapsedMillis t w.chip, rfl⟩

end EmbeddedNetwork

namespace ServerSocket

/-! ### The branches of a poll -/

section Branches

variable {W : Type*} [Platform W] [ServerSocketListener L] {x : ServerSocket W L}

/-- The statuses that a TCP server does not have, for which the socket is closed. -/
def unexpectedStatuses : List UInt8 :=
  [SnSR.synSent, SnSR.udp, SnSR.ipRaw, SnSR.macRaw, SnSR.pppoe]

/-- A poll that finds an open connection gone. -/
theorem performIo_lost (has : x.hasSocket = true) (was : statusIsOpen x.lastStatus = true)
    (now : statusIsOpen x.refreshStatus.lastStatus = false) :
    x.performIo = x.refreshStatus.noticeLoss := by
  rw [performIo, if_pos has, dispatch, if_pos (by rw [was, now]; rfl)]

variable (has : x.hasSocket = true) (was : statusIsOpen x.lastStatus = false)

include has was

/-- A poll that finds the socket closed. -/
theorem performIo_closed (now : x.refreshStatus.lastStatus = SnSR.closed) :
    x.performIo = x.refreshStatus.beginListening.2 := by
  rw [performIo, if_pos has, dispatch, was, if_neg (by simp), if_pos now]

/-- A poll that finds it listening. -/
theorem performIo_listen (now : x.refreshStatus.lastStatus = SnSR.listen) :
    x.performIo = x.refreshStatus := by
  rw [performIo, if_pos has, dispatch, was, if_neg (by simp), now, if_neg (by decide), if_pos rfl]

/-- A poll that finds it initialised: the second one in a row closes it. -/
theorem performIo_init (now : x.refreshStatus.lastStatus = SnSR.init) :
    x.performIo =
      if x.lastStatus = SnSR.init then x.refreshStatus.closeHardwareSocket
      else x.refreshStatus := by
  rw [performIo, if_pos has, dispatch, was, if_neg (by simp), now, if_neg (by decide),
    if_neg (by decide), if_neg (by decide), if_neg (by decide), if_neg (by decide),
    if_neg (by decide), if_pos rfl]

/-- A poll that finds it in a status that a server does not come to. -/
theorem performIo_unexpected (now : x.refreshStatus.lastStatus ∈ unexpectedStatuses) :
    x.performIo = x.refreshStatus.closeHardwareSocket := by
  have hother : x.refreshStatus.lastStatus = SnSR.synSent ∨
      x.refreshStatus.lastStatus = SnSR.udp ∨ x.refreshStatus.lastStatus = SnSR.ipRaw ∨
      x.refreshStatus.lastStatus = SnSR.macRaw ∨ x.refreshStatus.lastStatus = SnSR.pppoe := by
    simpa [unexpectedStatuses] using now
  have hne : ∀ s, s ∉ unexpectedStatuses → x.refreshStatus.lastStatus ≠ s :=
    fun s hs heq => hs (heq ▸ now)
  have hclosing : ¬(x.refreshStatus.lastStatus = SnSR.finWait ∨
      x.refreshStatus.lastStatus = SnSR.closing ∨ x.refreshStatus.lastStatus = SnSR.timeWait ∨
      x.refreshStatus.lastStatus = SnSR.lastAck) := by
    rintro (h | h | h | h)
    · exact hne _ (by decide) h
    · exact hne _ (by decide) h
    · exact hne _ (by decide) h
    · exact hne _ (by decide) h
  rw [performIo, if_pos has, dispatch, was, if_neg (by simp), if_neg (hne _ (by decide)),
    if_neg (hne _ (by decide)), if_neg (hne _ (by decide)), if_neg (hne _ (by decide)),
    if_neg (hne _ (by decide)), if_neg hclosing, if_neg (hne _ (by decide)), if_pos hother]

end Branches

/-! ### On the chip -/

variable (x : ServerSocket (EmbeddedNetwork C) L)

/-- The status register of the hardware socket. -/
def status : UInt8 := x.net.register x.sockNum

/-- A status read returns the register. -/
theorem refreshStatus_chip :
    Same x.net x.refreshStatus.net ∧ x.refreshStatus.lastStatus = x.status :=
  ⟨same_socketStatus _ _, (socketStatus_eq x.sockNum x.net).1⟩

/-- A hardware socket that is closed is remembered as closed. -/
theorem closeHardwareSocket_chip :
    x.closeHardwareSocket.status = SnSR.closed ∧
      x.closeHardwareSocket.lastStatus = SnSR.closed ∧
      x.closeHardwareSocket.net.serverPort = x.net.serverPort := by
  have hclosed : (closeSocket x.sockNum x.net).2.register x.sockNum = SnSR.closed := by
    show W5500.register (Ethernet5500.close x.sockNum x.net.chip) x.sockNum = _
    rw [W5500.close, Function.update_self]
  obtain ⟨hsame, hlast⟩ := refreshStatus_chip { x with net := (closeSocket x.sockNum x.net).2 }
  refine ⟨?_, hlast.trans hclosed, hsame.serverPort⟩
  exact (congrFun hsame.register x.sockNum).trans hclosed

/-- What `BeginListening` remembers when it succeeds is what the chip reports. -/
theorem lastStatus_beginListening (has : x.hasSocket = true) (h : x.beginListening.1 = true) :
    x.beginListening.2.lastStatus = x.beginListening.2.status := by
  have hread : ∀ w, (refreshStatus { x with net := w }).lastStatus =
      (refreshStatus { x with net := w }).status := by
    intro w
    obtain ⟨hsame, hlast⟩ := refreshStatus_chip { x with net := w }
    exact hlast.trans (congrFun hsame.register x.sockNum).symm
  generalize hr : x.beginListening = r at h
  cases hr ▸ x.beginListening_begin has with
  | already _ => exact hread _
  | busy _ => exact absurd h Bool.false_ne_true
  | listening _ => exact hread _
  | refused _ => exact absurd h Bool.false_ne_true

/-! ### One poll -/

/-- What the listener is still to be told if the connection is gone. -/
def owed : List Callback :=
  if statusIsOpen x.lastStatus && !x.disconnectData.disconnected then [.onDisconnect] else []

/-- How many polls it takes at most until the socket listens. -/
def distance : ℕ :=
  if x.status = SnSR.listen then if x.lastStatus = SnSR.listen then 0 else 1
  else (if x.status = SnSR.closed then 1 else 2) +
    if statusIsOpen x.lastStatus = true ∨ (x.status = SnSR.init ∧ x.lastStatus ≠ SnSR.init) then 1
    else 0

/-- The server socket has a hardware socket and a port other than `0`, and the socket is kept
for that port or for none.  The socket has no connection that is open or being opened.  If
it is closing and the server socket takes it to be open no more, the end of the connection
is recorded, with its time (`disconnectData`). -/
structure Recovering : Prop where
  hasSocket : x.hasSocket = true
  tcpPort : x.tcpPort ≠ 0
  kept : x.net.serverPort x.sockNum = x.tcpPort ∨ x.net.serverPort x.sockNum = 0
  status : x.status = SnSR.closed ∨ x.status = SnSR.listen ∨ x.status = SnSR.init ∨
    x.status ∈ unexpectedStatuses ∨ statusIsClosing x.status = true
  recorded : statusIsClosing x.status = true → statusIsOpen x.lastStatus = false →
    x.disconnectData.disconnected = true

/-- A poll that finds the socket closing, with the end of the connection recorded, is made
more than five seconds after the recorded time. -/
def Late : Prop :=
  statusIsClosing x.status = true → statusIsOpen x.lastStatus = false →
    5000 < (x.disconnectData.elapsedDisconnectTime x.refreshStatus.net).1

/-- What one poll comes to. -/
structure Nearer [ServerSocketListener L] (x y : ServerSocket (EmbeddedNetwork C) L) : Prop where
  recovering : y.Recovering
  distance : y.distance ≤ x.distance - 1
  told : y.callbacks ++ y.owed = x.callbacks ++ x.owed

variable {x}

omit [Ethernet5500 C] [W5500 C] in
/-- Nothing is owed for a connection that is not taken to be open. -/
theorem owed_of_notOpen (h : statusIsOpen x.lastStatus = false) : x.owed = [] := by
  rw [owed, h]
  rfl

/-- The hardware socket is not open. -/
theorem Recovering.notOpen (h : x.Recovering) : statusIsOpen x.status = false := by
  rcases h.status with h | h | h | h | h
  · rw [h]
    rfl
  · rw [h]
    rfl
  · rw [h]
    rfl
  · have hnot : unexpectedStatuses.all (fun s => !statusIsOpen s) = true := rfl
    simpa using List.all_eq_true.1 hnot _ h
  · exact statusIsOpen_of_closing h

/-- A socket that was closed is one poll from listening. -/
theorem nearer_closed [ServerSocketListener L] (h : x.Recovering)
    (was : statusIsOpen x.lastStatus = false) (hx : 2 ≤ x.distance)
    {y : ServerSocket (EmbeddedNetwork C) L} (hy : Unseen x y) (hstatus : y.status = SnSR.closed)
    (hlast : y.lastStatus = SnSR.closed) (hports : y.net.serverPort = x.net.serverPort) :
    Nearer x y := by
  have hnotOpen : statusIsOpen y.lastStatus = false := hlast ▸ rfl
  refine ⟨⟨hy.hasSocket.trans h.hasSocket, hy.tcpPort ▸ h.tcpPort, ?_, .inl hstatus, ?_⟩, ?_, ?_⟩
  · rw [hports, hy.sockNum, hy.tcpPort]
    exact h.kept
  · rw [hstatus]
    exact fun hclosing => absurd hclosing (by decide)
  · have hone : y.distance = 1 := by
      rw [distance, hstatus, hlast, if_neg (by decide), if_pos rfl, if_neg (by decide)]
    omega
  · rw [hy.callbacks, owed_of_notOpen hnotOpen, owed_of_notOpen was]

/-- **A connection that is gone is noticed.** -/
theorem nearer_lost [ServerSocketListener L] (h : x.Recovering)
    (was : statusIsOpen x.lastStatus = true) : Nearer x x.performIo := by
  obtain ⟨hsame, hlast⟩ := x.refreshStatus_chip
  rw [performIo_lost h.hasSocket was (hlast ▸ h.notOpen)]
  have hstatus : x.refreshStatus.status = x.status := congrFun hsame.register x.sockNum
  set y := x.refreshStatus.noticeLoss with hy
  have hfacts : y.sockNum = x.sockNum ∧ y.tcpPort = x.tcpPort ∧ Same x.net y.net ∧
      y.lastStatus = x.status ∧ y.disconnectData.disconnected = true ∧
      y.callbacks = x.callbacks ++ x.owed := by
    rcases x.refreshStatus.noticeLoss_cases with ⟨hdis, heq⟩ | ⟨hdis, hdata, hl, hnet, htold⟩
    · rw [hy, heq]
      have howed : x.owed = [] := by
        have hx : x.disconnectData.disconnected = true := hdis
        rw [owed, hx, was]
        rfl
      exact ⟨rfl, rfl, hsame, hlast, hdis, by rw [howed, List.append_nil]; rfl⟩
    · have hx : x.disconnectData.disconnected = false := hdis
      have howed : x.owed = [.onDisconnect] := by
        rw [owed, hx, was]
        rfl
      have hclock : Same x.refreshStatus.net y.net := by
        rw [hy, hnet, recordDisconnect, DisconnectData.recordDisconnect,
          if_neg (by rw [hdis]; exact Bool.false_ne_true)]
        exact same_millis _
      refine ⟨htold.sockNum, htold.tcpPort, hsame.trans hclock, hl.trans hlast, ?_, ?_⟩
      · rw [hy, hdata]
        exact DisconnectData.recordDisconnect_disconnected _ _
      · rw [howed]
        exact htold.callbacks
  obtain ⟨hsock, hport, hnet, hl, hdis, hcallbacks⟩ := hfacts
  have hysame : y.status = x.status := by
    rw [status, status, hnet.register, hsock]
  have hnotOpen : statusIsOpen y.lastStatus = false := hl ▸ h.notOpen
  refine ⟨⟨?_, hport ▸ h.tcpPort, ?_, hysame ▸ h.status, fun _ _ => hdis⟩, ?_, ?_⟩
  · rw [hasSocket, hsock]
    exact h.hasSocket
  · rw [hnet.serverPort, hsock, hport]
    exact h.kept
  · have hno : ¬(statusIsOpen y.lastStatus = true ∨
        (y.status = SnSR.init ∧ y.lastStatus ≠ SnSR.init)) := by
      rintro (hopen | ⟨hinit, hne⟩)
      · exact absurd (hnotOpen.symm.trans hopen) Bool.false_ne_true
      · exact hne (hl.trans (hysame.symm.trans hinit))
    have hlisten : x.lastStatus ≠ SnSR.listen := fun heq => absurd was (by rw [heq]; decide)
    rw [distance, distance, if_neg hno, hysame, hl, if_pos (Or.inl was)]
    split_ifs
    · exact Nat.zero_le _
    · rfl
    · rfl
  · rw [hcallbacks, owed_of_notOpen hnotOpen, List.append_nil]

/-- **A socket that is closed is set to listen.** -/
theorem nearer_beginListening [ServerSocketListener L] (h : x.Recovering)
    (was : statusIsOpen x.lastStatus = false) (now : x.status = SnSR.closed) :
    Nearer x x.performIo := by
  obtain ⟨hsame, hlast⟩ := x.refreshStatus_chip
  rw [performIo_closed h.hasSocket was (hlast.trans now)]
  have hclosed : x.refreshStatus.net.register x.refreshStatus.sockNum = SnSR.closed :=
    (congrFun hsame.register x.sockNum).trans now
  have hkept : x.refreshStatus.net.serverPort x.refreshStatus.sockNum = x.tcpPort ∨
      x.refreshStatus.net.serverPort x.refreshStatus.sockNum = 0 := by
    rw [hsame.serverPort]
    exact h.kept
  rcases x.refreshStatus.beginListening_closed h.hasSocket hclosed h.tcpPort with
    ⟨-, hyes, hreg, hports⟩ | ⟨hno, -⟩
  · have hunseen := unseen_beginListening x.refreshStatus
    have hlistens := x.refreshStatus.lastStatus_beginListening h.hasSocket hyes
    set y := x.refreshStatus.beginListening.2
    have hstatus : y.status = SnSR.listen := by
      rw [status, hreg, hunseen.sockNum, Function.update_self]
    have hy : y.lastStatus = SnSR.listen := hlistens.trans hstatus
    have hnotOpen : statusIsOpen y.lastStatus = false := hy ▸ rfl
    refine ⟨⟨?_, ?_, ?_, .inr (.inl hstatus), ?_⟩, ?_, ?_⟩
    · exact hunseen.hasSocket.trans h.hasSocket
    · exact hunseen.tcpPort ▸ h.tcpPort
    · rw [hports, hunseen.sockNum, Function.update_self, hunseen.tcpPort]
      exact .inl rfl
    · rw [hstatus]
      exact fun hclosing => absurd hclosing (by decide)
    · have hzero : y.distance = 0 := by rw [distance, if_pos hstatus, if_pos hy]
      exact hzero ▸ Nat.zero_le _
    · rw [owed_of_notOpen hnotOpen, owed_of_notOpen was, hunseen.callbacks]
      rfl
  · exact absurd hkept hno

/-- **One poll brings the socket nearer to listening.** -/
theorem nearer_performIo [ServerSocketListener L] (h : x.Recovering) (late : x.Late) :
    Nearer x x.performIo := by
  cases was : statusIsOpen x.lastStatus with
  | true => exact nearer_lost h was
  | false =>
    obtain ⟨hsame, hlast⟩ := x.refreshStatus_chip
    have hrefresh := unseen_refreshStatus x
    have hstatus : x.refreshStatus.status = x.status := congrFun hsame.register x.sockNum
    -- what a poll does that only reads the status
    have hread : x.refreshStatus.Recovering :=
      ⟨h.hasSocket, h.tcpPort, hsame.serverPort.symm ▸ h.kept, hstatus.symm ▸ h.status,
        fun hclosing _ => h.recorded (hstatus ▸ hclosing) was⟩
    have hnow : statusIsOpen x.refreshStatus.lastStatus = false := hlast ▸ h.notOpen
    have htold : x.refreshStatus.callbacks ++ x.refreshStatus.owed = x.callbacks ++ x.owed := by
      rw [owed_of_notOpen hnow, owed_of_notOpen was]
      rfl
    -- and a poll that closes the hardware socket
    have hclose : 2 ≤ x.distance → ∀ w, Same x.net w →
        Nearer x (closeHardwareSocket { x.refreshStatus with net := w }) := by
      intro hfar w hw
      obtain ⟨hclosed, hlastClosed, hports⟩ :=
        closeHardwareSocket_chip { x.refreshStatus with net := w }
      refine nearer_closed h was hfar ?_ hclosed hlastClosed (hports.trans hw.serverPort)
      exact ⟨rfl, rfl, rfl, rfl, rfl⟩
    rcases h.status with now | now | now | now | now
    · exact nearer_beginListening h was now
    · rw [performIo_listen h.hasSocket was (hlast.trans now)]
      refine ⟨hread, ?_, htold⟩
      have hzero : x.refreshStatus.distance = 0 := by
        rw [distance, hstatus, hlast, if_pos now, if_pos now]
      exact hzero ▸ Nat.zero_le _
    · rw [performIo_init h.hasSocket was (hlast.trans now)]
      split_ifs with hinit
      · refine hclose ?_ _ hsame
        rw [distance, now, if_neg (by decide), if_neg (by decide)]
        exact Nat.le_add_right _ _
      · have htwo : x.refreshStatus.distance = 2 := by
          rw [distance, hstatus, hlast, now, if_neg (by decide), if_neg (by decide),
            if_neg (by decide)]
        have hthree : x.distance = 3 := by
          rw [distance, now, if_neg (by decide), if_neg (by decide),
            if_pos (Or.inr ⟨rfl, hinit⟩)]
        exact ⟨hread, by omega, htold⟩
    · rw [performIo_unexpected h.hasSocket was (hlast.symm ▸ now)]
      refine hclose ?_ _ hsame
      have hne : ∀ s, s ∉ unexpectedStatuses → x.status ≠ s := fun s hs heq => hs (heq ▸ now)
      rw [distance, if_neg (hne _ (by decide)), if_neg (hne _ (by decide))]
      exact Nat.le_add_right _ _
    · rw [performIo_closing h.hasSocket was (hlast.symm ▸ now), detectCloseTimeout,
        if_pos (show x.refreshStatus.disconnectData.disconnected = true from h.recorded now was)]
      have hexpired : 5000 < (x.refreshStatus.disconnectData.elapsedDisconnectTime
        x.refreshStatus.net).1 := late now was
      dsimp only
      rw [if_pos hexpired]
      refine hclose ?_ _ (hsame.trans (same_elapsedMillis _ _))
      have hne : ∀ s, statusIsClosing s = false → x.status ≠ s :=
        fun s hs heq => absurd (hs.symm.trans (heq ▸ now)) Bool.false_ne_true
      rw [distance, if_neg (hne _ rfl), if_neg (hne _ rfl)]
      exact Nat.le_add_right _ _

/-! ### Polls -/

/-- The socket listens, and the server socket knows. -/
structure Listens (x : ServerSocket (EmbeddedNetwork C) L) : Prop where
  status : x.status = SnSR.listen
  lastStatus : x.lastStatus = SnSR.listen

variable (L) in
/-- A poll, as the only operation of a run. -/
def poll [ServerSocketListener L] (_ : Unit) (x : ServerSocket (EmbeddedNetwork C) L) :
    Option (Unit × ServerSocket (EmbeddedNetwork C) L) := some ((), x.performIo)

/-- The peers are silent between two polls. -/
def Silent (x y : ServerSocket (EmbeddedNetwork C) L) : Prop :=
  ∃ w, Same x.net w ∧ y = { x with net := w }

/-- **Three polls are enough.** -/
theorem distance_le_three (x : ServerSocket (EmbeddedNetwork C) L) : x.distance ≤ 3 := by
  unfold distance
  split_ifs <;> omega

/-- At distance `0` the socket listens. -/
theorem listens_of_distance (hx : x.distance = 0) : x.Listens := by
  unfold distance at hx
  split_ifs at hx with hstatus hlast
  all_goals first | exact ⟨hstatus, hlast⟩ | omega

/-- Silence keeps it that way, and brings the end no nearer. -/
theorem Recovering.silent {y : ServerSocket (EmbeddedNetwork C) L} (h : x.Recovering)
    (hy : Silent x y) : y.Recovering ∧ y.distance = x.distance ∧ y.callbacks ++ y.owed =
      x.callbacks ++ x.owed := by
  obtain ⟨w, hw, rfl⟩ := hy
  have hstatus : ServerSocket.status { x with net := w } = x.status :=
    congrFun hw.register x.sockNum
  refine ⟨⟨h.hasSocket, h.tcpPort, hw.serverPort.symm ▸ h.kept, hstatus.symm ▸ h.status, ?_⟩, ?_,
    rfl⟩
  · exact fun hclosing => h.recorded (hstatus ▸ hclosing)
  · rw [ServerSocket.distance, hstatus]
    rfl

/-- **A server socket listens again.**  From any state in which its hardware socket, kept for
its port or for none, is neither open nor being opened and the end of a connection that is
closing is recorded, with the peers silent and each poll that finds the socket closing later
than five seconds after that record: after three polls the socket listens, and the listener
has been told of the end of a connection that it took to be open, and of nothing else. -/
theorem listens_again [ServerSocketListener L] {log : List (Unit × Unit)}
    {y : ServerSocket (EmbeddedNetwork C) L} (hx : x.Recovering)
    (h : Run (poll L) Silent (fun x _ => x.Late) x log y) (hlog : 3 ≤ log.length) :
    y.Listens ∧ y.callbacks = x.callbacks ++ x.owed := by
  let I : ServerSocket (EmbeddedNetwork C) L → Prop := fun z =>
    z.Recovering ∧ z.callbacks ++ z.owed = x.callbacks ++ x.owed
  obtain ⟨⟨hy, htold⟩, hleft⟩ : I y ∧ y.distance ≤ x.distance - log.length := by
    refine Run.progress (I := I) distance h ⟨hx, rfl⟩ ?_ ?_
    · rintro z _ r ⟨hz, htold⟩ hlate hr
      obtain rfl := Option.some.inj hr
      have hnearer := nearer_performIo hz hlate
      exact ⟨⟨hnearer.recovering, hnearer.told.trans htold⟩, hnearer.distance⟩
    · rintro z w ⟨hz, htold⟩ hzw
      obtain ⟨hw, hdistance, hkept⟩ := hz.silent hzw
      exact ⟨⟨hw, hkept.trans htold⟩, hdistance.le⟩
  have hfar := x.distance_le_three
  have hlistens : y.Listens := listens_of_distance (by omega)
  have hnotOpen : statusIsOpen y.lastStatus = false := hlistens.lastStatus ▸ rfl
  rw [owed_of_notOpen hnotOpen, List.append_nil] at htold
  exact ⟨hlistens, htold⟩

/-- One more poll, late enough. -/
theorem run_poll [ServerSocketListener L] {y : ServerSocket (EmbeddedNetwork C) L}
    {log : List (Unit × Unit)} (h : Run (poll L) Silent (fun x _ => x.Late) x log y)
    (late : y.Late) :
    Run (poll L) Silent (fun x _ => x.Late) x (log ++ [((), ())]) y.performIo :=
  h.call late rfl

/-- A connection that the chip has closed itself, which the server socket takes to be
open. -/
def aborted : ServerSocket (EmbeddedNetwork StatusChip) Scripted :=
  { accepted {} with net := (accepted {}).net.turns 0 SnSR.timeWait }

/-- Later, by so many milliseconds. -/
def after (millis : UInt32) (x : ServerSocket (EmbeddedNetwork StatusChip) Scripted) :
    ServerSocket (EmbeddedNetwork StatusChip) Scripted :=
  { x with net := { x.net with chip := { x.net.chip with clock := x.net.chip.clock + millis } } }

theorem silent_after (millis : UInt32) (x : ServerSocket (EmbeddedNetwork StatusChip) Scripted) :
    Silent x (x.after millis) := ⟨(x.after millis).net, ⟨rfl, rfl⟩, rfl⟩

/-- The first poll notices that the connection is gone, the second that it does not come to
an end, and the third sets the socket to listen. -/
theorem listens_again_aborted :
    let y := ((aborted.performIo.after 6000).performIo).performIo
    y.Listens ∧ y.callbacks = [.onConnect false, .onDisconnect] := by
  intro y
  have hx : aborted.Recovering := by
    refine ⟨by decide +kernel, by decide, .inl (by decide +kernel), ?_, ?_⟩
    · exact .inr (.inr (.inr (.inr (by decide +kernel))))
    · exact fun _ hclosed => absurd hclosed (by decide +kernel)
  have hopen : aborted.Late := fun _ hclosed => absurd hclosed (by decide +kernel)
  have hlate : (aborted.performIo.after 6000).Late := fun _ _ => by decide +kernel
  have hclosed : ((aborted.performIo.after 6000).performIo).Late :=
    fun hclosing => absurd hclosing (by decide +kernel)
  have hfirst := (run_poll .start hopen).outside (silent_after 6000 _)
  have hrun := run_poll (run_poll hfirst hlate) hclosed
  obtain ⟨hlistens, hcallbacks⟩ := listens_again hx hrun (by decide)
  refine ⟨hlistens, hcallbacks.trans ?_⟩
  decide +kernel

end ServerSocket
end McuNet
