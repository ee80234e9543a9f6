/-
# The close timeout

`ServerSocket::DetectCloseTimeout`, `src/disconnect_data.cpp` and
`TcpServerConnection::close`.

A socket that is closing is given five seconds, counted from the time in the
disconnect record, and is then closed by force.  The record is reset by every
new `TcpServerConnection` and set by `close`, by `PerformIO` and by
`SocketLost`, and it stays behind when a connection is over.  For the timeout to
be the right one, the record must be set, and by the present connection, whenever
a closing status is polled.

The hardware is a `link` here: it goes on during every call, and only a
connection that `DisconnectSocket` was called for can be closing.  The invariant
(`Times`) says of such a connection that either its end is recorded
(`RecordedFor`), or no disconnect is recorded and the remembered status is still
open, so that the next poll records it.
-/

import McuNet.Embedded.LiveChip

namespace McuNet

open SocketMachine

variable {W L : Type*} [Platform W] [Implements link W]

/-- **The end of the present connection of socket `n` is recorded**: the time in
the record is what the clock showed at a moment by which as many connections had
been established on the socket as have now. -/
def RecordedFor (data : DisconnectData W) (n : UInt8) (w : W) : Prop :=
  data.disconnected = true ∧ ∃ v, data.recordedIn = some v ∧
    data.disconnectTimeMillis = (Platform.millis v).1 ∧ (linkOf v n).serial = (linkOf w n).serial

/-- What may happen between two calls: the sockets go on by themselves, or other
code uses them for new connections. -/
def GoesOn (w w' : W) : Prop :=
  ∀ n, Link.Advance (linkOf w n) (linkOf w' n) ∨
    ((linkOf w n).serial < (linkOf w' n).serial ∧ (linkOf w' n).use ≠ .conn true)

theorem RecordedFor.of_serial {data : DisconnectData W} {n : UInt8} {w w' : W}
    (h : RecordedFor data n w) (hs : (linkOf w' n).serial = (linkOf w n).serial) :
    RecordedFor data n w' := by
  obtain ⟨hdis, v, hv, ht, hserial⟩ := h
  exact ⟨hdis, v, hv, ht, hserial.trans hs.symm⟩

/-- A connection that is being disconnected was so before, and is the same one. -/
theorem disconnecting_of_goesOn {w w' : W} {n : UInt8}
    (h : Link.Advance (linkOf w n) (linkOf w' n) ∨
      ((linkOf w n).serial < (linkOf w' n).serial ∧ (linkOf w' n).use ≠ .conn true))
    (hu : (linkOf w' n).use = .conn true) :
    (linkOf w n).use = .conn true ∧ (linkOf w' n).serial = (linkOf w n).serial := by
  rcases h with h | ⟨-, hno⟩
  · cases h with
    | same hu' hs _ => exact ⟨hu'.symm.trans hu, hs⟩
    | dropped hu' _ _ => exact absurd (hu'.symm.trans hu) nofun
    | accepted _ hu' _ _ =>
      rcases hu' with hu' | hu'
      · exact absurd (hu'.symm.trans hu) nofun
      · exact absurd (hu'.symm.trans hu) nofun
  · exact absurd hu hno

/-- Recording a disconnect on a socket that is not listening, in a state after
which no new connection came. -/
theorem recordedFor_recordDisconnect {data : DisconnectData W} {n : UInt8} {v w : W}
    (hno : data.disconnected = false) (hs : (linkOf w n).serial = (linkOf v n).serial) :
    RecordedFor (data.recordDisconnect v).1 n w := by
  rw [DisconnectData.recordDisconnect, if_neg (by rw [hno]; decide)]
  exact ⟨rfl, v, rfl, rfl, hs.symm⟩

/-! ### Callbacks -/

/-- **A callback in which the listener called `close` records the end of the
present connection**, however often it called it. -/
theorem Serving.recordedFor_serve {α : Type*} (p : Program ConnectionOp Reply α) {n : UInt8} {w : W}
    (harmed : (linkOf w n).use ≠ .armed) (hc : (serve p n w).2.closed = true) :
    RecordedFor (serve p n w).2.conn.disconnectData n (serve p n w).2.net := by
  let I : Serving W → Prop := fun s => s.conn.sockNum = n ∧ (linkOf s.net n).use ≠ .armed ∧
    (s.closed = false ∧ s.conn.disconnectData.disconnected = false ∨
      RecordedFor s.conn.disconnectData n s.net)
  have hI : I (serve p n w).2 := by
    refine serve_machine link p ?_ ?_ ⟨rfl, harmed, .inl ⟨rfl, rfl⟩⟩
    · rintro s t hst ⟨hn, hs, hrec⟩
      obtain ⟨ht, hserial⟩ := settled_of_quiet hst.net n hs
      refine ⟨hst.sockNum.trans hn, ht, ?_⟩
      rw [hst.data, hst.closed]
      exact hrec.imp id fun h => h.of_serial hserial
    · rintro s ⟨hn, hs, hrec⟩
      obtain ⟨hsock, -, v, hdis, hquiet, hdata⟩ := s.close_spec link
      obtain ⟨hv, hsv⟩ := settled_of_disconnects (hn ▸ hdis) hs
      obtain ⟨ht, hvt⟩ := settled_of_quiet hquiet n hv
      refine ⟨hsock.trans hn, ht, .inr ?_⟩
      rw [hdata]
      rcases hrec with ⟨-, hno⟩ | hrec
      · exact recordedFor_recordDisconnect hno hvt
      · rw [DisconnectData.recordDisconnect_of_disconnected hrec.1]
        exact hrec.of_serial (hvt.trans hsv)
  obtain ⟨-, -, ⟨hno, -⟩ | hrec⟩ := hI
  · exact absurd (hno.symm.trans hc) Bool.false_ne_true
  · exact hrec

namespace ServerSocket

/-! ### The invariant -/

/-- **A connection that is being disconnected is timed, or will be**: its end is
recorded, or the remembered status is open with no disconnect recorded. -/
def Times (x : ServerSocket W L) : Prop :=
  x.hasSocket = true → (linkOf x.net x.sockNum).use = .conn true →
    (x.disconnectData.disconnected = false ∧ statusIsOpen x.lastStatus = true) ∨
      RecordedFor x.disconnectData x.sockNum x.net

theorem Times.of_ne {x : ServerSocket W L} (h : (linkOf x.net x.sockNum).use ≠ .conn true) :
    x.Times := fun _ hu => absurd hu h

theorem Times.released {x : ServerSocket W L} (h : x.hasSocket = false) : x.Times :=
  fun has => absurd (h.symm.trans has) Bool.false_ne_true

/-- When the remembered status is not open, the end is recorded. -/
theorem Times.recorded {x : ServerSocket W L} (h : x.Times) (has : x.hasSocket = true)
    (hno : statusIsOpen x.lastStatus = false) (hu : (linkOf x.net x.sockNum).use = .conn true) :
    RecordedFor x.disconnectData x.sockNum x.net := by
  rcases h has hu with ⟨-, ho⟩ | hrec
  · exact absurd (hno.symm.trans ho) Bool.false_ne_true
  · exact hrec

/-- The hardware goes on. -/
theorem Times.outside {x : ServerSocket W L} (h : x.Times) {w : W} (hw : GoesOn x.net w) :
    Times { x with net := w } := by
  intro has hu
  obtain ⟨hu', hserial⟩ := disconnecting_of_goesOn (hw x.sockNum) hu
  exact (h has hu').imp id fun hrec => hrec.of_serial hserial

theorem goesOn_of_quiet {w w' : W} (h : link.Quiet w w') : GoesOn w w' :=
  fun n => .inl (advance_of_quiet h n)

/-- What is recorded stays recorded while nothing but the remembered status and
the hardware change. -/
theorem Times.of_recorded {x y : ServerSocket W L} (hu : Unseen x y)
    (hadv : link.Quiet x.net y.net) (h : (linkOf x.net x.sockNum).use = .conn true →
      RecordedFor x.disconnectData x.sockNum x.net) : y.Times := by
  intro _ huse
  rw [hu.sockNum] at huse ⊢
  obtain ⟨huse', hserial⟩ := disconnecting_of_goesOn (goesOn_of_quiet hadv x.sockNum) huse
  rw [hu.disconnectData]
  exact .inr ((h huse').of_serial hserial)

/-- A socket that was closed has no connection. -/
theorem times_closeHardwareSocket (x : ServerSocket W L) : x.closeHardwareSocket.Times := by
  refine .of_ne ?_
  rw [show (linkOf x.closeHardwareSocket.net x.closeHardwareSocket.sockNum).use = .idle from
    x.closeHardwareSocket_idle.1]
  nofun

/-- `DetectCloseTimeout` leaves the record alone. -/
theorem Times.detectCloseTimeout {x : ServerSocket W L}
    (h : (linkOf x.net x.sockNum).use = .conn true →
      RecordedFor x.disconnectData x.sockNum x.net) : x.detectCloseTimeout.Times := by
  have hclock : link.Quiet x.net (x.disconnectData.elapsedDisconnectTime x.net).2 :=
    Implements.elapsedMillis _ _
  simp only [ServerSocket.detectCloseTimeout]
  split_ifs
  · exact times_closeHardwareSocket _
  · exact .of_recorded (x := x) ⟨rfl, rfl, rfl, rfl, rfl⟩ hclock h
  · exact .of_recorded (x := x) (.refl x) (Quiet.refl _) h

/-- A callback on an open socket. -/
theorem times_announce (kind : Bool → Callback) (p : Program ConnectionOp Reply L)
    (x : ServerSocket W L) (hopen : statusIsOpen x.lastStatus = true)
    (harmed : (linkOf x.net x.sockNum).use ≠ .armed) : (x.announce kind p).Times := by
  obtain ⟨htold, hdis, hlast⟩ := x.announce_spec kind p
  intro _ _
  cases hc : (Serving.serve p x.sockNum x.net).2.closed with
  | false => exact .inl ⟨hdis.trans hc, (hlast hc).symm ▸ hopen⟩
  | true =>
    have hrec := Serving.recordedFor_serve p harmed hc
    have hs := Serving.settled_serve p x.sockNum x.net harmed
    have hq := settled_of_quiet (x.announce_quiet link kind p).1 x.sockNum hs.1
    have hdata : (x.announce kind p).disconnectData =
        (Serving.serve p x.sockNum x.net).2.conn.disconnectData :=
      (unseen_detectListenerInitiatedDisconnect (x.serve kind p).1).disconnectData
    rw [htold.sockNum, hdata]
    exact .inr (hrec.of_serial hq.2)

variable [ServerSocketListener L]

/-- Closing a half-closed connection records its end. -/
theorem times_endHalfClosed (x : ServerSocket W L)
    (harmed : (linkOf x.net x.sockNum).use ≠ .armed) : x.endHalfClosed.Times := by
  obtain ⟨v, hdis, hquiet, hdestroyed, -, hdata⟩ := x.endHalfClosed_spec link
  obtain ⟨hv, -⟩ := settled_of_disconnects hdis harmed
  obtain ⟨-, hs⟩ := settled_of_quiet (hquiet.trans hdestroyed) x.sockNum hv
  intro _ _
  rw [hdata]
  exact .inr (recordedFor_recordDisconnect rfl hs)

/-- Noticing a loss records it. -/
theorem times_noticeLoss (x : ServerSocket W L)
    (h : x.disconnectData.disconnected = true → (linkOf x.net x.sockNum).use = .conn true →
      RecordedFor x.disconnectData x.sockNum x.net) : x.noticeLoss.Times := by
  intro has hu
  rcases x.noticeLoss_cases with ⟨hdis, heq⟩ | ⟨hno, hdata, -, hnet, htold⟩
  · rw [heq] at hu ⊢
    exact .inr (h hdis hu)
  · have hsock : x.noticeLoss.sockNum = x.sockNum := htold.sockNum
    have hclock : link.Quiet x.net x.noticeLoss.net := x.quiet_noticeLoss link
    rw [hsock] at hu ⊢
    obtain ⟨-, hserial⟩ := disconnecting_of_goesOn (goesOn_of_quiet hclock x.sockNum) hu
    rw [hdata]
    exact .inr (recordedFor_recordDisconnect hno hserial)

/-- **A poll keeps the invariant.** -/
theorem Times.poll {x y : ServerSocket W L} (h : x.Times) (hp : x.Poll y) : y.Times := by
  have hquiet := x.quiet_refreshStatus link
  have hread : x.refreshStatus.hasSocket = true →
      (linkOf x.refreshStatus.net x.sockNum).use = .conn true →
      (x.disconnectData.disconnected = false ∧ statusIsOpen x.lastStatus = true) ∨
        RecordedFor x.disconnectData x.sockNum x.refreshStatus.net :=
    h.outside (goesOn_of_quiet hquiet)
  have hstatus := x.lastStatus_refreshStatus link
  have hrecorded (has : x.hasSocket = true) (was : statusIsOpen x.lastStatus = false)
      (hu : (linkOf x.refreshStatus.net x.sockNum).use = .conn true) :
      RecordedFor x.disconnectData x.sockNum x.refreshStatus.net := by
    rcases hread has hu with ⟨-, ho⟩ | hrec
    · exact absurd (was.symm.trans ho) Bool.false_ne_true
    · exact hrec
  have harmed (now : statusIsOpen x.refreshStatus.lastStatus = true) :
      (linkOf x.refreshStatus.net x.sockNum).use ≠ .armed :=
    Link.ne_armed_of_open ((congrArg statusIsOpen hstatus).symm.trans now)
  cases hp with
  | released has => exact h
  | lost has was now =>
    refine times_noticeLoss _ fun hdis hu => ?_
    rcases hread has hu with ⟨hno, -⟩ | hrec
    · exact absurd (hno.symm.trans hdis) Bool.false_ne_true
    · exact hrec
  | closed has was now =>
    have hidle : (linkOf x.refreshStatus.net x.sockNum).use = .idle :=
      Link.idle_of_closed _ (hstatus.symm.trans now)
    refine .of_ne ?_
    rw [(unseen_beginListening _).sockNum]
    exact (x.refreshStatus.beginListening_link has (congrArg statusIsOpen now)).2 hidle
  | listening has was _ =>
    exact .of_recorded (x := x.refreshStatus) ⟨rfl, rfl, rfl, rfl, rfl⟩ (Quiet.refl _)
      (hrecorded has was)
  | connected _ _ now => exact times_announce _ _ _ now (harmed now)
  | canRead _ _ now =>
    have hopen : statusIsOpen x.refreshStatus.lastStatus = true := congrArg statusIsOpen now
    exact times_announce _ _ _ hopen (harmed hopen)
  | closeWait _ _ now =>
    have hopen : statusIsOpen x.refreshStatus.lastStatus = true := congrArg statusIsOpen now
    have harmed' : (linkOf x.refreshStatus.asked.net x.sockNum).use ≠ .armed :=
      (settled_of_quiet (x.refreshStatus.quiet_asked link) x.sockNum (harmed hopen)).1
    rcases x.refreshStatus.handleCloseWait_cases with heq | heq
    · rw [heq]
      exact times_announce _ _ _ hopen harmed'
    · rw [heq]
      exact times_endHalfClosed _ harmed'
  | closing has was _ => exact .detectCloseTimeout (hrecorded has was)
  | stuck _ _ _ _ => exact times_closeHardwareSocket _
  | initializing has was _ =>
    exact .of_recorded (.refl x.refreshStatus) (Quiet.refl _) (hrecorded has was)
  | undocumented has was _ =>
    exact .of_recorded (x := x.refreshStatus) ⟨rfl, rfl, rfl, rfl, rfl⟩ (Quiet.refl _)
      (hrecorded has was)

omit [ServerSocketListener L] in
/-- `PickClosedSocket` starts with a socket that is not in use. -/
theorem Times.pick {x y : ServerSocket W L} {ok : Bool} (h : x.Times) (hp : x.Pick (ok, y)) :
    y.Times := by
  cases hp with
  | bound _ => exact h
  | noneFree has _ => exact .released has
  | refused _ _ _ _ _ => exact .released rfl
  | picked _ range h0 h8 _ =>
    have hclosed : (linkOf x.found.net x.found.sockNum).status = SnSR.closed :=
      Implements.findUnusedSocket_closed (M := link) x.net h0 h8
    have hne := (x.found.beginListening_link range rfl).2 (Link.idle_of_closed _ hclosed)
    have hsock := (unseen_beginListening x.found).sockNum
    refine .of_ne fun hu => hne ?_
    have hquiet := x.found.beginListening.2.quiet_refreshStatus link
    rw [← hsock]
    exact (disconnecting_of_goesOn (goesOn_of_quiet hquiet _) hu).1

omit [ServerSocketListener L] in
theorem Times.releaseSocket {x : ServerSocket W L} (h : x.Times) : x.releaseSocket.2.Times := by
  obtain ⟨-, ⟨-, -, heq⟩ | ⟨-, -, hno⟩ | ⟨-, heq⟩⟩ := x.releaseSocket_cases
  · rw [heq]
    exact h.outside (goesOn_of_quiet (Implements.socketIsInTcpConnectionLifecycle x.sockNum x.net))
  · exact .released hno
  · rw [heq]
    exact h

theorem times_of_reaches {x : ServerSocket W L} (h : Reaches GoesOn (fun _ _ => True) x) :
    x.Times := by
  refine h.invariant (fun port listener w => .released rfl) (fun y w hy hw => hy.outside hw)
    (fun y c hy _ => ?_)
  cases c with
  | pickClosedSocket => exact hy.pick y.pickClosedSocket_pick
  | performIo => exact hy.poll y.performIo_poll
  | releaseSocket => exact hy.releaseSocket
  | socketLost => exact .released y.socketLost_cases.1

/-! ### Polls of a closing socket -/

/-- Only polls are made, and each reads a closing status. -/
def PollsClosing (x : ServerSocket W L) (c : PublicCall) : Prop :=
  c = .performIo ∧ statusIsClosing x.refreshStatus.lastStatus = true

/-- Polls of a closing socket do not touch the disconnect record, and what they
remember is never open. -/
theorem disconnectData_of_pollsClosing {x y : ServerSocket W L}
    (was : statusIsOpen x.lastStatus = false)
    (h : Relation.ReflTransGen (Step GoesOn PollsClosing) x y) :
    y.disconnectData = x.disconnectData ∧ statusIsOpen y.lastStatus = false := by
  induction h with
  | refl => exact ⟨rfl, was⟩
  | @tail y z _ hstep ih =>
    obtain ⟨hdata, hlast⟩ := ih
    cases hstep with
    | outside _ => exact ⟨hdata, hlast⟩
    | call hc =>
      obtain ⟨rfl, now⟩ := hc
      by_cases has : y.hasSocket = true
      · rw [show y.run .performIo = y.refreshStatus.detectCloseTimeout from
          performIo_closing has hlast now]
        have hu := unseen_detectCloseTimeout y.refreshStatus
        exact ⟨hu.disconnectData.trans hdata, detectCloseTimeout_notOpen _
          (fun y => (closeHardwareSocket_idle y).2) (statusIsOpen_of_closing now)⟩
      · rw [show y.run .performIo = y from if_neg has]
        exact ⟨hdata, hlast⟩

omit [ServerSocketListener L] in
/-- `CloseSocket` is called in a poll of a closing socket when the time is up. -/
theorem closes_detectCloseTimeout {x : ServerSocket W L}
    (hclock : ∀ t (w : W), (Platform.elapsedMillis t w).1 = (Platform.millis w).1 - t)
    (hdis : x.disconnectData.disconnected = true) :
    (linkOf x.detectCloseTimeout.net x.sockNum).closes = (linkOf x.net x.sockNum).closes +
      if 5000 < (Platform.millis x.net).1 - x.disconnectData.disconnectTimeMillis then 1 else 0 := by
  have hquiet : link.Quiet x.net (x.disconnectData.elapsedDisconnectTime x.net).2 :=
    Implements.elapsedMillis _ _
  have hsame := (advance_of_quiet hquiet x.sockNum).closes_eq
  simp only [detectCloseTimeout, if_pos hdis, DisconnectData.elapsedDisconnectTime, hclock]
  split_ifs
  · obtain ⟨s, hclose, hadv, -⟩ := closeHardwareSocket_spec link
      { x with net := (x.disconnectData.elapsedDisconnectTime x.net).2 }
    exact (Link.Advance.closes_eq hadv).trans (hclose.2.2.trans (congrArg (· + 1) hsame))
  · exact hsame

/-- **The close timeout is armed, for the present connection, and fires when due.**
In every run, whatever the listener does and however late the hardware is,
whenever a poll reads a closing status and reaches `DetectCloseTimeout`:

* a disconnect is recorded, at a time since which no connection was established
  on the socket;
* no run of polls that read closing statuses changes the record;
* the poll calls `CloseSocket` if and only if more than 5000 milliseconds have
  passed since that time, modulo `2 ^ 32`. -/
theorem closeTimeout (hclock : ∀ t (w : W), (Platform.elapsedMillis t w).1 = (Platform.millis w).1 - t)
    {x : ServerSocket W L} (h : Reaches GoesOn (fun _ _ => True) x) (has : x.hasSocket = true)
    (was : statusIsOpen x.lastStatus = false)
    (now : statusIsClosing x.refreshStatus.lastStatus = true) :
    RecordedFor x.disconnectData x.sockNum x.refreshStatus.net ∧
    (∀ y, Relation.ReflTransGen (Step GoesOn PollsClosing) x y →
      y.disconnectData = x.disconnectData) ∧
    (linkOf x.performIo.net x.sockNum).closes = (linkOf x.net x.sockNum).closes +
      if 5000 < (Platform.millis x.refreshStatus.net).1 - x.disconnectData.disconnectTimeMillis
        then 1 else 0 := by
  have hquiet := x.quiet_refreshStatus link
  have huse : (linkOf x.refreshStatus.net x.sockNum).use = .conn true :=
    Link.disconnecting_of_closing _
      ((congrArg statusIsClosing (x.lastStatus_refreshStatus link)).symm.trans now)
  have hrec : RecordedFor x.disconnectData x.sockNum x.refreshStatus.net := by
    obtain ⟨huse', hserial⟩ := disconnecting_of_goesOn (goesOn_of_quiet hquiet x.sockNum) huse
    exact ((times_of_reaches h).recorded has was huse').of_serial hserial
  refine ⟨hrec, fun y hy => (disconnectData_of_pollsClosing was hy).1, ?_⟩
  rw [performIo_closing has was now]
  have hcloses := closes_detectCloseTimeout (x := x.refreshStatus) hclock hrec.1
  rw [show (linkOf x.refreshStatus.net x.refreshStatus.sockNum).closes =
    (linkOf x.net x.sockNum).closes from (advance_of_quiet hquiet x.sockNum).closes_eq] at hcloses
  exact hcloses

/-- A chip that takes its time: the peer connects after the ten calls of
`PickClosedSocket`, and the socket is in `FIN_WAIT` when the poll reads its
status once more after `OnConnect`. -/
def slowChip : LiveChip where
  moves := (List.replicate 10 (7, .drop) ++ [(0, .connect)]) ++
    (List.replicate 5 (7, .drop) ++ [(0, .finish)])

/-- The listener closes the connection at once; then six seconds pass. -/
def late : ServerSocket (EmbeddedNetwork LiveChip) Scripted :=
  let start : ServerSocket (EmbeddedNetwork LiveChip) Scripted :=
    { listener := { connect := [.close] }, tcpPort := 80, net := { chip := slowChip } }
  let x := (start.run .pickClosedSocket).run .performIo
  { x with net := { x.net with chip := { x.net.chip with clock := 6000 } } }

theorem closeTimeout_late :
    late.disconnectData.disconnectTimeMillis = 0 ∧
      (linkOf late.performIo.net 0).closes = (linkOf late.net 0).closes + 1 := by
  have hreach : Reaches GoesOn (fun _ _ => True) late :=
    (((Reaches.start 80 _ _).call (c := .pickClosedSocket) trivial).call (c := .performIo)
      trivial).outside fun _ => Or.inl (Link.Advance.same rfl rfl rfl)
  obtain ⟨-, -, hcloses⟩ := closeTimeout (fun _ _ => rfl) hreach (by decide +kernel)
    (by decide +kernel) (by decide +kernel)
  exact ⟨by decide +kernel, hcloses.trans (by decide +kernel)⟩

end ServerSocket
end McuNet
