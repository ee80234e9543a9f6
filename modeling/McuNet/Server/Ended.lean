/-
# After the end of a connection

`ServerSocket::AnnounceCanRead`, `ServerSocket::HandleCloseWait`,
`ServerSocket::DetectListenerInitiatedDisconnect` and
`ServerSocket::SocketLost`.

A `ServerSocket` takes a connection for a new one, for a known one or for none by
comparing two statuses.  That works if a connection that has ended no longer has
an open status when it is looked at again.  Where a connection keeps an open
status for as long as it exists (`KeepsOpen`), the end of a connection and the
end of its open status are different things: after a `close` by the listener, and
after `HandleCloseWait`, the remembered status may still be open, and then the
next poll tells the listener about the connection again.

`nothingAfterEnd` says that this is the only way: as long as no call is made in
such a state, nothing is told of a connection after its end.
-/

import McuNet.Core.History
import McuNet.Server.Link

namespace McuNet

open SocketMachine

variable {W L : Type*} [Platform W] [Implements link W]

/-- A connection has an open status for as long as it exists, and reading the
clock does not touch the sockets. -/
class KeepsOpen (W : Type*) [Platform W] [Implements link W] : Prop where
  isOpen_of_conn : ∀ {w : W} {n d}, (linkOf w n).use = .conn d → link.IsOpen w n
  millis : ∀ (w : W) n, linkOf (Platform.millis w).2 n = linkOf w n

omit [Platform W] [Implements link W] in
/-- The listener knows from this callback that the connection has ended: it was
told so, or has called `close` in it. -/
def Delivery.ends (e : Delivery W) : Prop :=
  e.callback = .onDisconnect ∨ e.callback = .onConnect true ∨ e.callback = .onCanRead true

omit [Platform W] [Implements link W] in
instance (e : Delivery W) : Decidable e.ends := inferInstanceAs (Decidable (_ ∨ _ ∨ _))

/-- The end of the connection is in the log. -/
def HasEnded (log : List (Delivery W)) (id : UInt8 × ℕ) : Prop :=
  ∃ e ∈ log, e.ends ∧ e.connection = id

instance (log : List (Delivery W)) (id : UInt8 × ℕ) : Decidable (HasEnded log id) :=
  inferInstanceAs (Decidable (∃ e ∈ log, _))

/-- **Neither `OnCanRead` nor `OnDisconnect` is delivered for a connection after
its end.** -/
def NothingAfterEnd (log : List (Delivery W)) : Prop :=
  EachAfter (fun before e => ¬ e.announces → ¬ HasEnded before e.connection) log

theorem hasEnded_append {log : List (Delivery W)} {e : Delivery W} {id : UInt8 × ℕ} :
    HasEnded (log ++ [e]) id ↔ HasEnded log id ∨ (e.ends ∧ e.connection = id) := by
  constructor
  · rintro ⟨d, hd, h⟩
    rcases List.mem_append.1 hd with hd | hd
    · exact .inl ⟨d, hd, h⟩
    · exact .inr (List.mem_singleton.1 hd ▸ h)
  · rintro (⟨d, hd, h⟩ | h)
    · exact ⟨d, List.mem_append_left _ hd, h⟩
    · exact ⟨e, List.mem_append_right _ (List.mem_singleton_self e), h⟩

/-- An open connection was there and open since it had its number. -/
theorem isOpen_of_laterAll [KeepsOpen W] {w w' : W} {n : UInt8} (h : LaterAll w w')
    (ho : link.IsOpen w' n) (hs : (linkOf w' n).serial = (linkOf w n).serial) :
    link.IsOpen w n := by
  obtain ⟨d, hd⟩ := Link.conn_of_open _ ho
  obtain ⟨e, he⟩ := (h n).conn d hd hs
  exact KeepsOpen.isOpen_of_conn he

namespace ServerSocket

variable [ServerSocketListener L]

/-- Neither `PerformIO` nor `SocketLost` is called while the remembered status is
still open although the connection has ended. -/
def EndsInTime (x : ServerSocket W L) (c : PublicCall) : Prop :=
  c = .performIo ∨ c = .socketLost →
    ¬ (x.hasSocket = true ∧ statusIsOpen x.lastStatus = true ∧ HasEnded x.log x.connection)

/-! ### The invariant -/

/-- **An ended connection that is still open is remembered as open.**  `past`: no
callback was about a connection that is yet to come. -/
structure Closes (x : ServerSocket W L) : Prop where
  left : x.hasSocket = true → HasEnded x.log x.connection → link.IsOpen x.net x.sockNum →
    statusIsOpen x.lastStatus = true
  past : ∀ e ∈ x.log, (linkOf e.net e.sockNum).serial ≤ (linkOf x.net e.sockNum).serial
  log : NothingAfterEnd x.log

omit [ServerSocketListener L] in
/-- A connection that has ended by now had the same number before, if nothing was
told of it in between. -/
theorem Closes.serial_eq {x : ServerSocket W L} (h : x.Closes) {w : W} (hw : LaterAll x.net w)
    {n : UInt8} (he : HasEnded x.log (n, (linkOf w n).serial)) :
    (linkOf w n).serial = (linkOf x.net n).serial := by
  obtain ⟨e, hmem, -, hid⟩ := he
  obtain ⟨rfl, hs⟩ := Prod.mk.inj hid
  have hpast := h.past e hmem
  have hlater := (hw e.sockNum).serial
  omega

omit [ServerSocketListener L] in
/-- **The connection of a call has not ended before**, neither one that was
remembered as open, nor one that is found open now. -/
theorem Closes.not_ended [KeepsOpen W] {x : ServerSocket W L} (h : x.Closes)
    (has : x.hasSocket = true) {w : W} (hw : LaterAll x.net w)
    (hok : statusIsOpen x.lastStatus = true → ¬ HasEnded x.log x.connection)
    (hopen : statusIsOpen x.lastStatus = true ∨ link.IsOpen w x.sockNum) :
    ¬ HasEnded x.log (x.sockNum, (linkOf w x.sockNum).serial) := by
  intro he
  have hs := h.serial_eq hw he
  rw [hs] at he
  refine hok ?_ he
  rcases hopen with hlast | ho
  · exact hlast
  · exact h.left has he (isOpen_of_laterAll hw ho hs)

omit [ServerSocketListener L] in
/-- Callbacks stay in the past. -/
theorem Closes.past_later {x : ServerSocket W L} (h : x.Closes) {w : W} (hw : LaterAll x.net w) :
    ∀ e ∈ x.log, (linkOf e.net e.sockNum).serial ≤ (linkOf w e.sockNum).serial :=
  fun e he => (h.past e he).trans (hw e.sockNum).serial

omit [ServerSocketListener L] in
/-- A call without a callback, after which the remembered status may be
anything. -/
theorem Closes.unseen [KeepsOpen W] {x y : ServerSocket W L} (h : x.Closes) (hu : Unseen x y)
    (hw : LaterAll x.net y.net)
    (hok : statusIsOpen x.lastStatus = true → ¬ HasEnded x.log x.connection) :
    y.Closes := by
  refine ⟨fun has he ho => ?_, hu.log ▸ h.past_later hw, hu.log ▸ h.log⟩
  rw [connection, hu.sockNum, hu.log] at he
  rw [hu.sockNum] at ho
  exact absurd he (h.not_ended (hu.hasSocket.symm.trans has) hw hok (.inr ho))

omit [ServerSocketListener L] in
/-- **A call with a callback.**  `v` is the platform when the callback was made;
when it is the end of the connection, the remembered status was read after it. -/
theorem Closes.told [KeepsOpen W] {x y : ServerSocket W L} (h : x.Closes) {e : Delivery W}
    (hlog : y.log = x.log ++ [e]) (hsock : y.sockNum = x.sockNum) (he : e.sockNum = x.sockNum)
    (has : x.hasSocket = true) (hv : LaterAll x.net e.net) (hy : LaterAll e.net y.net)
    (hok : statusIsOpen x.lastStatus = true → ¬ HasEnded x.log x.connection)
    (hopen : statusIsOpen x.lastStatus = true ∨ link.IsOpen e.net x.sockNum)
    (hend : e.ends → link.IsOpen y.net x.sockNum →
      (linkOf y.net x.sockNum).serial = (linkOf e.net x.sockNum).serial →
        statusIsOpen y.lastStatus = true) : y.Closes := by
  have hxy : LaterAll x.net y.net := platformMoves_later.trans hv hy
  refine ⟨fun _ hended ho => ?_, ?_, ?_⟩
  · rw [hsock] at ho
    rw [connection, hsock, hlog] at hended
    rcases hasEnded_append.1 hended with hold | ⟨hends, hid⟩
    · exact absurd hold (h.not_ended has hxy hok (.inr ho))
    · rw [Delivery.connection, he] at hid
      exact hend hends ho (Prod.mk.inj hid).2.symm
  · rw [hlog]
    intro d hd
    rcases List.mem_append.1 hd with hd | hd
    · exact h.past_later hxy d hd
    · rw [List.mem_singleton.1 hd]
      exact (hy e.sockNum).serial
  · rw [NothingAfterEnd, hlog, eachAfter_append]
    refine ⟨h.log, fun _ => ?_⟩
    rw [Delivery.connection, he]
    exact h.not_ended has hv hok hopen

omit [ServerSocketListener L] in
/-- A callback with a connection. -/
theorem Closes.announce [KeepsOpen W] {x z : ServerSocket W L} (h : x.Closes) (hu : Unseen x z)
    (hz : LaterAll x.net z.net) (has : x.hasSocket = true)
    (hok : statusIsOpen x.lastStatus = true → ¬ HasEnded x.log x.connection)
    (hopen : statusIsOpen x.lastStatus = true ∨ link.IsOpen z.net x.sockNum)
    (kind : Bool → Callback) (hkind : ∀ d : Delivery W, d.callback = kind false → ¬ d.ends)
    (p : Program ConnectionOp Reply L) : (z.announce kind p).Closes := by
  have htold := (z.announce_spec kind p).1
  have hquiet := z.announce_quiet link kind p
  refine h.told (e := ⟨kind (Serving.serve p z.sockNum z.net).2.closed, z.sockNum, z.net⟩)
    (hu.log ▸ htold.log) (htold.sockNum.trans hu.sockNum) hu.sockNum has hz
    (z.moves_announce platformMoves_later.quiet kind p) hok hopen ?_
  intro hends ho hs
  cases hc : (Serving.serve p z.sockNum z.net).2.closed with
  | false => exact absurd hends (hkind _ (congrArg kind hc))
  | true =>
    -- the status was read after the program, and the connection has only gone on since
    obtain ⟨w, hsw, hwy, hlast⟩ := hquiet.2 hc
    have hzw : LaterAll z.net w := platformMoves_later.trans
      (Serving.moves_serve platformMoves_later.quiet p z.sockNum z.net) (laterAll_of_quiet hsw)
    have hwy' := laterAll_of_quiet hwy
    have h1 := (hzw x.sockNum).serial
    have h2 := (hwy' x.sockNum).serial
    have hopen' : link.IsOpen w x.sockNum := by
      refine isOpen_of_laterAll hwy' ho ?_
      have hs' : (linkOf (z.announce kind p).net x.sockNum).serial =
        (linkOf z.net x.sockNum).serial := hs
      omega
    rw [hlast, hu.sockNum]
    exact hopen'

/-- `HandleCloseWait` closing the connection. -/
theorem Closes.endHalfClosed [KeepsOpen W] {x z : ServerSocket W L} (h : x.Closes)
    (hu : Unseen x z) (hz : LaterAll x.net z.net) (has : x.hasSocket = true)
    (hok : statusIsOpen x.lastStatus = true → ¬ HasEnded x.log x.connection)
    (was : statusIsOpen x.lastStatus = true) : z.endHalfClosed.Closes := by
  obtain ⟨-, -, -, hdestroyed, hlast, -⟩ := z.endHalfClosed_spec link
  have hclosed : LaterAll z.net z.halfClosed.net := platformMoves_later.trans
    (TcpServerConnection.moves_close platformMoves_later.quiet _ _)
    (platformMoves_later.socketStatus _ _)
  have htold := told_endHalfClosed z
  have hlog : z.endHalfClosed.log = x.log ++ [⟨.onDisconnect, z.sockNum, z.halfClosed.net⟩] :=
    hu.log ▸ htold.log
  have hxv : LaterAll x.net z.halfClosed.net := platformMoves_later.trans hz hclosed
  refine h.told hlog (htold.sockNum.trans hu.sockNum) hu.sockNum has hxv
    (laterAll_of_quiet hdestroyed) hok (.inl was) ?_
  intro _ ho hs
  have hopen := isOpen_of_laterAll (laterAll_of_quiet hdestroyed) ho hs
  rw [hlast]
  show link.IsOpen z.halfClosed.net z.sockNum
  rw [hu.sockNum]
  exact hopen

/-- Noticing a loss: reading the clock leaves the socket as it was found, without
an open connection. -/
theorem Closes.noticeLoss [KeepsOpen W] {x : ServerSocket W L} (h : x.Closes)
    (has : x.hasSocket = true) (was : statusIsOpen x.lastStatus = true)
    (now : statusIsOpen x.refreshStatus.lastStatus = false)
    (hok : statusIsOpen x.lastStatus = true → ¬ HasEnded x.log x.connection) :
    x.refreshStatus.noticeLoss.Closes := by
  have hread : LaterAll x.net x.refreshStatus.net := moves_refreshStatus platformMoves_later.quiet x
  rcases x.refreshStatus.noticeLoss_cases with ⟨-, heq⟩ | ⟨hno, -, -, hnet, htold⟩
  · rw [heq]
    exact h.unseen (unseen_refreshStatus x) hread hok
  · have hclock : linkOf x.refreshStatus.recordDisconnect.net x.sockNum =
        linkOf x.refreshStatus.net x.sockNum := by
      have hmillis : x.refreshStatus.recordDisconnect.net =
          (Platform.millis x.refreshStatus.net).2 := by
        show (DisconnectData.recordDisconnect _ _).2 = _
        rw [DisconnectData.recordDisconnect, if_neg (by rw [hno]; decide)]
      rw [hmillis]
      exact KeepsOpen.millis _ _
    have hlater : LaterAll x.refreshStatus.net x.refreshStatus.recordDisconnect.net :=
      DisconnectData.moves_recordDisconnect platformMoves_later.quiet _ _
    refine h.told (y := x.refreshStatus.noticeLoss) htold.log htold.sockNum rfl has
      (platformMoves_later.trans hread hlater) ?_ hok (.inl was) ?_
    · rw [hnet]
      exact platformMoves_later.refl _
    · intro _ ho _
      rw [hnet] at ho
      have hopen : statusIsOpen (linkOf x.refreshStatus.net x.sockNum).status = true :=
        hclock ▸ (ho : statusIsOpen (linkOf x.refreshStatus.recordDisconnect.net x.sockNum).status
          = true)
      rw [show (linkOf x.refreshStatus.net x.sockNum).status = x.refreshStatus.lastStatus from
        (x.lastStatus_refreshStatus link).symm, now] at hopen
      exact absurd hopen Bool.false_ne_true

/-- **A poll keeps the invariant**, unless it finds the status of an ended
connection remembered as open. -/
theorem Closes.poll [KeepsOpen W] {x y : ServerSocket W L} (h : x.Closes) (hp : x.Poll y)
    (hok : x.hasSocket = true → statusIsOpen x.lastStatus = true →
      ¬ HasEnded x.log x.connection) :
    y.Closes := by
  have hread : LaterAll x.net x.refreshStatus.net := moves_refreshStatus platformMoves_later.quiet x
  have hy : LaterAll x.net y.net := hp.moves platformMoves_later.quiet x
      fun _ _ _ _ => platformMoves_later.initializeTcpListenerSocket _ _ _
  have hu := unseen_refreshStatus x
  have hconnect : ∀ d : Delivery W, d.callback = .onConnect false → ¬ d.ends := by
    rintro d hd (h | h | h) <;> exact absurd (hd.symm.trans h) nofun
  have hcanRead : ∀ d : Delivery W, d.callback = .onCanRead false → ¬ d.ends := by
    rintro d hd (h | h | h) <;> exact absurd (hd.symm.trans h) nofun
  cases hp with
  | released _ => exact h
  | lost has was now => exact h.noticeLoss has was now (hok has)
  | closed has _ _ => exact h.unseen (hu.trans (unseen_beginListening _)) hy (hok has)
  | listening has _ _ => exact h.unseen ⟨rfl, rfl, rfl, rfl, rfl⟩ hy (hok has)
  | connected has _ now =>
    have hopen : link.IsOpen x.refreshStatus.net x.sockNum :=
      (congrArg statusIsOpen (x.lastStatus_refreshStatus link)).symm.trans now
    exact h.announce hu hread has (hok has) (.inr hopen) _ hconnect _
  | canRead has was _ => exact h.announce hu hread has (hok has) (.inl was) _ hcanRead _
  | closeWait has was _ =>
    have hasked : LaterAll x.net x.refreshStatus.asked.net := platformMoves_later.trans hread
      ((platformMoves_later.ethernetClient _).available _)
    have hu' : Unseen x x.refreshStatus.asked := ⟨rfl, rfl, rfl, rfl, rfl⟩
    rcases x.refreshStatus.handleCloseWait_cases with heq | heq
    · rw [heq]
      exact h.announce hu' hasked has (hok has) (.inl was) _ hcanRead _
    · rw [heq]
      exact h.endHalfClosed hu' hasked has (hok has) was
  | closing has _ _ => exact h.unseen (hu.trans (unseen_detectCloseTimeout _)) hy (hok has)
  | stuck has _ _ _ => exact h.unseen (hu.trans (unseen_closeHardwareSocket _)) hy (hok has)
  | initializing has _ _ => exact h.unseen hu hy (hok has)
  | undocumented has _ _ => exact h.unseen ⟨rfl, rfl, rfl, rfl, rfl⟩ hy (hok has)

omit [ServerSocketListener L] in
/-- While nothing is called the hardware only goes on. -/
theorem Closes.outside [KeepsOpen W] {x : ServerSocket W L} (h : x.Closes) {w : W}
    (hw : LaterAll x.net w) : Closes { x with net := w } := by
  refine ⟨fun has he ho => ?_, h.past_later hw, h.log⟩
  have hs := h.serial_eq hw he
  refine h.left has ?_ (isOpen_of_laterAll hw ho hs)
  rw [connection, hs] at he
  exact he

/-- `PickClosedSocket` ends with a status read. -/
theorem Closes.pick [KeepsOpen W] {x : ServerSocket W L} (h : x.Closes) :
    x.pickClosedSocket.2.Closes := by
  have hlater : LaterAll x.net x.pickClosedSocket.2.net :=
    run_moves platformMoves_later x .pickClosedSocket
  have hlog : x.found.beginListening.2.log = x.log := (unseen_beginListening x.found).log
  generalize hr : x.pickClosedSocket = r at hlater
  cases hr ▸ x.pickClosedSocket_pick with
  | bound _ => exact h
  | noneFree has _ =>
    exact ⟨fun h' => absurd (has.symm.trans h') Bool.false_ne_true, h.past_later hlater, h.log⟩
  | refused _ _ _ _ _ =>
    exact ⟨fun h' => absurd h' (by simp [hasSocket]), hlog ▸ h.past_later hlater, hlog ▸ h.log⟩
  | picked _ _ _ _ _ =>
    refine ⟨fun _ _ ho => ?_, hlog ▸ h.past_later hlater, hlog ▸ h.log⟩
    exact (congrArg statusIsOpen (lastStatus_refreshStatus link _)).trans ho

theorem Closes.releaseSocket [KeepsOpen W] {x : ServerSocket W L} (h : x.Closes) :
    x.releaseSocket.2.Closes := by
  have hlater : LaterAll x.net x.releaseSocket.2.net :=
    run_moves platformMoves_later x .releaseSocket
  obtain ⟨hlog, ⟨-, -, heq⟩ | ⟨-, -, hno⟩ | ⟨-, heq⟩⟩ := x.releaseSocket_cases
  · rw [heq] at hlater ⊢
    exact h.outside hlater
  · exact ⟨fun has => absurd (hno.symm.trans has) Bool.false_ne_true, hlog ▸ h.past_later hlater,
      hlog ▸ h.log⟩
  · rw [heq]
    exact h

/-- `SocketLost` tells the listener of a connection that has not ended. -/
theorem Closes.socketLost [KeepsOpen W] {x : ServerSocket W L} (h : x.Closes)
    (hok : x.hasSocket = true → statusIsOpen x.lastStatus = true →
      ¬ HasEnded x.log x.connection) :
    x.socketLost.Closes := by
  have hlater : LaterAll x.net x.socketLost.net := run_moves platformMoves_later x .socketLost
  obtain ⟨hno, -, -, ⟨hopen, hlog⟩ | ⟨-, hlog⟩⟩ := x.socketLost_cases
  · obtain ⟨has, ho⟩ := Bool.and_eq_true_iff.1 hopen
    refine ⟨fun has => absurd (hno.symm.trans has) Bool.false_ne_true, ?_, ?_⟩
    · rw [hlog]
      intro e he
      rcases List.mem_append.1 he with he | he
      · exact h.past_later hlater e he
      · rw [List.mem_singleton.1 he]
        exact (hlater x.sockNum).serial
    · rw [NothingAfterEnd, hlog, eachAfter_append]
      exact ⟨h.log, fun _ => hok has ho⟩
  · exact ⟨fun has => absurd (hno.symm.trans has) Bool.false_ne_true, hlog ▸ h.past_later hlater,
      hlog ▸ h.log⟩

/-- **Nothing is told of a connection after its end**, in every run in which the
end of a connection is over when the next poll is made. -/
theorem Closes.of_reaches [KeepsOpen W] {Env : W → W → Prop}
    (henv : ∀ {w w'}, Env w w' → LaterAll w w') {x : ServerSocket W L}
    (h : Reaches Env EndsInTime x) : x.Closes := by
  refine h.invariant (fun port listener w => ⟨nofun, fun e he => absurd he List.not_mem_nil,
    eachAfter_nil⟩) (fun y w hy hw => hy.outside (henv hw)) (fun y c hy hc => ?_)
  cases c with
  | pickClosedSocket => exact hy.pick
  | performIo =>
    exact hy.poll y.performIo_poll fun has ho he => hc (.inl rfl) ⟨has, ho, he⟩
  | releaseSocket => exact hy.releaseSocket
  | socketLost => exact hy.socketLost fun has ho he => hc (.inr rfl) ⟨has, ho, he⟩

end ServerSocket
end McuNet
