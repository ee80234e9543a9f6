/-
# The first callback of a connection

`ServerSocket::PickClosedSocket`, `ServerSocket::BeginListening` and the status
dispatch of `ServerSocket::PerformIO`, with `HostSocketInfo::SocketStatus`.

A new connection is recognised by an open status after one that was not open, so
`OnConnect` depends on the remembered status.  `BeginListening` and
`PickClosedSocket` overwrite it with a status that they read after the socket was
put into `LISTEN`, and expect `LISTEN` there.  When a peer has connected by then,
the next poll takes the connection for one that was announced before
(`announcedFirst_counterexample`).

The hardware is a `link`, which goes on during every call.  As long as no call
that starts to listen returns with the socket open already, the first callback
for each connection is `OnConnect` (`announcedFirst`).
-/

import McuNet.Core.History
import McuNet.Embedded.LiveChip

namespace McuNet

open SocketMachine

variable {W L : Type*} [Platform W] [Implements link W]

/-- The connection was announced with `OnConnect`. -/
def Known (log : List (Delivery W)) (id : UInt8 × ℕ) : Prop :=
  ∃ e ∈ log, e.announces ∧ e.connection = id

/-- `OnCanRead` and `OnDisconnect` are only delivered for connections that were
announced before. -/
def AnnouncedFirst (log : List (Delivery W)) : Prop :=
  EachAfter (fun before e => ¬ e.announces → Known before e.connection) log

theorem Known.append {log : List (Delivery W)} {id : UInt8 × ℕ} (h : Known log id)
    (e : Delivery W) : Known (log ++ [e]) id := by
  obtain ⟨d, hd, hid⟩ := h
  exact ⟨d, List.mem_append_left _ hd, hid⟩

namespace ServerSocket

variable [ServerSocketListener L]

/-- A call that makes the hardware socket listen returns before a peer has
connected to it: the status is not open then. -/
def ListensBeforeOpen (x : ServerSocket W L) (c : PublicCall) : Prop :=
  (c = .pickClosedSocket ∧ x.hasSocket = false) ∨
    (c = .performIo ∧ x.refreshStatus.lastStatus = SnSR.closed) →
  (x.run c).hasSocket = true → ¬ link.IsOpen (x.run c).net (x.run c).sockNum

/-! ### The invariant -/

/-- **An open remembered status is that of an announced connection**, and no other
one can have taken its place. -/
structure Knows (x : ServerSocket W L) : Prop where
  current : x.hasSocket = true → statusIsOpen x.lastStatus = true →
    (linkOf x.net x.sockNum).use ≠ .armed ∧ Known x.log x.connection
  log : AnnouncedFirst x.log

omit [ServerSocketListener L] in
/-- A remembered status that is not open says nothing. -/
theorem Knows.of_notOpen {x y : ServerSocket W L} (h : x.Knows) (hlog : y.log = x.log)
    (hno : statusIsOpen y.lastStatus = false) : y.Knows :=
  ⟨fun _ ho => absurd (hno.symm.trans ho) Bool.false_ne_true, hlog ▸ h.log⟩

omit [ServerSocketListener L] in
/-- While the socket is settled the connection is the same. -/
theorem connection_of_settled {x : ServerSocket W L} {w : W}
    (hs : Link.Settled (linkOf x.net x.sockNum) (linkOf w x.sockNum))
    (harmed : (linkOf x.net x.sockNum).use ≠ .armed) :
    connection { x with net := w } = x.connection :=
  congrArg (x.sockNum, ·) (hs harmed).2

omit [ServerSocketListener L] in
/-- **A callback about a connection that is known, or that it announces.** -/
theorem Knows.told {z y : ServerSocket W L} {c : Callback} (hlog : AnnouncedFirst z.log)
    (htold : Told z y c) (hc : (∃ closed, c = .onConnect closed) ∨ Known z.log z.connection)
    (harmed : (linkOf z.net z.sockNum).use ≠ .armed)
    (hs : Link.Settled (linkOf z.net z.sockNum) (linkOf y.net z.sockNum)) : y.Knows := by
  have hknown : Known y.log z.connection := by
    rw [htold.log]
    rcases hc with hc | hc
    · exact ⟨_, List.mem_append_right _ (List.mem_singleton_self _), hc, rfl⟩
    · exact hc.append _
  obtain ⟨harmed', hserial⟩ := hs harmed
  constructor
  · intro _ _
    rw [connection, htold.sockNum, hserial]
    exact ⟨harmed', hknown⟩
  · rw [AnnouncedFirst, htold.log, eachAfter_append]
    exact ⟨hlog, fun hno => hc.resolve_left hno⟩

omit [ServerSocketListener L] in
/-- `OnDisconnect` about a known connection, after which the remembered status is
not open. -/
theorem Knows.told_end {z y : ServerSocket W L} (hlog : AnnouncedFirst z.log)
    (hlog' : y.log = z.log ++ [⟨.onDisconnect, z.sockNum, z.net⟩])
    (hknown : Known z.log z.connection) (hno : statusIsOpen y.lastStatus = false) : y.Knows := by
  refine ⟨fun _ ho => absurd (hno.symm.trans ho) Bool.false_ne_true, ?_⟩
  rw [AnnouncedFirst, hlog', eachAfter_append]
  exact ⟨hlog, fun _ => hknown⟩

omit [ServerSocketListener L] in
/-- The hardware goes on: a known connection stays the one it is. -/
theorem Knows.outside {x : ServerSocket W L} (h : x.Knows) {w : W} (hw : link.Quiet x.net w) :
    Knows { x with net := w } := by
  refine ⟨fun has ho => ?_, h.log⟩
  obtain ⟨harmed, hknown⟩ := h.current has ho
  have hs := settled_of_quiet hw x.sockNum
  refine ⟨(hs harmed).1, ?_⟩
  rw [connection_of_settled hs harmed]
  exact hknown

/-- `HandleCloseWait` closing a known connection. -/
theorem Knows.endHalfClosed {x : ServerSocket W L} (hlog : AnnouncedFirst x.log)
    (harmed : (linkOf x.net x.sockNum).use ≠ .armed) (hknown : Known x.log x.connection) :
    x.endHalfClosed.Knows := by
  obtain ⟨v, hdis, hquiet, hdestroyed, -, -⟩ := x.endHalfClosed_spec link
  have hs : Link.Settled (linkOf x.net x.sockNum) (linkOf x.halfClosed.net x.sockNum) :=
    (settled_of_disconnects hdis).trans (settled_of_quiet hquiet _)
  have hconn : x.halfClosed.connection = x.connection := connection_of_settled hs harmed
  have hknown' : Known x.halfClosed.log x.halfClosed.connection := by
    rw [hconn]
    exact hknown
  exact .told (z := x.halfClosed) hlog (told_endHalfClosed x) (.inr hknown') (hs harmed).1
    (settled_of_quiet hdestroyed _)

/-- Noticing the loss of a known connection. -/
theorem Knows.noticeLoss {x : ServerSocket W L} (hlog : AnnouncedFirst x.log)
    (hno : statusIsOpen x.lastStatus = false)
    (harmed : (linkOf x.net x.sockNum).use ≠ .armed) (hknown : Known x.log x.connection) :
    x.noticeLoss.Knows := by
  rcases x.noticeLoss_cases with ⟨-, heq⟩ | ⟨-, -, hlast, -, htold⟩
  · rw [heq]
    exact ⟨fun _ ho => absurd (hno.symm.trans ho) Bool.false_ne_true, hlog⟩
  · have hclock := DisconnectData.quiet_recordDisconnect link x.disconnectData x.net
    have hconn : x.recordDisconnect.connection = x.connection :=
      connection_of_settled (settled_of_quiet hclock _) harmed
    refine .told_end (z := x.recordDisconnect) hlog htold.log ?_ (hlast.symm ▸ hno)
    rw [hconn]
    exact hknown

/-- **A poll keeps the invariant**, unless it makes the socket listen and finds it
open at once. -/
theorem Knows.poll {x y : ServerSocket W L} (h : x.Knows) (hp : x.Poll y)
    (hok : x.refreshStatus.lastStatus = SnSR.closed → y.hasSocket = true →
      ¬ link.IsOpen y.net y.sockNum) : y.Knows := by
  have hlog : AnnouncedFirst x.refreshStatus.log := h.log
  have hread : x.refreshStatus.hasSocket = true → statusIsOpen x.lastStatus = true →
      (linkOf x.refreshStatus.net x.sockNum).use ≠ .armed ∧
        Known x.refreshStatus.log x.refreshStatus.connection :=
    (h.outside (x.quiet_refreshStatus link)).current
  cases hp with
  | released _ => exact h
  | lost has was now =>
    obtain ⟨harmed, hknown⟩ := hread has was
    exact .noticeLoss hlog now harmed hknown
  | closed has was now =>
    have hu := unseen_beginListening x.refreshStatus
    have hnow : statusIsOpen x.refreshStatus.lastStatus = false := congrArg statusIsOpen now
    refine h.of_notOpen hu.log ?_
    by_contra ho
    have hopen := (x.refreshStatus.beginListening_link has hnow).1 (by simpa using ho)
    refine hok now (hu.hasSocket.trans has) ?_
    rw [hu.sockNum]
    exact hopen
  | listening _ _ _ => exact h.of_notOpen rfl rfl
  | connected has was now =>
    have hopen : statusIsOpen (linkOf x.refreshStatus.net x.sockNum).status = true :=
      (congrArg statusIsOpen (x.lastStatus_refreshStatus link)).symm.trans now
    exact .told hlog (announce_spec _ _ _).1 (.inl ⟨_, rfl⟩) (Link.ne_armed_of_open hopen)
      (settled_announce _ _ _)
  | canRead has was now =>
    obtain ⟨harmed, hknown⟩ := hread has was
    exact .told hlog (announce_spec _ _ _).1 (.inr hknown) harmed (settled_announce _ _ _)
  | closeWait has was now =>
    obtain ⟨harmed, hknown⟩ := hread has was
    have hs := settled_of_quiet (x.refreshStatus.quiet_asked link) x.sockNum
    have hconn : x.refreshStatus.asked.connection = x.refreshStatus.connection :=
      connection_of_settled hs harmed
    have hknown' : Known x.refreshStatus.asked.log x.refreshStatus.asked.connection := by
      rw [hconn]
      exact hknown
    rcases x.refreshStatus.handleCloseWait_cases with heq | heq
    · rw [heq]
      exact .told (z := x.refreshStatus.asked) hlog (announce_spec _ _ _).1 (.inr hknown')
        (hs harmed).1 (settled_announce _ _ _)
    · rw [heq]
      exact .endHalfClosed hlog (hs harmed).1 hknown'
  | closing has was now =>
    exact h.of_notOpen (unseen_detectCloseTimeout _).log
      (detectCloseTimeout_notOpen _ (fun y => (closeHardwareSocket_idle y).2)
        (statusIsOpen_of_closing now))
  | stuck _ _ _ _ =>
    exact h.of_notOpen (unseen_closeHardwareSocket _).log (closeHardwareSocket_idle _).2
  | initializing _ _ now => exact h.of_notOpen rfl (congrArg statusIsOpen now)
  | undocumented _ was _ => exact h.of_notOpen rfl was

omit [ServerSocketListener L] in
/-- `PickClosedSocket` keeps the invariant, unless it finds the socket open at
once. -/
theorem Knows.pick {x y : ServerSocket W L} {ok : Bool} (h : x.Knows) (hp : x.Pick (ok, y))
    (hok : x.hasSocket = false → y.hasSocket = true → ¬ link.IsOpen y.net y.sockNum) :
    y.Knows := by
  have hlog : x.found.beginListening.2.log = x.log := (unseen_beginListening x.found).log
  cases hp with
  | bound _ => exact h
  | noneFree _ _ => exact h.of_notOpen rfl rfl
  | refused _ _ _ _ _ => exact ⟨fun has => absurd has (by simp [hasSocket]), hlog ▸ h.log⟩
  | picked has range _ _ _ =>
    have hrange : x.found.beginListening.2.refreshStatus.hasSocket = true :=
      (unseen_beginListening x.found).hasSocket.trans range
    refine h.of_notOpen hlog (Bool.eq_false_of_not_eq_true fun ho => hok has hrange ?_)
    exact (congrArg statusIsOpen (lastStatus_refreshStatus link _)).symm.trans ho

omit [ServerSocketListener L] in
theorem Knows.releaseSocket {x : ServerSocket W L} (h : x.Knows) : x.releaseSocket.2.Knows := by
  obtain ⟨hlog, ⟨-, -, heq⟩ | ⟨-, -, hno⟩ | ⟨-, heq⟩⟩ := x.releaseSocket_cases
  · rw [heq]
    exact h.outside (Implements.socketIsInTcpConnectionLifecycle x.sockNum x.net)
  · exact ⟨fun has => absurd (hno.symm.trans has) Bool.false_ne_true, hlog ▸ h.log⟩
  · rw [heq]
    exact h

/-- `SocketLost` reports the end of a known connection. -/
theorem Knows.socketLost {x : ServerSocket W L} (h : x.Knows) : x.socketLost.Knows := by
  obtain ⟨-, hlast, -, ⟨hopen, hlog⟩ | ⟨-, hlog⟩⟩ := x.socketLost_cases
  · obtain ⟨has, ho⟩ := Bool.and_eq_true_iff.1 hopen
    exact .told_end h.log hlog (h.current has ho).2 (hlast ▸ rfl)
  · exact h.of_notOpen hlog (hlast ▸ rfl)

/-- **The first callback of every connection is `OnConnect`.**  The peers and the
chip go on between any two calls of the platform: in every run in which no call
that starts to listen returns with the socket open already, `OnCanRead` and
`OnDisconnect` are only delivered for connections that were announced with
`OnConnect`. -/
theorem announcedFirst {x : ServerSocket W L} (h : Reaches link.Quiet ListensBeforeOpen x) :
    AnnouncedFirst x.log := by
  have hx : x.Knows := by
    refine h.invariant (fun port listener w => ⟨nofun, eachAfter_nil⟩)
      (fun y w hy hw => hy.outside hw) (fun y c hy hc => ?_)
    cases c with
    | pickClosedSocket =>
      exact hy.pick y.pickClosedSocket_pick fun has => hc (.inl ⟨rfl, has⟩)
    | performIo => exact hy.poll y.performIo_poll fun hread => hc (.inr ⟨rfl, hread⟩)
    | releaseSocket => exact hy.releaseSocket
    | socketLost => exact hy.socketLost
  exact hx.log

/-- A server socket on a chip on which a peer connects to socket `0` in the given
call of the library, and the peers do nothing before. -/
def visited (calls : ℕ) (listener : Scripted) : ServerSocket (EmbeddedNetwork LiveChip) Scripted :=
  { listener := listener
    tcpPort := 80
    net := { chip := { moves := List.replicate calls (7, .drop) ++ [(0, .connect)] } } }

/-- The peer connects after `PickClosedSocket`, which makes ten calls. -/
theorem announcedFirst_visited :
    let x := ((visited 10 { canRead := [.close] }).run .pickClosedSocket).run .performIo
    (x.run .performIo).callbacks = [.onConnect false, .onCanRead true] ∧
      AnnouncedFirst (x.run .performIo).log := by
  intro x
  have hpick : Reaches link.Quiet ListensBeforeOpen
      ((visited 10 { canRead := [.close] }).run .pickClosedSocket) :=
    (Reaches.start 80 _ _).call fun _ _ => by decide
  refine ⟨by decide +kernel, announcedFirst (Reaches.call (hpick.call (c := .performIo) ?_) ?_)⟩
  · rintro (⟨h, -⟩ | ⟨-, h⟩)
    · exact absurd h (by decide)
    · exact absurd h (by decide)
  · rintro (⟨h, -⟩ | ⟨-, h⟩)
    · exact absurd h (by decide)
    · exact absurd h (by decide)

/-- **A connection that is never announced.**  The peer connects between
`InitializeTcpListenerSocket` and the status read after it, in the ninth call of
`PickClosedSocket`; the first callback is `OnCanRead`. -/
theorem announcedFirst_counterexample :
    ¬ ∀ x : ServerSocket (EmbeddedNetwork LiveChip) Scripted,
      Reaches link.Quiet (fun _ _ => True) x → AnnouncedFirst x.log := by
  intro h
  let x := ((visited 8 {}).run .pickClosedSocket).run .performIo
  have hreach : Reaches link.Quiet (fun _ _ => True) x :=
    ((Reaches.start 80 _ _).call trivial).call trivial
  have hcalls : x.callbacks = [.onCanRead false] := by decide +kernel
  obtain ⟨e, hlog, he⟩ := List.map_eq_singleton_iff.1 hcalls
  have hfirst : ¬ e.announces := by
    rintro ⟨closed, hc⟩
    exact absurd (he.symm.trans hc) nofun
  obtain ⟨d, hd, -⟩ := h x hreach [] e [] hlog hfirst
  exact absurd hd List.not_mem_nil

end ServerSocket
end McuNet
