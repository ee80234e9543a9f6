/-
# Giving up the hardware socket

`ServerSocket::ReleaseSocket`, `ServerSocket::SocketLost` and
`ServerSocket::CloseHardwareSocket`.

A listener that was told of a connection should learn of its end, whichever
operation ends the use of the hardware socket.  `PerformIO` and `SocketLost`
decide from the remembered status and the disconnect record, `ReleaseSocket`
from the hardware: it refuses while the socket is in the TCP connection
lifecycle, and otherwise closes it.  `CloseHardwareSocket` is documented to
inform the listener in that case, and does not.

So a connection is dropped silently exactly when `ReleaseSocket` finds the socket
out of the lifecycle before a poll has noticed (`nothingDropped_iff`), for
instance after the peer has reset the connection
(`nothingDropped_counterexample`).  Nothing is assumed of the platform.
-/

import McuNet.Core.History
import McuNet.Embedded.W5500

namespace McuNet

/-- Whether a connection is announced and not ended after the callback, when it
was `o` before. -/
def Callback.leaves (o : Bool) : Callback → Bool
  | .onConnect closed => !closed
  | .onCanRead closed => o && !closed
  | .onDisconnect => false

/-- A connection was announced with `OnConnect`, and neither was `OnDisconnect`
delivered for it nor has the listener closed it. -/
def outstanding (l : List Callback) : Bool := l.foldl Callback.leaves false

/-- Two `OnConnect` never occur without the end of the first in between. -/
def Ended (l : List Callback) : Prop :=
  EachAfter (fun before c => ∀ closed, c = .onConnect closed → outstanding before = false) l

theorem outstanding_append (l : List Callback) (c : Callback) :
    outstanding (l ++ [c]) = c.leaves (outstanding l) := by
  rw [outstanding, List.foldl_append]
  rfl

namespace ServerSocket

variable {W L : Type*} [Platform W] [ServerSocketListener L]

/-- When the hardware socket has been given up no connection is outstanding, and
all earlier ones were ended before the next was announced. -/
structure NothingDropped (x : ServerSocket W L) : Prop where
  released : x.hasSocket = false → outstanding x.callbacks = false
  ended : Ended x.callbacks

/-- A `ReleaseSocket` while a connection is outstanding finds the socket in the
TCP connection lifecycle. -/
def ReleasedInTime (x : ServerSocket W L) (c : PublicCall) : Prop :=
  c = .releaseSocket → outstanding x.callbacks = true →
    (Platform.socketIsInTcpConnectionLifecycle x.sockNum x.net).1 = true

/-! ### The invariant -/

/-- **An outstanding connection is remembered**: the hardware socket is held, its
last status was open, and no disconnect is recorded. -/
structure Remembers (x : ServerSocket W L) : Prop where
  open_of : outstanding x.callbacks = true → x.hasSocket = true ∧
    statusIsOpen x.lastStatus = true ∧ x.disconnectData.disconnected = false
  ended : Ended x.callbacks

omit [Platform W] [ServerSocketListener L] in
/-- Nothing is outstanding when one of the three does not hold. -/
theorem Remembers.none_of {x : ServerSocket W L} (h : x.Remembers)
    (hno : x.hasSocket = true → statusIsOpen x.lastStatus = true →
      x.disconnectData.disconnected = true) : outstanding x.callbacks = false := by
  by_contra ho
  obtain ⟨has, hopen, hdis⟩ := h.open_of (by simpa using ho)
  exact Bool.false_ne_true (hdis.symm.trans (hno has hopen))

omit [Platform W] [ServerSocketListener L] in
/-- Nothing is to be remembered while no connection is outstanding. -/
theorem Remembers.of_none {x y : ServerSocket W L} (h : x.Remembers)
    (hxy : y.callbacks = x.callbacks) (hno : outstanding x.callbacks = false) : y.Remembers := by
  refine ⟨fun ho => ?_, hxy ▸ h.ended⟩
  rw [hxy, hno] at ho
  exact absurd ho Bool.false_ne_true

omit [Platform W] [ServerSocketListener L] in
/-- After `OnDisconnect` nothing is outstanding. -/
theorem Remembers.told_disconnect {x y : ServerSocket W L} (h : x.Remembers)
    (hy : y.callbacks = x.callbacks ++ [.onDisconnect]) : y.Remembers := by
  refine ⟨fun ho => ?_, hy ▸ eachAfter_append.2 ⟨h.ended, nofun⟩⟩
  rw [hy, outstanding_append] at ho
  exact absurd ho Bool.false_ne_true

omit [Platform W] [ServerSocketListener L] in
/-- While the remembered status is not open, nothing is outstanding. -/
theorem Remembers.none_of_notOpen {x : ServerSocket W L} (h : x.Remembers)
    (hno : statusIsOpen x.lastStatus = false) : outstanding x.callbacks = false :=
  h.none_of fun _ ho => absurd (hno.symm.trans ho) Bool.false_ne_true

omit [Platform W] [ServerSocketListener L] in
/-- Without a hardware socket, nothing is outstanding. -/
theorem Remembers.none_of_released {x : ServerSocket W L} (h : x.Remembers)
    (hno : x.hasSocket = false) : outstanding x.callbacks = false :=
  h.none_of fun has _ => absurd (hno.symm.trans has) Bool.false_ne_true

omit [ServerSocketListener L] in
/-- A callback with a connection, on a socket whose status is open. -/
theorem Remembers.announce {x : ServerSocket W L} {kind : Bool → Callback}
    (p : Program ConnectionOp Reply L) (h : Ended x.callbacks)
    (has : x.hasSocket = true) (hopen : statusIsOpen x.lastStatus = true)
    (hclosed : ∀ o, (kind true).leaves o = false)
    (hkind : ∀ closed c, kind closed = .onConnect c → outstanding x.callbacks = false) :
    (x.announce kind p).Remembers := by
  obtain ⟨htold, hdis, hlast⟩ := x.announce_spec kind p
  generalize (Serving.serve p x.sockNum x.net).2.closed = closed at htold hdis hlast
  refine ⟨fun ho => ?_, htold.callbacks ▸ eachAfter_append.2 ⟨h, hkind closed⟩⟩
  rw [htold.callbacks, outstanding_append] at ho
  cases closed with
  | true => exact absurd ((hclosed _).symm.trans ho) Bool.false_ne_true
  | false => exact ⟨htold.hasSocket.trans has, (hlast rfl).symm ▸ hopen, hdis⟩

/-- **A poll keeps the invariant.** -/
theorem Remembers.poll {x y : ServerSocket W L} (h : x.Remembers) (hp : x.Poll y) :
    y.Remembers := by
  cases hp with
  | released _ => exact h
  | lost _ _ _ =>
    rcases x.refreshStatus.noticeLoss_cases with ⟨hdis, heq⟩ | ⟨-, -, -, -, htold⟩
    · have hcalls : x.refreshStatus.noticeLoss.callbacks = x.callbacks :=
        (congrArg callbacks heq).trans x.unseen_refreshStatus.callbacks
      exact h.of_none hcalls (h.none_of fun _ _ => hdis)
    · exact h.told_disconnect htold.callbacks
  | closed _ was _ => exact h.of_none (unseen_beginListening _).callbacks (h.none_of_notOpen was)
  | listening _ was _ => exact h.of_none rfl (h.none_of_notOpen was)
  | connected has was now =>
    exact .announce _ h.ended has now (fun _ => rfl) fun _ _ _ => h.none_of_notOpen was
  | canRead has was now =>
    exact .announce _ h.ended has (now ▸ rfl) (fun _ => Bool.and_false _) nofun
  | closeWait has was now =>
    rcases x.refreshStatus.handleCloseWait_cases with heq | heq
    · rw [heq]
      exact .announce _ h.ended has (show statusIsOpen x.refreshStatus.lastStatus = true from
        now ▸ rfl) (fun _ => Bool.and_false _) nofun
    · rw [heq]
      exact h.told_disconnect (told_endHalfClosed _).callbacks
  | closing _ was _ =>
    exact h.of_none (unseen_detectCloseTimeout _).callbacks (h.none_of_notOpen was)
  | stuck _ was _ _ =>
    exact h.of_none (unseen_closeHardwareSocket _).callbacks (h.none_of_notOpen was)
  | initializing _ was _ => exact h.of_none rfl (h.none_of_notOpen was)
  | undocumented _ was _ => exact h.of_none rfl (h.none_of_notOpen was)

omit [ServerSocketListener L] in
/-- A socket that is picked has no connection yet. -/
theorem Remembers.pick {x y : ServerSocket W L} {ok : Bool} (h : x.Remembers)
    (hp : x.Pick (ok, y)) : y.Remembers := by
  have hbegin : x.found.beginListening.2.callbacks = x.callbacks :=
    (unseen_beginListening x.found).callbacks
  cases hp with
  | bound _ => exact h
  | noneFree has _ => exact h.of_none rfl (h.none_of_released has)
  | refused has _ _ _ _ => exact h.of_none hbegin (h.none_of_released has)
  | picked has _ _ _ _ => exact h.of_none hbegin (h.none_of_released has)

/-- `SocketLost` tells the listener. -/
theorem Remembers.socketLost {x : ServerSocket W L} (h : x.Remembers) : x.socketLost.Remembers := by
  obtain ⟨-, -, -, ⟨-, hlog⟩ | ⟨hno, hlog⟩⟩ := x.socketLost_cases
  · refine h.told_disconnect ?_
    rw [callbacks, hlog, List.map_append]
    rfl
  · refine h.of_none (by rw [callbacks, hlog, callbacks]) (h.none_of fun has hopen => ?_)
    rw [has, hopen] at hno
    exact absurd hno.symm Bool.false_ne_true

omit [ServerSocketListener L] in
/-- `ReleaseSocket` of an announced connection is refused where the condition holds. -/
theorem Remembers.releaseSocket {x : ServerSocket W L} (h : x.Remembers)
    (hok : outstanding x.callbacks = true →
      (Platform.socketIsInTcpConnectionLifecycle x.sockNum x.net).1 = true) :
    x.releaseSocket.2.Remembers := by
  obtain ⟨hlog, ⟨-, -, heq⟩ | ⟨-, hno, -⟩ | ⟨-, heq⟩⟩ := x.releaseSocket_cases
  · rw [heq]
    exact ⟨h.open_of, h.ended⟩
  · refine h.of_none (congrArg (List.map Delivery.callback) hlog) ?_
    by_contra ho
    exact absurd (hno.symm.trans (hok (by simpa using ho))) Bool.false_ne_true
  · rw [heq]
    exact h

/-- One call, made in time, keeps the invariant. -/
theorem Remembers.run {x : ServerSocket W L} (h : x.Remembers) {c : PublicCall}
    (hok : x.ReleasedInTime c) : (x.run c).Remembers := by
  cases c with
  | pickClosedSocket => exact h.pick x.pickClosedSocket_pick
  | performIo => exact h.poll x.performIo_poll
  | releaseSocket => exact h.releaseSocket (hok rfl)
  | socketLost => exact h.socketLost

omit [Platform W] [ServerSocketListener L] in
/-- What is remembered is not dropped. -/
theorem Remembers.nothingDropped {x : ServerSocket W L} (h : x.Remembers) : x.NothingDropped :=
  ⟨h.none_of_released, h.ended⟩

/-- **When no connection is dropped silently.**  On any platform, which may change
in any way between the calls: as long as every `ReleaseSocket` is made in time,
no connection is dropped, and the first one that is not drops a connection. -/
theorem nothingDropped_iff {x : ServerSocket W L}
    (h : Reaches (fun _ _ => True) ReleasedInTime x) :
    x.NothingDropped ∧ ∀ c, (x.run c).NothingDropped ↔ x.ReleasedInTime c := by
  have hx : x.Remembers := by
    refine h.invariant (fun port listener w => ⟨nofun, eachAfter_nil⟩) (fun y w hy _ => ?_)
      (fun y c hy hc => hy.run hc)
    exact ⟨hy.open_of, hy.ended⟩
  refine ⟨hx.nothingDropped, fun c => ⟨?_, fun hok => (hx.run hok).nothingDropped⟩⟩
  rintro hnot rfl ho
  obtain ⟨hlog, ⟨-, hconn, -⟩ | ⟨-, -, hreleased⟩ | ⟨hno, -⟩⟩ := x.releaseSocket_cases
  · exact hconn
  · have := hnot.released hreleased
    rw [show (x.run .releaseSocket).callbacks = x.callbacks from
      congrArg (List.map Delivery.callback) hlog, ho] at this
    exact absurd this (by decide)
  · exact absurd (hno.symm.trans (hx.open_of ho).1) Bool.false_ne_true

/-- A server socket whose listener was told of a connection that the peer has
reset since. -/
def reset : ServerSocket (EmbeddedNetwork StatusChip) Scripted :=
  { accepted {} with net := (accepted {}).net.turns 0 SnSR.closed }

/-- The equivalence for a connection that was reset after it was announced. -/
theorem nothingDropped_iff_reset :
    reset.NothingDropped ∧ ∀ c, (reset.run c).NothingDropped ↔ reset.ReleasedInTime c :=
  nothingDropped_iff ((reaches_accepted {} (fun _ => nofun) (fun _ => nofun)).outside trivial)

/-- **A connection that is dropped silently.**  The peer resets the connection,
and the socket is released before the next poll. -/
theorem nothingDropped_counterexample :
    ¬ ∀ x : ServerSocket (EmbeddedNetwork StatusChip) Scripted,
      Reaches (fun _ _ => True) (fun _ _ => True) x → x.NothingDropped := by
  intro h
  have hreach : Reaches (fun _ _ => True) (fun _ _ => True) (reset.run .releaseSocket) :=
    ((reaches_accepted {} (fun _ => trivial) (fun _ => trivial)).outside trivial).call trivial
  have hcalls : outstanding (reset.run .releaseSocket).callbacks = true := by decide
  exact absurd (hcalls.symm.trans ((h _ hreach).released (by decide))) (by decide)

end ServerSocket
end McuNet
