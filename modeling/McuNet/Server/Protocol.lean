/-
# The listener's protocol

`ServerSocket::PerformIO` and its helpers, `PickClosedSocket` and `SocketLost`.

A listener may rely on the order of the calls it gets: `OnConnect` opens a
connection, any number of `OnCanRead` follow, and the connection ends with one
`OnDisconnect`, or without it when the listener closed it itself.  On hardware
whose status does not change under a call this holds in every run
(`callbacks_follow`).

The invariant is `InStep`: the remembered status is open exactly while the
listener has a connection, and meanwhile no disconnect is recorded.  It survives
because after `close` the socket is not open any more when the status is read
again (`not_isOpen_of_closed`).
-/

import McuNet.Embedded.W5500

namespace McuNet

open Session SocketMachine

variable {W L : Type*} [Platform W] [Implements lifecycle W]

/-! ### Hardware that waits -/

theorem isOpen_of_quiet {w w' : W} (h : lifecycle.Quiet w w') (n : UInt8) :
    lifecycle.IsOpen w' n ↔ lifecycle.IsOpen w n := by
  have hn : lifecycle.socket w n = lifecycle.socket w' n := h n
  rw [SocketMachine.IsOpen, SocketMachine.IsOpen, hn]

/-- After the hardware's part of `close` the socket is not open. -/
theorem not_isOpen_of_disconnects {n : UInt8} {w w' : W} (h : lifecycle.Disconnects n w w') :
    ¬ lifecycle.IsOpen w' n := by
  cases h with
  | skipped before notOpen after => rwa [isOpen_of_quiet after]
  | disconnected before isOpen effect after =>
    rw [isOpen_of_quiet after]
    intro hopen
    rcases effect.1 isOpen with hs | hs
    · have := statusIsOpen_of_closing hs
      rw [SocketMachine.IsOpen] at hopen
      exact absurd (hopen.symm.trans this) (by decide)
    · exact absurd (hopen.symm.trans (congrArg statusIsOpen hs)) (by decide)

/-- **When the listener has called `close`, the socket is not open any more.** -/
theorem Serving.not_isOpen_of_closed {α : Type*} (p : Program ConnectionOp Reply α) (n : UInt8)
    (w : W) (hc : (serve p n w).2.closed = true) : ¬ lifecycle.IsOpen (serve p n w).2.net n := by
  let I : Serving W → Prop := fun s => s.conn.sockNum = n ∧
    (s.closed = true → ¬ lifecycle.IsOpen s.net n)
  have hI : I (serve p n w).2 := by
    refine serve_machine lifecycle p ?_ ?_ ⟨rfl, nofun⟩
    · intro s t hst hs
      refine ⟨hst.sockNum.trans hs.1, fun hc => ?_⟩
      rw [isOpen_of_quiet hst.net]
      exact hs.2 (hst.closed ▸ hc)
    · intro s hs
      obtain ⟨hsock, -, v, hdis, hquiet, -⟩ := s.close_spec lifecycle
      refine ⟨hsock.trans hs.1, fun _ => ?_⟩
      rw [isOpen_of_quiet hquiet]
      exact not_isOpen_of_disconnects (hs.1 ▸ hdis)
  exact hI.2 hc

namespace ServerSocket

/-! ### The remembered status -/

/-- A closed hardware socket is not open. -/
theorem closeHardwareSocket_notOpen (x : ServerSocket W L) :
    statusIsOpen x.closeHardwareSocket.lastStatus = false := by
  obtain ⟨s, hclose, hadv, hlast⟩ := x.closeHardwareSocket_spec lifecycle
  have hs : s = SnSR.closed := hclose
  rw [hlast, ← show s = x.closeHardwareSocket.hardware lifecycle from hadv, hs]
  rfl

/-- `BeginListening` does not open a closed socket, and does not remember an open
status for it. -/
theorem beginListening_notOpen (x : ServerSocket W L) (has : x.hasSocket = true)
    (hclosed : x.hardware lifecycle = SnSR.closed) (hlast : statusIsOpen x.lastStatus = false) :
    statusIsOpen x.beginListening.2.lastStatus = false ∧
      statusIsOpen (x.beginListening.2.hardware lifecycle) = false := by
  rcases x.beginListening_spec lifecycle has with ⟨hadv, h⟩ |
    ⟨a, b, c, ha, hb, hc, ⟨d, hlisten, hd, h⟩ | ⟨hrefuse, h⟩⟩
  · have hy : x.hardware lifecycle = x.beginListening.2.hardware lifecycle := hadv
    have hopen : statusIsOpen (x.beginListening.2.hardware lifecycle) = false := by
      rw [← hy, hclosed]
      rfl
    refine ⟨?_, hopen⟩
    rcases h with h | h
    · exact h ▸ hopen
    · exact h ▸ hlast
  · have hcc : c = SnSR.closed := (show b = c from hc).symm.trans hb
    have hopen : statusIsOpen (x.beginListening.2.hardware lifecycle) = false := by
      rw [← show d = x.beginListening.2.hardware lifecycle from hd,
        show d = SnSR.listen from hlisten hcc]
      rfl
    exact ⟨h ▸ hopen, hopen⟩
  · have hcc : c = SnSR.closed := (show b = c from hc).symm.trans hb
    refine ⟨?_, ?_⟩
    · rw [h, hcc]
      rfl
    · rw [show x.beginListening.2.hardware lifecycle = SnSR.closed from hrefuse hcc]
      rfl

/-- After a callback in which the listener called `close`, the remembered status
is not open. -/
theorem announce_notOpen (kind : Bool → Callback) (p : Program ConnectionOp Reply L)
    (x : ServerSocket W L) (hc : (Serving.serve p x.sockNum x.net).2.closed = true) :
    statusIsOpen (x.announce kind p).lastStatus = false := by
  obtain ⟨w, hquiet, -, hlast⟩ := (x.announce_quiet lifecycle kind p).2 hc
  have hno := Serving.not_isOpen_of_closed p x.sockNum x.net hc
  rw [← isOpen_of_quiet hquiet] at hno
  rw [hlast]
  exact Bool.eq_false_of_not_eq_true hno

variable [ServerSocketListener L]

/-- After `HandleCloseWait` has closed the connection, the remembered status is
not open. -/
theorem endHalfClosed_notOpen (x : ServerSocket W L) :
    statusIsOpen x.endHalfClosed.lastStatus = false := by
  obtain ⟨v, hdis, hquiet, -, hlast, -⟩ := x.endHalfClosed_spec lifecycle
  have hno := not_isOpen_of_disconnects hdis
  rw [← isOpen_of_quiet hquiet] at hno
  rw [hlast]
  exact Bool.eq_false_of_not_eq_true hno

/-! ### The invariant -/

omit [Platform W] [Implements lifecycle W] [ServerSocketListener L] in
/-- Whether the server socket takes the listener to have a connection. -/
def phase (x : ServerSocket W L) : Phase :=
  if x.hasSocket && statusIsOpen x.lastStatus then .active else .idle

/-- The callbacks made so far leave the protocol in phase `p`. -/
def Heard (x : ServerSocket W L) (p : Phase) : Prop :=
  (x.callbacks.map Callback.signal).foldlM Phase.next .idle = some p

/-- **The listener and the server socket agree** on whether there is a
connection, and while there is one no disconnect is recorded. -/
structure InStep (x : ServerSocket W L) : Prop where
  heard : x.Heard x.phase
  connected : x.phase = .active → x.disconnectData.disconnected = false

section

omit [Platform W] [Implements lifecycle W] [ServerSocketListener L]

theorem phase_active {x : ServerSocket W L} (has : x.hasSocket = true)
    (h : statusIsOpen x.lastStatus = true) : x.phase = .active := by
  rw [phase, has, h]
  rfl

theorem phase_idle {x : ServerSocket W L} (h : statusIsOpen x.lastStatus = false) :
    x.phase = .idle := by
  rw [phase, h, Bool.and_false]
  rfl

theorem phase_released {x : ServerSocket W L} (h : x.hasSocket = false) : x.phase = .idle := by
  rw [phase, h]
  rfl

theorem Heard.unseen {x y : ServerSocket W L} {p : Phase} (h : x.Heard p) (hu : Unseen x y) :
    y.Heard p := by
  rw [Heard, hu.callbacks]
  exact h

theorem Heard.next {x y : ServerSocket W L} {p q : Phase} {c : Callback} (h : x.Heard p)
    (hy : y.callbacks = x.callbacks ++ [c]) (hq : p.next c.signal = some q) : y.Heard q := by
  have h : (x.callbacks.map Callback.signal).foldlM Phase.next .idle = some p := h
  rw [Heard, hy, List.map_append, List.foldlM_append, h]
  simpa using hq

/-- Without an open status there is no more to say. -/
theorem InStep.of_idle {x : ServerSocket W L} (h : x.Heard .idle)
    (hno : statusIsOpen x.lastStatus = false) : x.InStep :=
  ⟨phase_idle hno ▸ h, fun ha => absurd ((phase_idle hno).symm.trans ha) (by decide)⟩

end

omit [ServerSocketListener L] in
/-- A callback on an open socket, allowed in phase `p`. -/
theorem inStep_announce {x : ServerSocket W L} {p : Phase} {kind : Bool → Callback}
    (prog : Program ConnectionOp Reply L) (h : x.Heard p)
    (hkind : ∀ closed, p.next (kind closed).signal = some (Phase.after closed))
    (has : x.hasSocket = true) (hopen : statusIsOpen x.lastStatus = true) :
    (x.announce kind prog).InStep := by
  obtain ⟨htold, hdis, hlast⟩ := x.announce_spec kind prog
  have hheard := h.next htold.callbacks (hkind _)
  cases hc : (Serving.serve prog x.sockNum x.net).2.closed with
  | true =>
    rw [hc] at hheard
    exact .of_idle hheard (x.announce_notOpen kind prog hc)
  | false =>
    rw [hc] at hheard hdis
    have hactive : (x.announce kind prog).phase = .active :=
      phase_active (htold.hasSocket.trans has) ((hlast hc).symm ▸ hopen)
    exact ⟨hactive ▸ hheard, fun _ => hdis⟩

/-- **A poll keeps the invariant.** -/
theorem InStep.poll {x y : ServerSocket W L} (h : x.InStep) (hp : x.Poll y) : y.InStep := by
  have hread := x.unseen_refreshStatus
  have hactive (has : x.hasSocket = true) (was : statusIsOpen x.lastStatus = true) :
      x.refreshStatus.Heard .active ∧ x.disconnectData.disconnected = false :=
    ⟨(phase_active has was ▸ h.heard : x.Heard .active).unseen hread,
      h.connected (phase_active has was)⟩
  have hidle (was : statusIsOpen x.lastStatus = false) : x.refreshStatus.Heard .idle :=
    (phase_idle was ▸ h.heard : x.Heard .idle).unseen hread
  cases hp with
  | released _ => exact h
  | lost has was now =>
    obtain ⟨hheard, hno⟩ := hactive has was
    rcases x.refreshStatus.noticeLoss_cases with ⟨hdis, -⟩ | ⟨-, -, hlast, -, htold⟩
    · exact absurd (hdis.symm.trans hno) (by decide)
    · exact .of_idle (hheard.next htold.callbacks rfl) (hlast ▸ now)
  | closed has was now =>
    refine .of_idle ((hidle was).unseen (unseen_beginListening _)) ?_
    have hclosed : x.refreshStatus.hardware lifecycle = SnSR.closed :=
      (x.lastStatus_refreshStatus lifecycle).symm.trans now
    exact (beginListening_notOpen x.refreshStatus has hclosed (congrArg statusIsOpen now)).1
  | listening _ was _ => exact .of_idle (hidle was) rfl
  | connected has was now => exact inStep_announce _ (hidle was) (fun _ => rfl) has now
  | canRead has was now =>
    exact inStep_announce _ (hactive has was).1 (fun _ => rfl) has (now ▸ rfl)
  | closeWait has was now =>
    have hheard : x.refreshStatus.asked.Heard .active := (hactive has was).1
    rcases x.refreshStatus.handleCloseWait_cases with heq | heq
    · rw [heq]
      exact inStep_announce _ hheard (fun _ => rfl) has
        (show statusIsOpen x.refreshStatus.lastStatus = true from now ▸ rfl)
    · rw [heq]
      exact .of_idle (hheard.next (told_endHalfClosed _).callbacks rfl) (endHalfClosed_notOpen _)
  | closing _ was now =>
    exact .of_idle ((hidle was).unseen (unseen_detectCloseTimeout _))
      (detectCloseTimeout_notOpen _ closeHardwareSocket_notOpen (statusIsOpen_of_closing now))
  | stuck _ was _ _ =>
    exact .of_idle ((hidle was).unseen (unseen_closeHardwareSocket _))
      (closeHardwareSocket_notOpen _)
  | initializing _ was now => exact .of_idle (hidle was) (now ▸ rfl)
  | undocumented _ was _ => exact .of_idle (hidle was) was

omit [ServerSocketListener L] in
/-- `PickClosedSocket` keeps the invariant: the socket it finds is closed. -/
theorem InStep.pick {x y : ServerSocket W L} {ok : Bool} (h : x.InStep) (hp : x.Pick (ok, y)) :
    y.InStep := by
  have hbegin (has : x.hasSocket = false) (range : x.found.hasSocket = true)
      (h0 : 0 ≤ (Platform.findUnusedSocket x.net).1)
      (h8 : (Platform.findUnusedSocket x.net).1 < maxSockNum.toNat) :
      x.found.beginListening.2.Heard .idle ∧
      statusIsOpen x.found.beginListening.2.lastStatus = false ∧
      statusIsOpen (x.found.beginListening.2.hardware lifecycle) = false := by
    have hheard : x.found.Heard .idle := (phase_released has ▸ h.heard : x.Heard .idle)
    have hclosed : x.found.hardware lifecycle = SnSR.closed :=
      Implements.findUnusedSocket_closed (M := lifecycle) x.net h0 h8
    exact ⟨hheard.unseen (unseen_beginListening _), beginListening_notOpen _ range hclosed rfl⟩
  cases hp with
  | bound _ => exact h
  | noneFree has _ => exact .of_idle (phase_released has ▸ h.heard : x.Heard .idle) rfl
  | refused has range h0 h8 _ =>
    obtain ⟨hheard, hlast, -⟩ := hbegin has range h0 h8
    exact .of_idle (x := { x.found.beginListening.2 with sockNum := maxSockNum }) hheard hlast
  | picked has range h0 h8 _ =>
    obtain ⟨hheard, -, hopen⟩ := hbegin has range h0 h8
    refine .of_idle (hheard.unseen (unseen_refreshStatus _)) ?_
    have hq : x.found.beginListening.2.hardware lifecycle =
      x.found.beginListening.2.refreshStatus.hardware lifecycle :=
      quiet_refreshStatus lifecycle _ _
    rw [lastStatus_refreshStatus lifecycle, ← hq]
    exact hopen

omit [Implements lifecycle W] in
/-- `SocketLost` keeps the invariant: it reports the end of a connection. -/
theorem InStep.socketLost {x : ServerSocket W L} (h : x.InStep) : x.socketLost.InStep := by
  obtain ⟨-, hlast, -, hlog⟩ := x.socketLost_cases
  refine .of_idle ?_ (hlast ▸ rfl)
  rcases hlog with ⟨hopen, hlog⟩ | ⟨hopen, hlog⟩
  · have hactive : x.Heard .active := (if_pos hopen : x.phase = .active) ▸ h.heard
    refine hactive.next ?_ (c := .onDisconnect) rfl
    rw [callbacks, hlog, List.map_append]
    rfl
  · have hidle : x.Heard .idle := (if_neg (by rw [hopen]; decide) : x.phase = .idle) ▸ h.heard
    rw [Heard, callbacks, hlog]
    exact hidle

/-- What the status of a socket may do between two calls. -/
inductive Evolves : UInt8 → UInt8 → Prop where
  | synRecv : Evolves SnSR.listen SnSR.synRecv
  | established : Evolves SnSR.synRecv SnSR.established
  | closeWait : Evolves SnSR.established SnSR.closeWait
  | listenAgain : Evolves SnSR.synRecv SnSR.listen
  | closing {s t : UInt8} (hs : statusIsClosing s = true) (ht : statusIsClosing t = true) :
      Evolves s t
  | closed (s : UInt8) : Evolves s SnSR.closed

/-- **The listener's protocol.**  On hardware with the lifecycle of a TCP server,
whatever happens to the statuses between the calls of `PickClosedSocket`,
`PerformIO` and `SocketLost`, and whatever the listener does in its callbacks,
the callbacks form sessions: one `OnConnect`, any number of `OnCanRead`, and as
the end either one `OnDisconnect` or the return of a callback in which the
listener called `close`. -/
theorem callbacks_follow {x : ServerSocket W L}
    (h : Reaches (fun w w' => ∀ n, Relation.ReflTransGen Evolves (lifecycle.socket w n)
      (lifecycle.socket w' n)) (fun _ c => c ≠ .releaseSocket) x) :
    Follows (x.callbacks.map Callback.signal) := by
  have hx : x.InStep := by
    refine h.invariant (fun port listener w => .of_idle rfl rfl) (fun y w hy _ => ?_)
      (fun y c hy hc => ?_)
    · exact ⟨hy.heard, hy.connected⟩
    · cases c with
      | pickClosedSocket => exact hy.pick y.pickClosedSocket_pick
      | performIo => exact hy.poll y.performIo_poll
      | releaseSocket => exact absurd rfl hc
      | socketLost => exact hy.socketLost
  exact follows_of_foldlM hx.heard

/-- A server socket on port 80 whose listener greets and closes when it is first
asked to read: it picked a socket, a peer connected, and two polls were made. -/
def greeted : ServerSocket (EmbeddedNetwork StatusChip) Scripted :=
  let x : ServerSocket (EmbeddedNetwork StatusChip) Scripted :=
    { listener := { connect := [.writeBuf [72, 105]], canRead := [.read, .close] }
      tcpPort := 80
      net := { chip := {} } }
  let x := x.run .pickClosedSocket
  let x := { x with net := x.net.turns 0 SnSR.established }
  (x.run .performIo).run .performIo

theorem callbacks_follow_greeted :
    greeted.callbacks = [.onConnect false, .onCanRead true] ∧
      Follows (greeted.callbacks.map Callback.signal) := by
  refine ⟨rfl, callbacks_follow ?_⟩
  refine Reaches.call (Reaches.call (Reaches.outside (Reaches.call (Reaches.start 80 _ _)
    (c := .pickClosedSocket) ?_) (fun n => ?_)) (c := .performIo) ?_) (c := .performIo) ?_
  · decide
  · by_cases hn : n = 0
    · subst hn
      exact .tail (.single .synRecv) .established
    · rw [EmbeddedNetwork.socket_turns _ _ _ hn]
      exact .refl
  · decide
  · decide

end ServerSocket
end McuNet
