/-
# The sockets of the host are links

`extras/host/ethernet5500/host_socket_info.cpp` and
`extras/host/ethernet5500/host_network.cpp`.

Behind each socket number of a `HostNetwork` there is a `link`: it listens while
it has a listener, it has a connection while it has the file descriptor of one,
and a status read accepts a pending connection.  A connection is closed only when
a read fails or when `CloseSocket` is called, so a connection that was shut down
keeps an open status (`statusIsOpen_iff_conn`).  A socket for which every status
read would end the process counts as not in use, and so does every socket when
the process has ended.
-/

import McuNet.Host.Network
import McuNet.Server.Link
import McuNet.Server.Fleet

namespace McuNet

open SocketMachine

namespace HostSocketInfo

/-- The socket as a link.  It has its ports while it listens. -/
def link (s : HostSocketInfo) (closes : ℕ) : Link :=
  if 0 < s.tcpPort ∧ 0 < s.mappedTcpPort then .listening s.accepted closes
  else if haveFd s.listenerSocketFd then .unused s.accepted closes
  else if haveFd s.connectionSocketFd then
    if s.canReadFromConnection then
      .connected SnSR.established statusIsOpen_established s.disconnecting s.accepted closes
    else .connected SnSR.closeWait statusIsOpen_closeWait s.disconnecting s.accepted closes
  else .unused s.accepted closes

variable {K : Type*} [Posix K] (s : HostSocketInfo) (c : ℕ) (k : K)

omit [Posix K] in
@[simp] theorem link_serial : (s.link c).serial = s.accepted := by
  unfold link
  split_ifs <;> rfl

omit [Posix K] in
@[simp] theorem link_closes : (s.link c).closes = c := by
  unfold link
  split_ifs <;> rfl

omit [Posix K] in
/-- Without ports and a connection the socket is not in use. -/
theorem link_unused (hp : ¬ (0 < s.tcpPort ∧ 0 < s.mappedTcpPort))
    (hc : haveFd s.connectionSocketFd = false) : s.link c = .unused s.accepted c := by
  simp [link, hp, hc]

omit [Posix K] in
/-- With ports it listens. -/
theorem link_listening (hp : 0 < s.tcpPort ∧ 0 < s.mappedTcpPort) :
    s.link c = .listening s.accepted c := if_pos hp

omit [Posix K] in
/-- With neither ports nor a listener, but with a connection, it is connected. -/
theorem link_connection (hp : ¬ (0 < s.tcpPort ∧ 0 < s.mappedTcpPort))
    (hl : ¬ haveFd s.listenerSocketFd = true) (hc : haveFd s.connectionSocketFd = true) :
    (s.link c).use = .conn s.disconnecting := by
  rw [link, if_neg hp, if_neg hl, if_pos hc]
  split_ifs <;> rfl

omit [Posix K] in
/-- A socket that is no longer in use. -/
theorem advance_of_idle {s t : HostSocketInfo} (ht : (t.link c).use = .idle)
    (ha : t.accepted = s.accepted) : Link.Advance (s.link c) (t.link c) :=
  .dropped ht (by simp [ha]) (by simp)

omit [Posix K] in
/-- The end of the stream was read. -/
theorem advance_endOfStream :
    Link.Advance (s.link c) (({ s with canReadFromConnection := false } : HostSocketInfo).link c) := by
  refine .same ?_ (by simp) (by simp)
  unfold link
  split_ifs <;> rfl

theorem advance_closeConnectionSocket :
    Link.Advance (s.link c) ((s.closeConnectionSocket k).1.link c) := by
  by_cases hp : 0 < s.tcpPort ∧ 0 < s.mappedTcpPort
  · rw [link_listening s c hp, link_listening (s.closeConnectionSocket k).1 c hp]
    exact .same rfl rfl rfl
  · refine advance_of_idle c ?_ rfl
    rw [link_unused (s.closeConnectionSocket k).1 c hp rfl]
    rfl

theorem disconnect_disconnectConnectionSocket :
    Link.Disconnect (s.link c) ((s.disconnectConnectionSocket k).2.1.link c) := by
  simp only [disconnectConnectionSocket]
  split_ifs with hc
  · set t : HostSocketInfo := { s with disconnecting := true } with ht
    by_cases hp : 0 < s.tcpPort ∧ 0 < s.mappedTcpPort
    · rw [link_listening s c hp, link_listening t c hp]
      exact .inl (.same rfl rfl rfl)
    by_cases hl : haveFd s.listenerSocketFd = true
    · refine .inl (.same ?_ (by simp [ht]) (by simp))
      rw [link, if_neg hp, if_pos hl, link, if_neg hp, if_pos hl]
    · exact .inr ⟨s.link c, .same rfl rfl rfl, ⟨_, link_connection s c hp hl hc⟩,
        link_connection t c hp hl hc, by simp [ht], by simp⟩
  · exact .inl (.same rfl rfl rfl)

theorem advance_recvInternal {len : ℕ} {peek : Bool} {r : (ℤ × List UInt8) × HostSocketInfo × K}
    (h : recvInternal len peek s k = some r) : Link.Advance (s.link c) (r.2.1.link c) := by
  cases recvInternal_cases h with
  | skipped _ => exact .same rfl rfl rfl
  | ended _ _ => exact s.advance_endOfStream c
  | got _ _ => exact .same rfl rfl rfl
  | blocked _ _ _ => exact .same rfl rfl rfl
  | lost _ _ _ => exact s.advance_closeConnectionSocket c _

/-- The status of a connection is the one that its link has afterwards. -/
theorem connectionStatus_spec {r : UInt8 × HostSocketInfo × K} (hp : s.tcpPort = 0)
    (hl : haveFd s.listenerSocketFd = false) (hc : haveFd s.connectionSocketFd = true)
    (h : s.connectionStatus k = some r) :
    r.1 = (r.2.1.link c).status ∧ Link.Advance (s.link c) (r.2.1.link c) := by
  rw [connectionStatus, isConnected, if_pos hc] at h
  obtain ⟨half, hhalf, rfl⟩ := Option.map_eq_some_iff.1 h
  cases isConnectionHalfClosed_returns hhalf with
  | notOpen hno => exact absurd (hno.symm.trans hc) Bool.false_ne_true
  | known _ hread =>
    exact ⟨by simp [link, hp, hl, hc, hread, Link.connected]; rfl, .same rfl rfl rfl⟩
  | byte hread _ =>
    exact ⟨by simp [link, hp, hl, hc, hread.2, Link.connected]; rfl, .same rfl rfl rfl⟩
  | ended _ _ => exact ⟨by simp [link, hp, hl, hc, Link.connected]; rfl, s.advance_endOfStream c⟩

omit [Posix K] in
/-- What `IsUnused` says about the ports and the file descriptors. -/
theorem isUnused_true (h : s.isUnused = some true) :
    s.tcpPort = 0 ∧ haveFd s.connectionSocketFd = false := by
  unfold isUnused at h
  split_ifs at h with hl _ hports
  · simp at h
  · exact ⟨hports.1, by simpa using h⟩

omit [Posix K] in
theorem isUnused_false (h : s.isUnused = some false) :
    (haveFd s.listenerSocketFd = true ∧ 0 < s.tcpPort ∧ 0 < s.mappedTcpPort ∧
      haveFd s.connectionSocketFd = false) ∨
    (haveFd s.listenerSocketFd = false ∧ s.tcpPort = 0 ∧ haveFd s.connectionSocketFd = true) := by
  unfold isUnused at h
  split_ifs at h with hl hports hports
  · exact .inl ⟨hl, hports⟩
  · exact .inr ⟨by simpa using hl, hports.1, by simpa using h⟩

/-- What `AcceptConnection` makes of a socket that listens. -/
theorem acceptConnection_spec (hl : haveFd s.listenerSocketFd = true)
    (hp : 0 < s.tcpPort ∧ 0 < s.mappedTcpPort) :
    let a := s.acceptConnection k
    (a.1 = false ∧ a.2.1.link c = s.link c) ∨
    (a.1 = true ∧ a.2.1.tcpPort = 0 ∧ haveFd a.2.1.listenerSocketFd = false ∧
      haveFd a.2.1.connectionSocketFd = true ∧ (a.2.1.link c).use = .conn false ∧
      a.2.1.accepted = s.accepted + 1) := by
  intro a
  have hcases : AcceptCase s k a := s.acceptConnection_cases k
  generalize a = a at hcases ⊢
  cases hcases with
  | noListener hno => exact absurd (hno.symm.trans hl) Bool.false_ne_true
  | nothing _ _ =>
    refine .inl ⟨rfl, ?_⟩
    rw [link_listening s c hp]
    exact link_listening _ c hp
  | accepted _ hfd =>
    refine .inr ⟨rfl, rfl, rfl, hfd, ?_, rfl⟩
    exact link_connection (s.withConnection _) c (show ¬(0 < (0 : UInt16) ∧ _) by simp)
      Bool.false_ne_true hfd

/-- **A status read tells the truth**, and accepts at most one connection, for a
socket that was listening. -/
theorem socketStatus_spec {r : UInt8 × HostSocketInfo × K} (h : s.socketStatus k = some r) :
    r.1 = (r.2.1.link c).status ∧ Link.Advance (s.link c) (r.2.1.link c) := by
  cases hunused : s.isUnused with
  | none => simp [socketStatus, hunused] at h
  | some unused =>
    cases unused with
    | true =>
      simp only [socketStatus, hunused] at h
      obtain rfl := Option.some.inj h
      obtain ⟨hp, hc⟩ := s.isUnused_true hunused
      refine ⟨?_, .same rfl rfl rfl⟩
      rw [link_unused s c (by simp [hp]) hc]
      rfl
    | false =>
      rcases s.isUnused_false hunused with ⟨hl, htcp, hmapped, -⟩ | ⟨hl, htcp, hc⟩
      · have hlink := link_listening s c ⟨htcp, hmapped⟩
        have hport : s.isTcpListener = some s.tcpPort := by simp [isTcpListener, hl, htcp]
        have hne : s.tcpPort ≠ 0 := fun h0 => by simp [h0] at htcp
        simp only [socketStatus, hunused, hport, if_pos hne] at h
        rcases s.acceptConnection_spec c k hl ⟨htcp, hmapped⟩ with
          ⟨hno, hsame⟩ | ⟨hyes, hp', hl', hc', huse, hserial⟩
        · rw [if_neg (by simp [hno])] at h
          obtain rfl := Option.some.inj h
          rw [hsame]
          exact ⟨by rw [hlink]; rfl, .same rfl rfl rfl⟩
        · rw [if_pos hyes] at h
          obtain ⟨hstatus, hadv⟩ := connectionStatus_spec _ c _ hp' hl' hc' h
          have haccepted : Link.Advance (s.link c) ((s.acceptConnection k).2.1.link c) :=
            .accepted (by rw [hlink]; rfl) (.inl huse) (by simp [hserial]) (by simp)
          exact ⟨hstatus, haccepted.trans hadv⟩
      · have hport : s.isTcpListener = some 0 := by simp [isTcpListener, hl, htcp]
        simp only [socketStatus, hunused, hport, ne_eq, not_true_eq_false, if_false] at h
        exact s.connectionStatus_spec c k htcp hl hc h

/-- **`InitializeTcpListener`** makes the socket listen, or leaves it not in use or
as it was. -/
theorem initializeTcpListener_spec (portMap : List (UInt16 × UInt16)) (newTcpPort : UInt16) :
    let r := s.initializeTcpListener portMap newTcpPort k
    (r.1 = true → Link.Listen (s.link c) (r.2.1.link c)) ∧
      (r.1 = false → Link.Advance (s.link c) (r.2.1.link c)) := by
  -- without a connection a socket listens or is not in use
  have hlisten : ∀ t : HostSocketInfo, haveFd t.connectionSocketFd = false →
      t.accepted = s.accepted → Link.Listen (s.link c) (t.link c) := by
    intro t hc ha
    refine ⟨.listening t.accepted c, rfl, by simp [ha, Link.listening], by simp [Link.listening], ?_⟩
    by_cases hp : 0 < t.tcpPort ∧ 0 < t.mappedTcpPort
    · rw [link_listening t c hp]
      exact .same rfl rfl rfl
    · rw [link_unused t c hp hc]
      exact .dropped rfl rfl rfl
  have hrefuse : ∀ t : HostSocketInfo, haveFd t.connectionSocketFd = false →
      t.accepted = s.accepted →
      ((t.tcpPort = s.tcpPort ∧ t.mappedTcpPort = s.mappedTcpPort) ∨ t.tcpPort = 0) →
        Link.Advance (s.link c) (t.link c) := by
    intro t hc ha hports
    by_cases hp : 0 < t.tcpPort ∧ 0 < t.mappedTcpPort
    · obtain ⟨h1, h2⟩ := hports.resolve_right fun h0 => by simp [h0] at hp
      rw [link_listening t c hp, link_listening s c (by rwa [← h1, ← h2]), ha]
      exact .same rfl rfl rfl
    · refine advance_of_idle c ?_ ha
      rw [link_unused t c hp hc]
      rfl
  obtain ⟨hc, ha⟩ := initializeTcpListener_connection portMap newTcpPort s k
  obtain ⟨-, hports⟩ := initializeTcpListener_ports portMap newTcpPort s k
  exact ⟨fun _ => hlisten _ hc ha, fun h => hrefuse _ hc ha (hports h)⟩

end HostSocketInfo

namespace HostNetwork

variable {K : Type*}

/-- A hardware socket of the host as a link. -/
def link (w : HostNetwork K) (n : UInt8) : Link :=
  if w.aborted || kMaxSockets ≤ n then .unused (w.sockets n).accepted (w.closes n)
  else (w.sockets n).link (w.closes n)

@[simp] theorem link_serial (w : HostNetwork K) (n : UInt8) :
    (w.link n).serial = (w.sockets n).accepted := by
  unfold link
  split_ifs
  · rfl
  · simp

@[simp] theorem link_closes (w : HostNetwork K) (n : UInt8) : (w.link n).closes = w.closes n := by
  unfold link
  split_ifs
  · rfl
  · simp

/-- When the process has ended no socket is in use. -/
theorem link_aborted {w : HostNetwork K} (h : w.aborted = true) (n : UInt8) :
    w.link n = .unused (w.sockets n).accepted (w.closes n) := by
  simp [link, h]

theorem link_skipped {w : HostNetwork K} {n : UInt8} (h : w.aborted = true ∨ kMaxSockets < n) :
    w.link n = .unused (w.sockets n).accepted (w.closes n) := by
  rcases h with h | h
  · exact link_aborted h n
  · have hle : kMaxSockets ≤ n := UInt8.le_of_lt h
    simp [link, hle]

/-- **An open status is that of a connection**, whether or not it was shut down. -/
theorem statusIsOpen_iff_conn (w : HostNetwork K) (n : UInt8) :
    statusIsOpen (w.link n).status = true ↔ ∃ d, (w.link n).use = .conn d := by
  refine ⟨(w.link n).conn_of_open, ?_⟩
  rintro ⟨d, hd⟩
  unfold link HostSocketInfo.link at hd ⊢
  split_ifs at hd ⊢
  · cases hd
  · cases hd
  · cases hd
  · rfl
  · rfl
  · cases hd

/-- The end of the process drops everything. -/
theorem advance_ended (w : HostNetwork K) (n : UInt8) :
    Link.Advance (w.link n) (HostNetwork.link { w with aborted := true } n) := by
  refine .dropped ?_ (by simp) (by simp)
  rw [link_aborted rfl]
  rfl

/-- A socket after a call on it, and the others. -/
theorem link_update {w : HostNetwork K} {n : UInt8} {s : HostSocketInfo} {k : K}
    (live : w.aborted = false) (range : n < kMaxSockets) :
    HostNetwork.link { w with kernel := k, sockets := Function.update w.sockets n s } n =
        s.link (w.closes n) ∧
      w.link n = (w.sockets n).link (w.closes n) ∧
      ∀ m, m ≠ n →
        HostNetwork.link { w with kernel := k, sockets := Function.update w.sockets n s } m =
          w.link m := by
  have hle : ¬ kMaxSockets ≤ n := by
    rw [UInt8.le_iff_toNat_le]
    rw [UInt8.lt_iff_toNat_lt] at range
    omega
  refine ⟨by simp [link, live, hle], by simp [link, live, hle], fun m hm => ?_⟩
  simp [link, Function.update_of_ne hm]

/-- **A call on one socket, as a relation on links.** -/
theorem acts_onSocket {α : Type*} {R : Link → Link → Prop} (default : α) (n : UInt8)
    (f : HostSocketInfo → K → Option (α × HostSocketInfo × K)) (w : HostNetwork K)
    (hadv : ∀ {a b}, Link.Advance a b → R a b)
    (hf : ∀ c r, f (w.sockets n) w.kernel = some r →
      R ((w.sockets n).link c) (r.2.1.link c)) :
    SocketMachine.ActsIn McuNet.link HostNetwork.link n R w (onSocket default n f w).2 := by
  generalize hr : onSocket default n f w = r
  cases hr ▸ onSocket_passed default n f w with
  | skipped _ => exact ⟨hadv (.same rfl rfl rfl), fun m _ => .same rfl rfl rfl⟩
  | ended => exact ⟨hadv (w.advance_ended n), fun m _ => w.advance_ended m⟩
  | done live range result =>
    obtain ⟨hself, hbefore, hothers⟩ := link_update live range
    refine ⟨?_, fun m hm => ?_⟩
    · rw [hself, hbefore]
      exact hf _ _ result
    · rw [hothers m hm]
      exact .same rfl rfl rfl

/-- A call after which the socket has at most advanced. -/
theorem quiet_onSocket {α : Type*} (default : α) (n : UInt8)
    (f : HostSocketInfo → K → Option (α × HostSocketInfo × K)) (w : HostNetwork K)
    (hf : ∀ c r, f (w.sockets n) w.kernel = some r →
      Link.Advance ((w.sockets n).link c) (r.2.1.link c)) :
    SocketMachine.QuietIn McuNet.link HostNetwork.link w (onSocket default n f w).2 := by
  obtain ⟨hself, hothers⟩ := acts_onSocket default n f w id hf
  intro m
  by_cases hm : m = n
  · rw [hm]
    exact hself
  · exact hothers m hm

/-- A call that does not change what is known of the socket. -/
theorem quiet_onSocket_same {α : Type*} (default : α) (n : UInt8)
    (f : HostSocketInfo → K → Option (α × HostSocketInfo × K)) (w : HostNetwork K)
    (hf : ∀ r, f (w.sockets n) w.kernel = some r → r.2.1 = w.sockets n) :
    SocketMachine.QuietIn McuNet.link HostNetwork.link w (onSocket default n f w).2 :=
  quiet_onSocket default n f w fun c r h => by
    rw [hf r h]
    exact .same rfl rfl rfl

/-- The loop of `FindUnusedSocket` only looks at the sockets, and what it returns
is not in use. -/
theorem findUnusedSocketIn_spec (l : List UInt8) (w : HostNetwork K) :
    let r := findUnusedSocketIn l w
    SocketMachine.QuietIn McuNet.link HostNetwork.link w r.2 ∧
      (0 ≤ r.1 → (r.2.link (UInt8.ofNat r.1.toNat)).status = SnSR.closed) := by
  induction l generalizing w with
  | nil => exact ⟨fun n => .same rfl rfl rfl, fun h => absurd (show (0 : ℤ) ≤ -1 from h) (by decide)⟩
  | cons n rest ih =>
    have hread := quiet_onSocket_same false n (fun s k => s.isUnused.map (·, s, k)) w (by
      rintro r h
      obtain ⟨b, -, rfl⟩ := Option.map_eq_some_iff.1 h
      rfl)
    simp only [findUnusedSocketIn]
    split_ifs with hfound
    · refine ⟨hread, fun _ => ?_⟩
      rw [Int.toNat_natCast, UInt8.ofNat_toNat]
      generalize hr : onSocket false n (fun s k => s.isUnused.map (·, s, k)) w = r at hfound
      cases hr ▸ onSocket_passed false n (fun s k => s.isUnused.map (·, s, k)) w with
      | skipped _ => exact absurd hfound Bool.false_ne_true
      | ended => exact absurd hfound Bool.false_ne_true
      | done live range result =>
        obtain ⟨b, hb, rfl⟩ := Option.map_eq_some_iff.1 result
        obtain rfl : b = true := hfound
        obtain ⟨hp, hc⟩ := (w.sockets n).isUnused_true hb
        rw [(link_update live range).1, HostSocketInfo.link_unused _ _ (by simp [hp]) hc]
        rfl
    · obtain ⟨hquiet, hclosed⟩ := ih (onSocket false n (fun s k => s.isUnused.map (·, s, k)) w).2
      exact ⟨fun m => (hread m).trans (hquiet m), hclosed⟩

variable [Posix K]

/-- The result of a status read is the status of the socket afterwards. -/
theorem socketStatus_spec (n : UInt8) (w : HostNetwork K) :
    (socketStatus n w).1 = ((socketStatus n w).2.link n).status ∧
      SocketMachine.QuietIn McuNet.link HostNetwork.link w (socketStatus n w).2 := by
  refine ⟨?_, quiet_onSocket _ n _ w fun c r h => (HostSocketInfo.socketStatus_spec _ c _ h).2⟩
  unfold socketStatus
  generalize hr : onSocket HostSocketInfo.kStatusClosed n HostSocketInfo.socketStatus w = r
  cases hr ▸ onSocket_passed HostSocketInfo.kStatusClosed n HostSocketInfo.socketStatus w with
  | skipped skip =>
    rw [link_skipped skip]
    rfl
  | ended =>
    rw [link_aborted rfl]
    rfl
  | done live range result =>
    rw [(link_update live range).1]
    exact (HostSocketInfo.socketStatus_spec _ _ _ result).1

/-- `InitializeTcpListenerSocket` makes the socket listen, or leaves it unused or
as it was. -/
theorem initializeTcpListenerSocket_spec (n : UInt8) (port : UInt16) (w : HostNetwork K) :
    ((initializeTcpListenerSocket n port w).1 = true →
      SocketMachine.ActsIn McuNet.link HostNetwork.link n Link.Listen w
        (initializeTcpListenerSocket n port w).2) ∧
    ((initializeTcpListenerSocket n port w).1 = false →
      SocketMachine.ActsIn McuNet.link HostNetwork.link n Link.Advance w
        (initializeTcpListenerSocket n port w).2) := by
  unfold initializeTcpListenerSocket
  generalize hr : onSocket false n _ w = r
  cases hr ▸ onSocket_passed false n _ w with
  | skipped _ =>
    exact ⟨fun h => absurd h Bool.false_ne_true,
      fun _ => ⟨.same rfl rfl rfl, fun m _ => .same rfl rfl rfl⟩⟩
  | ended =>
    exact ⟨fun h => absurd h Bool.false_ne_true,
      fun _ => ⟨w.advance_ended n, fun m _ => w.advance_ended m⟩⟩
  | done live range result =>
    obtain ⟨hself, hbefore, hothers⟩ := link_update live range
    obtain rfl := Option.some.inj result
    obtain ⟨hyes, hno⟩ := (w.sockets n).initializeTcpListener_spec (w.closes n) w.kernel
      w.tcpServerPortMap port
    have hrest : ∀ m, m ≠ n → Link.Advance (w.link m) (HostNetwork.link _ m) := fun m hm =>
      .same (by rw [hothers m hm]) (by rw [hothers m hm]) (by rw [hothers m hm])
    refine ⟨fun h => ⟨?_, hrest⟩, fun h => ⟨?_, hrest⟩⟩
    · rw [hself, hbefore]
      exact hyes h
    · rw [hself, hbefore]
      exact hno h

/-- `CloseSocket` leaves the socket unused. -/
theorem closeSocket_spec (n : UInt8) (w : HostNetwork K) :
    SocketMachine.ActsIn McuNet.link HostNetwork.link n Link.Close w (closeSocket n w).2 := by
  unfold closeSocket
  set v : HostNetwork K := { w with closes := Function.update w.closes n (w.closes n + 1) } with hv
  have hcloses : v.closes n = w.closes n + 1 := Function.update_self _ _ _
  have hothers : ∀ m, m ≠ n → v.link m = w.link m := by
    intro m hm
    simp [link, hv, Function.update_of_ne hm]
  have hclose : ∀ {b : Link}, b.use = .idle → b.serial = (w.sockets n).accepted →
      b.closes = w.closes n + 1 → Link.Close (w.link n) b := by
    intro b hu hs hc
    exact ⟨hu, by simp [hs], by simp [hc]⟩
  generalize hr : onSocket false n _ v = r
  cases hr ▸ onSocket_passed false n _ v with
  | skipped skip =>
    refine ⟨hclose ?_ (by simp [hv]) (by simp [hcloses]), fun m hm => ?_⟩
    · have hunused : v.link n = .unused (v.sockets n).accepted (v.closes n) := link_skipped skip
      rw [hunused]
      rfl
    · rw [hothers m hm]
      exact .same rfl rfl rfl
  | ended =>
    refine ⟨hclose (by rw [link_aborted rfl]; rfl) (by simp [hv]) (by simp [hcloses]),
      fun m hm => ?_⟩
    rw [← hothers m hm]
    exact v.advance_ended m
  | done live range result =>
    obtain ⟨hself, -, hsame⟩ := link_update (w := v) live range
    obtain rfl := Option.some.inj result
    refine ⟨?_, fun m hm => ?_⟩
    · rw [hself, HostSocketInfo.link_unused _ _ (by simp [HostSocketInfo.closeListenerSocket]) rfl]
      exact hclose rfl rfl hcloses
    · rw [hsame m hm, hothers m hm]
      exact .same rfl rfl rfl

/-- `DisconnectSocket` leaves a connection a connection. -/
theorem disconnectSocket_spec (n : UInt8) (w : HostNetwork K) :
    SocketMachine.ActsIn McuNet.link HostNetwork.link n Link.Disconnect w
      (disconnectSocket n w).2 := by
  refine acts_onSocket _ n _ w .inl fun c r h => ?_
  obtain rfl := Option.some.inj h
  exact HostSocketInfo.disconnect_disconnectConnectionSocket _ c _

variable [McuCore K]

/-- The client never changes more than what it reads. -/
theorem moves_ethernetClient (n : UInt8) :
    (ethernetClient (K := K) n).Moves (SocketMachine.QuietIn McuNet.link HostNetwork.link) where
  write buf size w := quiet_onSocket_same _ n _ w fun r h => by
    obtain rfl := Option.some.inj h
    rfl
  getWriteError w m := .same rfl rfl rfl
  available w := quiet_onSocket _ n _ w fun c r h => by
    obtain ⟨r, hr, rfl⟩ := Option.map_eq_some_iff.1 h
    exact HostSocketInfo.advance_recvInternal _ c _ hr
  read w := quiet_onSocket _ n _ w fun c r h => HostSocketInfo.advance_recvInternal _ c _ h
  readBuf size w := quiet_onSocket _ n _ w fun c r h => HostSocketInfo.advance_recvInternal _ c _ h
  peek w := quiet_onSocket _ n _ w fun c r h => by
    obtain ⟨r, hr, rfl⟩ := Option.map_eq_some_iff.1 h
    exact HostSocketInfo.advance_recvInternal _ c _ hr
  connected w := quiet_onSocket_same _ n _ w fun r h => by
    obtain rfl := Option.some.inj h
    rfl

/-- **The sockets of the host are links.** -/
instance : Implements McuNet.link (HostNetwork K) where
  view := HostNetwork.link
  socketStatus_eq n w := (socketStatus_spec n w).1
  socketStatus n w := (socketStatus_spec n w).2
  findUnusedSocket_closed w h0 _ := (findUnusedSocketIn_spec _ w).2 h0
  findUnusedSocket w := (findUnusedSocketIn_spec _ w).1
  socketIsTcpListener n w := quiet_onSocket_same _ n _ w fun r h => by
    obtain ⟨port, -, rfl⟩ := Option.map_eq_some_iff.1 h
    rfl
  socketIsInTcpConnectionLifecycle n w := quiet_onSocket_same _ n _ w fun r h => by
    obtain rfl := Option.some.inj h
    rfl
  initializeTcpListenerSocket_true n port w h := (initializeTcpListenerSocket_spec n port w).1 h
  initializeTcpListenerSocket_false n port w h := (initializeTcpListenerSocket_spec n port w).2 h
  disconnectSocket := disconnectSocket_spec
  closeSocket := closeSocket_spec
  ethernetClient := moves_ethernetClient
  millis w m := .same rfl rfl rfl
  elapsedMillis t w m := .same rfl rfl rfl

/-- The host sets a socket to listen for any port. -/
instance : PortGuard (HostNetwork K) where
  admits _ _ _ := True
  findUnusedSocket _ := trivial
  socketIsTcpListener _ := trivial
  socketIsInTcpConnectionLifecycle _ := trivial
  closeSocket _ := trivial
  socketStatus _ := trivial
  listener _ := trivial
  listening _ := trivial

end HostNetwork
end McuNet
