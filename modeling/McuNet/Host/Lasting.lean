/-
# A connection of the host lasts

`extras/host/ethernet5500/host_socket_info.cpp`,
`extras/host/ethernet5500/host_network.cpp` and `src/server_socket.cpp`.

On the chip the status of a connection goes on to `FIN_WAIT` and to `CLOSED` when it is
disconnected, and a server socket that finds it there, or has waited long enough, begins to
listen again.  The host has neither of these statuses: `DisconnectSocket` shuts the file
descriptor down for writing, and `SocketStatus` says `ESTABLISHED` or `CLOSE_WAIT` as long as
it is open.  A server socket closes no socket that has such a status, and `ReleaseSocket`
refuses.  So only a `recv` that reports the connection broken ends it (`NeverResets`), and
without one a server socket announces one connection in its life
(`HostNetwork.connection_kept`).

`lasting` is the machine behind the sockets of such a host: a connection that there is stays
the same by itself and in every call, `CloseSocket` and `InitializeTcpListenerSocket` apart.
-/

import McuNet.Host.Links
import McuNet.Host.Ended

namespace McuNet

/-- What a hardware socket holds: a listener, or the file descriptor of a connection, whose
peer may have stopped sending.  `gone`: the process has ended. -/
inductive Holding where
  | free
  | listening
  | connected (fd : ℤ) (halfClosed : Bool)
  | gone
  deriving DecidableEq

namespace Holding

/-- The status that is read. -/
def status : Holding → UInt8
  | .listening => SnSR.listen
  | .connected _ false => SnSR.established
  | .connected _ true => SnSR.closeWait
  | _ => SnSR.closed

/-- What happens to a socket in any call. -/
inductive Advance : Holding → Holding → Prop where
  | same (a) : Advance a a
  | accepted (fd halfClosed) : Advance .listening (.connected fd halfClosed)
  | read (fd a b) : Advance (.connected fd a) (.connected fd b)
  | gone (a) : Advance a .gone

theorem Advance.trans {a b c : Holding} (h : Advance a b) (h' : Advance b c) : Advance a c := by
  cases h with
  | same => exact h'
  | accepted fd halfClosed =>
    cases h' with
    | same => exact .accepted fd halfClosed
    | read _ _ b => exact .accepted fd b
    | gone => exact .gone _
  | read fd a b =>
    cases h' with
    | same => exact .read fd a b
    | read _ _ c => exact .read fd a c
    | gone => exact .gone _
  | gone =>
    cases h' with
    | same => exact .gone _
    | gone => exact .gone _

/-- A process that has ended stays so. -/
theorem Advance.of_gone {a b : Holding} (h : Advance a b) (ha : a = .gone) : b = .gone := by
  subst ha
  cases h with
  | same => rfl
  | gone => rfl

/-- The socket is closed, unless the process ends. -/
def Close (a b : Holding) : Prop := b = .gone ∨ (a ≠ .gone ∧ b = .free)

/-- The socket was set to listen; without a port it does not. -/
def Listen (a b : Holding) : Prop := a ≠ .gone ∧ (b = .listening ∨ b = .free)

/-- `InitializeTcpListenerSocket` has failed: what there was may be gone. -/
def Refuse (a b : Holding) : Prop := Advance a b ∨ (a ≠ .gone ∧ b = .free)

/-- An open status is that of a connection, and the only other one that a connection can
turn to is that of a process that has ended. -/
theorem connected_of_open {a : Holding} (h : statusIsOpen a.status = true) :
    ∃ fd halfClosed, a = .connected fd halfClosed := by
  cases a with
  | free => exact absurd h (by decide)
  | listening => exact absurd h (by decide)
  | connected fd halfClosed => exact ⟨fd, halfClosed, rfl⟩
  | gone => exact absurd h (by decide)

/-- A connection has an open status. -/
theorem statusIsOpen_connected (fd : ℤ) (halfClosed : Bool) :
    statusIsOpen (status (.connected fd halfClosed)) = true := by
  cases halfClosed
  · exact statusIsOpen_established
  · exact statusIsOpen_closeWait

end Holding

/-- A hardware socket whose connection lasts. -/
def lasting : SocketMachine where
  State := Holding
  status := Holding.status
  Advance := Holding.Advance
  Listen := Holding.Listen
  Refuse := Holding.Refuse
  Disconnect := Holding.Advance
  Close := Holding.Close
  advance_refl := .same
  advance_trans := Holding.Advance.trans
  listen_of_advance h hl := ⟨fun ha => hl.1 (h.of_gone ha), hl.2⟩
  refuse_of_advance := .inl

/-- `recv` never reports a broken connection. -/
class NeverResets (K : Type*) [Posix K] : Prop where
  recv : ∀ fd len peek (k : K) (e : Errno), (Posix.recv fd len peek k).1 = .error e →
    e ≠ .connReset ∧ e ≠ .connAborted ∧ e ≠ .notConn

/-! ### The sockets of the host -/

namespace HostSocketInfo

variable {K : Type*} [Posix K] {s : HostSocketInfo} {k : K}

/-- What the socket holds.  It has its ports while it listens. -/
def holding (s : HostSocketInfo) : Holding :=
  if 0 < s.tcpPort ∧ 0 < s.mappedTcpPort then .listening
  else if haveFd s.listenerSocketFd then .free
  else if haveFd s.connectionSocketFd then
    .connected s.connectionSocketFd (!s.canReadFromConnection)
  else .free

omit [Posix K] in
/-- A socket without a port and a listener, with a connection. -/
theorem holding_connection (hp : s.tcpPort = 0) (hl : haveFd s.listenerSocketFd = false)
    (hc : haveFd s.connectionSocketFd = true) :
    s.holding = .connected s.connectionSocketFd (!s.canReadFromConnection) := by
  simp [holding, hp, hl, hc]

omit [Posix K] in
/-- A socket with its ports set listens. -/
theorem holding_listening (hp : 0 < s.tcpPort ∧ 0 < s.mappedTcpPort) : s.holding = .listening :=
  if_pos hp

omit [Posix K] in
/-- Without a connection it listens or is free. -/
theorem holding_free (hp : ¬(0 < s.tcpPort ∧ 0 < s.mappedTcpPort))
    (hc : haveFd s.connectionSocketFd = false) : s.holding = .free := by
  simp [holding, hp, hc]

omit [Posix K] in
/-- The end of the stream was read. -/
theorem advance_readEnd : s.holding.Advance { s with canReadFromConnection := false }.holding := by
  unfold holding
  split_ifs
  · exact .same _
  · exact .same _
  · exact .read _ _ _
  · exact .same _

/-- **`RecvInternal` keeps the connection** of a kernel that never reports it broken. -/
theorem advanceHolding_recvInternal [NeverResets K] {len : ℕ} {peek : Bool}
    {r : (ℤ × List UInt8) × HostSocketInfo × K} (h : recvInternal len peek s k = some r) :
    s.holding.Advance r.2.1.holding := by
  cases recvInternal_cases h with
  | skipped _ => exact .same _
  | ended _ _ => exact advance_readEnd
  | got _ _ => exact .same _
  | blocked _ _ _ => exact .same _
  | lost _ error broken =>
    obtain ⟨h1, h2, h3⟩ := NeverResets.recv _ _ _ _ _ error
    rcases broken with rfl | rfl | rfl
    · exact absurd rfl h1
    · exact absurd rfl h2
    · exact absurd rfl h3

/-- The status of a connection. -/
theorem connectionStatus_holding {r : UInt8 × HostSocketInfo × K} (hp : s.tcpPort = 0)
    (hl : haveFd s.listenerSocketFd = false) (hc : haveFd s.connectionSocketFd = true)
    (h : s.connectionStatus k = some r) :
    r.1 = r.2.1.holding.status ∧ s.holding.Advance r.2.1.holding := by
  rw [connectionStatus, isConnected, if_pos hc] at h
  obtain ⟨half, hhalf, rfl⟩ := Option.map_eq_some_iff.1 h
  cases isConnectionHalfClosed_returns hhalf with
  | notOpen hno => exact absurd (hno.symm.trans hc) Bool.false_ne_true
  | known _ hread =>
    refine ⟨?_, .same _⟩
    rw [holding_connection hp hl hc, hread]
    rfl
  | byte hread _ =>
    refine ⟨?_, .same _⟩
    rw [holding_connection hp hl hc, hread.2]
    rfl
  | ended _ _ =>
    have hended : ({ s with canReadFromConnection := false } : HostSocketInfo).holding =
        .connected s.connectionSocketFd true := holding_connection hp hl hc
    exact ⟨congrArg Holding.status hended.symm, advance_readEnd⟩

/-- **A status read tells what the socket holds**, and may have accepted it. -/
theorem socketStatus_holding {r : UInt8 × HostSocketInfo × K} (h : s.socketStatus k = some r) :
    r.1 = r.2.1.holding.status ∧ s.holding.Advance r.2.1.holding := by
  cases hunused : s.isUnused with
  | none => simp [socketStatus, hunused] at h
  | some unused =>
    cases unused with
    | true =>
      simp only [socketStatus, hunused] at h
      obtain rfl := Option.some.inj h
      obtain ⟨hp, hc⟩ := s.isUnused_true hunused
      refine ⟨?_, .same _⟩
      rw [holding_free (by simp [hp]) hc]
      rfl
    | false =>
      rcases s.isUnused_false hunused with ⟨hl, htcp, hmapped, -⟩ | ⟨hl, htcp, hc⟩
      · have hlisten := holding_listening (s := s) ⟨htcp, hmapped⟩
        have hport : s.isTcpListener = some s.tcpPort := by simp [isTcpListener, hl, htcp]
        have hne : s.tcpPort ≠ 0 := fun h0 => by simp [h0] at htcp
        simp only [socketStatus, hunused, hport, if_pos hne] at h
        generalize ha : s.acceptConnection k = a at h
        cases ha ▸ s.acceptConnection_cases k with
        | noListener hno => exact absurd (hno.symm.trans hl) Bool.false_ne_true
        | nothing _ _ =>
          obtain rfl := Option.some.inj h
          have hkept : ({ s with connectionSocketFd := (Posix.accept s.listenerSocketFd k).1 } :
              HostSocketInfo).holding = .listening := holding_listening ⟨htcp, hmapped⟩
          exact ⟨congrArg Holding.status hkept.symm, hlisten ▸ hkept ▸ .same _⟩
        | accepted _ hfd =>
          obtain ⟨hstatus, hadv⟩ := connectionStatus_holding rfl rfl hfd h
          rw [holding_connection rfl rfl hfd] at hadv
          exact ⟨hstatus, hlisten ▸ (Holding.Advance.accepted _ _).trans hadv⟩
      · have hport : s.isTcpListener = some 0 := by simp [isTcpListener, hl, htcp]
        simp only [socketStatus, hunused, hport, ne_eq, not_true_eq_false, if_false] at h
        exact connectionStatus_holding htcp hl hc h

/-- **`InitializeTcpListener`** leaves no connection. -/
theorem initializeTcpListener_holding (portMap : List (UInt16 × UInt16)) (newTcpPort : UInt16) :
    let r := s.initializeTcpListener portMap newTcpPort k
    (r.1 = true → r.2.1.holding = .listening ∨ r.2.1.holding = .free) ∧
      (r.1 = false → s.holding.Advance r.2.1.holding ∨ r.2.1.holding = .free) := by
  intro r
  obtain ⟨hc, -⟩ := initializeTcpListener_connection portMap newTcpPort s k
  obtain ⟨-, hports⟩ := initializeTcpListener_ports portMap newTcpPort s k
  by_cases hp : 0 < r.2.1.tcpPort ∧ 0 < r.2.1.mappedTcpPort
  · have hlisten : r.2.1.holding = .listening := holding_listening hp
    refine ⟨fun _ => .inl hlisten, fun hno => .inl ?_⟩
    obtain ⟨htcp, hmapped⟩ := (hports hno).resolve_right fun h0 => by
      exact UInt16.pos_iff_ne_zero.1 hp.1 h0
    rw [hlisten, holding_listening (s := s) ⟨htcp ▸ hp.1, hmapped ▸ hp.2⟩]
    exact .same _
  · exact ⟨fun _ => .inr (holding_free hp hc), fun _ => .inr (holding_free hp hc)⟩

end HostSocketInfo

namespace HostNetwork

variable {K : Type*}

/-- What a hardware socket of the host holds. -/
def holding (w : HostNetwork K) (n : UInt8) : Holding :=
  if w.aborted then .gone else if kMaxSockets ≤ n then .free else (w.sockets n).holding

/-- All sockets are gone exactly when the process has ended. -/
theorem holding_gone {w : HostNetwork K} (n : UInt8) : w.holding n = .gone ↔ w.aborted = true := by
  unfold holding HostSocketInfo.holding
  split_ifs <;> simp_all

/-- A socket of a process that goes on. -/
theorem holding_live {w : HostNetwork K} {n : UInt8} (live : w.aborted = false)
    (range : n < kMaxSockets) : w.holding n = (w.sockets n).holding := by
  have hle : ¬kMaxSockets ≤ n := UInt8.not_le.2 range
  simp [holding, live, hle]

/-- A socket number that there is none for. -/
theorem holding_skipped {w : HostNetwork K} {n : UInt8}
    (skip : w.aborted = true ∨ kMaxSockets < n) : (w.holding n).status = SnSR.closed := by
  unfold holding
  split_ifs with habort hrange
  · rfl
  · rfl
  · exact absurd (UInt8.le_of_lt (skip.resolve_left habort)) hrange

/-- A socket after a call on it, and the others. -/
theorem holding_update {w : HostNetwork K} {n : UInt8} {s : HostSocketInfo} {k : K}
    (live : w.aborted = false) (range : n < kMaxSockets) :
    let v := { w with kernel := k, sockets := Function.update w.sockets n s }
    v.holding n = s.holding ∧ ∀ m, m ≠ n → v.holding m = w.holding m := by
  intro v
  refine ⟨?_, fun m hm => ?_⟩
  · rw [holding_live (w := v) live range]
    exact congrArg HostSocketInfo.holding (Function.update_self _ _ _)
  · unfold holding
    rw [show v.sockets m = w.sockets m from Function.update_of_ne hm _ _]

theorem holding_aborted (w : HostNetwork K) (n : UInt8) :
    holding { w with aborted := true } n = .gone := (holding_gone n).2 rfl

theorem ne_gone {w : HostNetwork K} (live : w.aborted = false) (n : UInt8) : w.holding n ≠ .gone :=
  fun h => Bool.false_ne_true (live.symm.trans ((holding_gone n).1 h))

/-- **A call on one socket.** -/
theorem actsHolding_onSocket {α : Type*} {R : Holding → Holding → Prop} (default : α) (n : UInt8)
    (f : HostSocketInfo → K → Option (α × HostSocketInfo × K)) (w : HostNetwork K)
    (hadv : ∀ {a b}, Holding.Advance a b → R a b)
    (hf : ∀ r, f (w.sockets n) w.kernel = some r → (w.sockets n).holding ≠ .gone →
      R (w.sockets n).holding r.2.1.holding) :
    lasting.ActsIn holding n R w (onSocket default n f w).2 := by
  generalize hr : onSocket default n f w = r
  cases hr ▸ onSocket_passed default n f w with
  | skipped _ => exact ⟨hadv (.same _), fun m _ => .same _⟩
  | ended => exact ⟨hadv (holding_aborted w n ▸ .gone _), fun m _ => holding_aborted w m ▸ .gone _⟩
  | @done live range r result =>
    obtain ⟨hself, hothers⟩ := holding_update (s := r.2.1) (k := r.2.2) live range
    refine ⟨?_, fun m hm => ?_⟩
    · rw [hself, holding_live live range]
      exact hf r result (holding_live live range ▸ ne_gone live n)
    · rw [hothers m hm]
      exact .same _

/-- A call in which the socket at most accepts or reads. -/
theorem quietHolding_onSocket {α : Type*} (default : α) (n : UInt8)
    (f : HostSocketInfo → K → Option (α × HostSocketInfo × K)) (w : HostNetwork K)
    (hf : ∀ r, f (w.sockets n) w.kernel = some r →
      Holding.Advance (w.sockets n).holding r.2.1.holding) :
    lasting.QuietIn holding w (onSocket default n f w).2 := by
  obtain ⟨hself, hothers⟩ := actsHolding_onSocket default n f w id fun r hr _ => hf r hr
  intro m
  by_cases hm : m = n
  · rw [hm]
    exact hself
  · exact hothers m hm

/-- A call that only looks at the members. -/
theorem quietHolding_look {α : Type*} (default : α) (n : UInt8) (f : HostSocketInfo → Option α)
    (w : HostNetwork K) :
    lasting.QuietIn holding w (onSocket default n (fun s k => (f s).map (·, s, k)) w).2 := by
  refine quietHolding_onSocket default n _ w fun r hr => ?_
  obtain ⟨a, -, rfl⟩ := Option.map_eq_some_iff.1 hr
  exact .same _

/-- The search for an unused socket changes nothing, and what it finds is free. -/
theorem findUnusedSocketIn_holding (l : List UInt8) (w : HostNetwork K) :
    let r := findUnusedSocketIn l w
    lasting.QuietIn holding w r.2 ∧
      (0 ≤ r.1 → (r.2.holding (UInt8.ofNat r.1.toNat)).status = SnSR.closed) := by
  induction l generalizing w with
  | nil => exact ⟨fun n => .same _, fun h => absurd (show (0 : ℤ) ≤ -1 from h) (by decide)⟩
  | cons n rest ih =>
    have hread := quietHolding_look false n HostSocketInfo.isUnused w
    simp only [findUnusedSocketIn]
    split_ifs with hfound
    · refine ⟨hread, fun _ => ?_⟩
      rw [Int.toNat_natCast, UInt8.ofNat_toNat]
      generalize hr : onSocket false n (fun s k => s.isUnused.map (·, s, k)) w = r at hfound
      cases hr ▸ onSocket_passed false n (fun s k => s.isUnused.map (·, s, k)) w with
      | skipped _ => exact absurd hfound Bool.false_ne_true
      | ended => exact absurd hfound Bool.false_ne_true
      | done live range result =>
        obtain ⟨b, hb, rfl⟩ := Option.map_eq_some_iff.1 result
        obtain rfl : b = true := hfound
        obtain ⟨hp, hc⟩ := (w.sockets n).isUnused_true hb
        dsimp only
        rw [Function.update_eq_self, holding_live live range,
          HostSocketInfo.holding_free (by simp [hp]) hc]
        rfl
    · obtain ⟨hquiet, hclosed⟩ := ih (onSocket false n (fun s k => s.isUnused.map (·, s, k)) w).2
      exact ⟨fun m => (hread m).trans (hquiet m), hclosed⟩

variable [Posix K]

/-- **`InitializeTcpListenerSocket`** makes a listener of its socket, or leaves none. -/
theorem initializeTcpListenerSocket_holding (n : UInt8) (port : UInt16) (w : HostNetwork K) :
    ((initializeTcpListenerSocket n port w).1 = true →
      lasting.ActsIn holding n Holding.Listen w (initializeTcpListenerSocket n port w).2) ∧
    ((initializeTcpListenerSocket n port w).1 = false →
      lasting.ActsIn holding n Holding.Refuse w (initializeTcpListenerSocket n port w).2) := by
  unfold initializeTcpListenerSocket
  generalize hr : onSocket false n _ w = r
  cases hr ▸ onSocket_passed false n _ w with
  | skipped _ =>
    exact ⟨fun h => absurd h Bool.false_ne_true, fun _ => ⟨.inl (.same _), fun m _ => .same _⟩⟩
  | ended =>
    refine ⟨fun h => absurd h Bool.false_ne_true, fun _ => ⟨.inl ?_, fun m _ => ?_⟩⟩
    · exact holding_aborted w n ▸ .gone _
    · exact holding_aborted w m ▸ .gone _
  | done live range result =>
    obtain rfl := Option.some.inj result
    let q := (w.sockets n).initializeTcpListener w.tcpServerPortMap port w.kernel
    let v : HostNetwork K :=
      { w with kernel := q.2.2, sockets := Function.update w.sockets n q.2.1 }
    obtain ⟨hself, hothers⟩ := holding_update (s := q.2.1) (k := q.2.2) live range
    obtain ⟨hyes, hno⟩ := HostSocketInfo.initializeTcpListener_holding (s := w.sockets n)
      (k := w.kernel) w.tcpServerPortMap port
    have hrest : ∀ m, m ≠ n → Holding.Advance (w.holding m) (v.holding m) :=
      fun m hm => (hothers m hm).symm ▸ .same _
    refine ⟨fun h => ⟨⟨ne_gone live n, ?_⟩, hrest⟩, fun h => ⟨?_, hrest⟩⟩
    · rw [hself]
      exact hyes h
    · rcases hno h with hadv | hfree
      · refine .inl ?_
        rw [hself, holding_live live range]
        exact hadv
      · exact .inr ⟨ne_gone live n, hself.trans hfree⟩

/-- `CloseSocket` frees its socket. -/
theorem closeSocket_holding (n : UInt8) (w : HostNetwork K) :
    lasting.ActsIn holding n Holding.Close w (closeSocket n w).2 := by
  unfold closeSocket
  let v : HostNetwork K := { w with closes := Function.update w.closes n (w.closes n + 1) }
  have hsame : ∀ m, v.holding m = w.holding m := fun _ => rfl
  have hskip : w.aborted = true ∨ kMaxSockets < n → w.holding n = .gone ∨ w.holding n = .free := by
    rintro (habort | hrange)
    · exact .inl ((holding_gone n).2 habort)
    · unfold holding
      split_ifs with habort hle
      · exact .inl rfl
      · exact .inr rfl
      · exact absurd (UInt8.le_of_lt hrange) hle
  generalize hr : onSocket false n _ _ = r
  cases hr ▸ onSocket_passed false n _ v with
  | skipped skip =>
    refine ⟨?_, fun m _ => .same _⟩
    rcases hskip skip with hgone | hfree
    · exact .inl hgone
    · exact .inr ⟨fun hgone => absurd (hfree.symm.trans hgone) nofun, hfree⟩
  | ended => exact ⟨.inl (holding_aborted v n), fun m _ => holding_aborted v m ▸ .gone _⟩
  | done live range result =>
    obtain rfl := Option.some.inj result
    obtain ⟨hself, hothers⟩ := holding_update (w := v) (s := _) (k := _) live range
    refine ⟨.inr ⟨ne_gone live n, hself.trans ?_⟩, fun m hm => ?_⟩
    · exact HostSocketInfo.holding_free (fun h => UInt16.pos_iff_ne_zero.1 h.1 rfl) rfl
    · exact (hothers m hm).symm ▸ .same _

variable [McuCore K] [NeverResets K]

/-- The methods of `EthernetClient` leave every connection there. -/
theorem movesHolding_ethernetClient (n : UInt8) :
    (ethernetClient (K := K) n).Moves (lasting.QuietIn holding) where
  write buf size w := quietHolding_onSocket _ n _ w fun r h => by
    obtain rfl := Option.some.inj h
    exact .same _
  getWriteError w m := .same _
  available w := quietHolding_onSocket _ n _ w fun r h => by
    obtain ⟨r, hr, rfl⟩ := Option.map_eq_some_iff.1 h
    exact HostSocketInfo.advanceHolding_recvInternal hr
  read w := quietHolding_onSocket _ n _ w fun r h => HostSocketInfo.advanceHolding_recvInternal h
  readBuf size w := quietHolding_onSocket _ n _ w fun r h =>
    HostSocketInfo.advanceHolding_recvInternal h
  peek w := quietHolding_onSocket _ n _ w fun r h => by
    obtain ⟨r, hr, rfl⟩ := Option.map_eq_some_iff.1 h
    exact HostSocketInfo.advanceHolding_recvInternal hr
  connected w := quietHolding_onSocket _ n _ w fun r h => by
    obtain rfl := Option.some.inj h
    exact .same _

/-- **The connections of the host last.** -/
instance : Implements lasting (HostNetwork K) where
  view := holding
  socketStatus_eq n w := by
    show (socketStatus n w).1 = ((socketStatus n w).2.holding n).status
    unfold socketStatus
    generalize hr : onSocket HostSocketInfo.kStatusClosed n HostSocketInfo.socketStatus w = r
    cases hr ▸ onSocket_passed HostSocketInfo.kStatusClosed n HostSocketInfo.socketStatus w with
    | skipped skip => exact (holding_skipped skip).symm
    | ended => exact congrArg Holding.status (holding_aborted w n).symm
    | done live range result =>
      obtain ⟨hself, -⟩ := holding_update (s := _) (k := _) live range
      exact (HostSocketInfo.socketStatus_holding result).1.trans (congrArg _ hself.symm)
  socketStatus n w := quietHolding_onSocket _ n _ w fun r h =>
    (HostSocketInfo.socketStatus_holding h).2
  findUnusedSocket_closed w h0 _ := (findUnusedSocketIn_holding _ w).2 h0
  findUnusedSocket w := (findUnusedSocketIn_holding _ w).1
  socketIsTcpListener n w := quietHolding_look _ n _ w
  socketIsInTcpConnectionLifecycle n w := quietHolding_onSocket _ n _ w fun r h => by
    obtain rfl := Option.some.inj h
    exact .same _
  initializeTcpListenerSocket_true n port w h := (initializeTcpListenerSocket_holding n port w).1 h
  initializeTcpListenerSocket_false n port w h := (initializeTcpListenerSocket_holding n port w).2 h
  disconnectSocket n w := actsHolding_onSocket _ n _ w id fun r h _ => by
    obtain rfl := Option.some.inj h
    unfold HostSocketInfo.disconnectConnectionSocket
    split_ifs
    · exact .same _
    · exact .same _
  closeSocket := closeSocket_holding
  ethernetClient := movesHolding_ethernetClient
  millis w m := .same _
  elapsedMillis t w m := .same _

end HostNetwork

/-! ### Server sockets -/

namespace Holding

variable {fd : ℤ} {a b : Holding}

/-- The connection is there, unless the process has ended. -/
def Keeps (fd : ℤ) (a : Holding) : Prop := a = .gone ∨ ∃ halfClosed, a = .connected fd halfClosed

/-- A connection is kept when a socket goes on by itself. -/
theorem Keeps.advance (h : a.Keeps fd) (hab : Advance a b) : b.Keeps fd := by
  rcases h with h | ⟨halfClosed, rfl⟩
  · exact .inl (hab.of_gone h)
  · cases hab with
    | same => exact .inr ⟨halfClosed, rfl⟩
    | read _ _ half => exact .inr ⟨half, rfl⟩
    | gone => exact .inl rfl

/-- A connection that is kept has an open status as long as the process lives. -/
theorem Keeps.gone_or_open (h : a.Keeps fd) : a = .gone ∨ statusIsOpen a.status = true := by
  rcases h with h | ⟨halfClosed, rfl⟩
  · exact .inl h
  · exact .inr (statusIsOpen_connected fd halfClosed)

end Holding

section Lasting

variable {W L : Type*} [Platform W] [Implements lasting W] {fd : ℤ} {n : UInt8}

/-- What hardware socket `n` holds. -/
def holdingOf (w : W) (n : UInt8) : Holding := lasting.socket w n

/-- A quiet step keeps a connection. -/
theorem keeps_of_quiet {w w' : W} (h : lasting.Quiet w w') (hw : (holdingOf w n).Keeps fd) :
    (holdingOf w' n).Keeps fd := hw.advance (h n)

/-- Shutting it down keeps it. -/
theorem keeps_of_disconnects {w w' : W} (h : lasting.Disconnects n w w')
    (hw : (holdingOf w n).Keeps fd) : (holdingOf w' n).Keeps fd := by
  cases h with
  | skipped before _ after => exact keeps_of_quiet after (keeps_of_quiet before hw)
  | disconnected before _ effect after =>
    have hdis := (keeps_of_quiet before hw).advance effect.1
    exact keeps_of_quiet after hdis

/-- A process that has ended stays so. -/
theorem platformMoves_gone :
    PlatformMoves fun w w' : W => ∀ n, holdingOf w n = .gone → holdingOf w' n = .gone :=
  lasting.platformMoves (S := fun a b => a = .gone → b = .gone) (fun _ => id)
    (fun h h' => h' ∘ h) Holding.Advance.of_gone (fun h ha => absurd ha h.1)
    (fun h => h.elim Holding.Advance.of_gone fun h ha => absurd ha h.1) Holding.Advance.of_gone
    (fun h ha => h.elim id fun h => absurd ha h.1)

/-- **A callback keeps the connection**, also when the listener closes it. -/
theorem Serving.keeps_serve {α : Type*} (p : Program ConnectionOp Reply α) {w : W}
    (hw : (holdingOf w n).Keeps fd) : (holdingOf (serve p n w).2.net n).Keeps fd := by
  let I : Serving W → Prop := fun s => s.conn.sockNum = n ∧ (holdingOf s.net n).Keeps fd
  have hI : I (serve p n w).2 := by
    refine serve_machine lasting p ?_ ?_ ⟨rfl, hw⟩
    · rintro s t hst ⟨hn, hs⟩
      exact ⟨hst.sockNum.trans hn, keeps_of_quiet hst.net hs⟩
    · rintro s ⟨hn, hs⟩
      obtain ⟨hsock, -, v, hdis, hquiet, -⟩ := s.close_spec lasting
      exact ⟨hsock.trans hn, keeps_of_quiet hquiet (keeps_of_disconnects (hn ▸ hdis) hs)⟩
  exact hI.2

namespace ServerSocket

/-- The connection is there and remembered as open, unless the process has ended. -/
structure Lasts (fd : ℤ) (n : UInt8) (x : ServerSocket W L) : Prop where
  keeps : (holdingOf x.net n).Keeps fd
  lastStatus : holdingOf x.net n = .gone ∨ statusIsOpen x.lastStatus = true

/-- When the process has ended everything lasts. -/
theorem lasts_of_gone {x : ServerSocket W L} (h : holdingOf x.net n = .gone) : x.Lasts fd n :=
  ⟨.inl h, .inl h⟩

/-- A connection lasts in a callback of the listener, which can shut it down only. -/
theorem lasts_announce (kind : Bool → Callback) (p : Program ConnectionOp Reply L)
    {x : ServerSocket W L} (hk : (holdingOf x.net x.sockNum).Keeps fd)
    (hopen : statusIsOpen x.lastStatus = true) : (x.announce kind p).Lasts fd x.sockNum := by
  obtain ⟨hafter, hclosed⟩ := x.announce_quiet lasting kind p
  have hserved := Serving.keeps_serve p hk
  refine ⟨keeps_of_quiet hafter hserved, ?_⟩
  cases hc : (Serving.serve p x.sockNum x.net).2.closed with
  | true =>
    -- the status was read once more
    obtain ⟨w, hw, hlast, hstatus⟩ := hclosed hc
    rcases (keeps_of_quiet hw hserved).gone_or_open with hgone | hopen
    · exact .inl ((hlast x.sockNum).of_gone hgone)
    · exact .inr ((congrArg statusIsOpen hstatus).trans hopen)
  | false => exact .inr ((congrArg statusIsOpen ((x.announce_spec kind p).2.2 hc)).trans hopen)

variable [ServerSocketListener L]

/-- A connection lasts when a poll shuts it down. -/
theorem lasts_endHalfClosed {x : ServerSocket W L} (hk : (holdingOf x.net x.sockNum).Keeps fd) :
    x.endHalfClosed.Lasts fd x.sockNum := by
  obtain ⟨v, hdis, hread, hlast, hstatus, -⟩ := x.endHalfClosed_spec lasting
  have hclosed : (holdingOf x.halfClosed.net x.sockNum).Keeps fd :=
    keeps_of_quiet hread (keeps_of_disconnects hdis hk)
  refine ⟨keeps_of_quiet hlast hclosed, ?_⟩
  rcases hclosed.gone_or_open with hgone | hopen
  · exact .inl ((hlast x.sockNum).of_gone hgone)
  · exact .inr ((congrArg statusIsOpen hstatus).trans hopen)

/-- **A poll keeps the connection** that its status read has found. -/
theorem Poll.lasts {x y : ServerSocket W L} (h : x.Poll y) (has : x.hasSocket = true)
    (hk : (holdingOf x.refreshStatus.net x.sockNum).Keeps fd) : y.Lasts fd x.sockNum := by
  have hgone : statusIsOpen x.refreshStatus.lastStatus = false →
      holdingOf x.refreshStatus.net x.sockNum = .gone := by
    intro hno
    refine hk.gone_or_open.resolve_right fun hopen => ?_
    rw [x.lastStatus_refreshStatus lasting] at hno
    exact Bool.false_ne_true (hno.symm.trans hopen)
  have hends := (platformMoves_gone (W := W)).quiet
  cases h with
  | released no => exact absurd (no.symm.trans has) Bool.false_ne_true
  | lost _ _ now => exact lasts_of_gone (moves_noticeLoss hends _ _ (hgone now))
  | closed _ _ now =>
    have hset := platformMoves_gone.initializeTcpListenerSocket x.sockNum x.tcpPort
      x.refreshStatus.cleared.net
    exact lasts_of_gone (moves_beginListening hends _ (fun _ _ => hset) _ (hgone (now ▸ rfl)))
  | listening _ _ now =>
    refine lasts_of_gone (hgone ?_)
    rcases now with now | now
    · rw [now]
      rfl
    · rw [now]
      rfl
  | connected _ _ now => exact lasts_announce _ _ hk now
  | canRead _ _ now => exact lasts_announce _ _ hk (now ▸ rfl)
  | closeWait _ _ now =>
    have hasked : (holdingOf x.refreshStatus.asked.net x.sockNum).Keeps fd :=
      keeps_of_quiet (x.refreshStatus.quiet_asked lasting) hk
    rcases x.refreshStatus.handleCloseWait_cases with heq | heq
    · rw [heq]
      exact lasts_announce _ _ hasked (show statusIsOpen x.refreshStatus.lastStatus = true from
        now ▸ rfl)
    · rw [heq]
      exact lasts_endHalfClosed hasked
  | closing _ _ now =>
    exact lasts_of_gone (moves_detectCloseTimeout hends _ _ (hgone (statusIsOpen_of_closing now)))
  | stuck _ _ now _ => exact lasts_of_gone (moves_closeHardwareSocket hends _ _ (hgone now))
  | initializing _ _ now => exact lasts_of_gone (hgone (now ▸ rfl))
  | undocumented _ _ now =>
    refine lasts_of_gone (hgone (Bool.eq_false_of_not_eq_true fun hopen => now ?_))
    rcases statusIsOpen_iff.1 hopen with h | h
    · rw [h]
      decide
    · rw [h]
      decide

end ServerSocket
end Lasting

/-! ### Announcements -/

/-- A call of `OnConnect`. -/
def Callback.isOnConnect : Callback → Bool
  | .onConnect _ => true
  | _ => false

namespace ServerSocket

variable {W L : Type*} {x y : ServerSocket W L}

/-- How many connections the listener was told of. -/
def announced (x : ServerSocket W L) : ℕ := x.callbacks.countP Callback.isOnConnect

/-- Without a callback nothing is announced. -/
theorem announced_of_callbacks (h : y.callbacks = x.callbacks) : y.announced = x.announced :=
  congrArg (List.countP Callback.isOnConnect) h

/-- A callback announces a connection if it is `OnConnect`. -/
theorem Told.announced {c : Callback} (h : Told x y c) :
    y.announced = x.announced + [c].countP Callback.isOnConnect := by
  rw [ServerSocket.announced, h.callbacks, List.countP_append]
  rfl

variable [Platform W] [ServerSocketListener L]

/-- **A poll announces a connection** when the status has become open. -/
theorem Poll.announced (h : x.Poll y) :
    y.announced = x.announced ∨
      (statusIsOpen x.lastStatus = false ∧ statusIsOpen x.refreshStatus.lastStatus = true ∧
        y.announced = x.announced + 1) := by
  have hunseen : ∀ {z : ServerSocket W L}, Unseen x.refreshStatus z → z.announced = x.announced :=
    fun hu => announced_of_callbacks hu.callbacks
  cases h with
  | released _ => exact .inl rfl
  | lost _ _ _ =>
    rcases x.refreshStatus.noticeLoss_cases with ⟨-, heq⟩ | ⟨-, -, -, -, ht⟩
    · rw [heq]
      exact .inl rfl
    · exact .inl ht.announced
  | closed _ _ _ => exact .inl (hunseen (unseen_beginListening _))
  | listening _ _ _ => exact .inl rfl
  | connected _ was now => exact .inr ⟨was, now, (announce_spec _ _ _).1.announced⟩
  | canRead _ _ _ => exact .inl (announce_spec _ _ _).1.announced
  | closeWait _ _ _ =>
    rcases x.refreshStatus.handleCloseWait_cases with heq | heq
    · rw [heq]
      exact .inl (announce_spec Callback.onCanRead
        (ServerSocketListener.onCanRead x.listener) x.refreshStatus.asked).1.announced
    · rw [heq]
      exact .inl (told_endHalfClosed x.refreshStatus.asked).announced
  | closing _ _ _ => exact .inl (hunseen (unseen_detectCloseTimeout _))
  | stuck _ _ _ _ => exact .inl (hunseen (unseen_closeHardwareSocket _))
  | initializing _ _ _ => exact .inl rfl
  | undocumented _ _ _ => exact .inl rfl

/-- **Only a poll that finds the status open announces a connection.** -/
theorem announced_run (x : ServerSocket W L) {c : PublicCall} (hc : c ≠ .socketLost) :
    (x.run c).announced = x.announced ∨
      (c = .performIo ∧ x.hasSocket = true ∧ statusIsOpen x.lastStatus = false ∧
        statusIsOpen x.refreshStatus.lastStatus = true ∧
        (x.run c).announced = x.announced + 1) := by
  cases c with
  | pickClosedSocket =>
    left
    have hbegin : x.found.beginListening.2.callbacks = x.callbacks :=
      (unseen_beginListening x.found).callbacks
    rw [run]
    generalize hr : x.pickClosedSocket = r
    cases hr ▸ x.pickClosedSocket_pick with
    | bound _ => rfl
    | noneFree _ _ => rfl
    | refused _ _ _ _ _ => exact announced_of_callbacks hbegin
    | picked _ _ _ _ _ => exact announced_of_callbacks hbegin
  | performIo =>
    rcases x.performIo_poll.announced with hsame | ⟨was, now, hmore⟩
    · exact .inl hsame
    · refine .inr ⟨rfl, ?_, was, now, hmore⟩
      by_contra hno
      rw [performIo, if_neg hno] at hmore
      omega
  | releaseSocket =>
    have hlog := x.releaseSocket_cases.1
    exact .inl (announced_of_callbacks (congrArg (List.map Delivery.callback) hlog))
  | socketLost => exact absurd rfl hc

end ServerSocket

/-! ### Runs on the host -/

namespace HostNetwork

open ServerSocket Relation

variable {K L : Type*} {n : UInt8} {fd : ℤ}

/-- A connected socket is in the TCP connection lifecycle. -/
theorem lifecycle_of_connected {w : HostNetwork K} {halfClosed : Bool}
    (h : w.holding n = .connected fd halfClosed) :
    (socketIsInTcpConnectionLifecycle n w).1 = true := by
  unfold holding HostSocketInfo.holding at h
  split_ifs at h with habort hrange hports hl hc
  have hhas : w.Has n (w.sockets n, w.kernel) :=
    ⟨Bool.eq_false_of_not_eq_true habort, UInt8.not_le.1 hrange, rfl, rfl⟩
  have hasked := hhas.onSocket false (f := fun s k => some (s.isConnected, s, k)) rfl
  exact (congrArg Prod.fst hasked).trans hc

variable [Posix K] [McuCore K] {x y : ServerSocket (HostNetwork K) L}

/-- `ReleaseSocket` refuses. -/
theorem releaseSocket_of_connected {halfClosed : Bool} (has : x.hasSocket = true)
    (h : x.net.holding x.sockNum = .connected fd halfClosed) :
    x.releaseSocket =
      (false, { x with net := (socketIsInTcpConnectionLifecycle x.sockNum x.net).2 }) := by
  have hconnected : x.isConnected =
      (true, { x with net := (socketIsInTcpConnectionLifecycle x.sockNum x.net).2 }) := by
    rw [isConnected, if_pos has]
    exact Prod.ext (lifecycle_of_connected h) rfl
  rw [releaseSocket, if_pos has, hconnected]
  rfl

variable [ServerSocketListener L] [NeverResets K]

/-- A process that has ended stays so. -/
theorem aborted_of_run (c : PublicCall) (h : x.net.aborted = true) :
    (x.run c).net.aborted = true :=
  (holding_gone x.sockNum).1
    (run_moves platformMoves_gone x c x.sockNum ((holding_gone x.sockNum).2 h))

/-- **A call keeps a connection.** -/
theorem keeps_run {c : PublicCall} (hc : c ≠ .socketLost) (has : x.hasSocket = true)
    (hk : (x.net.holding x.sockNum).Keeps fd) :
    (x.run c).net.aborted = true ∨
      ((x.run c).sockNum = x.sockNum ∧ ((x.run c).net.holding x.sockNum).Keeps fd ∧
        (x.Lasts fd x.sockNum → (x.run c).Lasts fd x.sockNum)) := by
  rcases hk with hgone | ⟨halfClosed, hconn⟩
  · exact .inl (aborted_of_run c ((holding_gone _).1 hgone))
  · right
    have hk : (x.net.holding x.sockNum).Keeps fd := .inr ⟨halfClosed, hconn⟩
    cases c with
    | pickClosedSocket =>
      rw [run, pickClosedSocket, if_pos has]
      exact ⟨rfl, hk, id⟩
    | performIo =>
      have hread := keeps_of_quiet (x.quiet_refreshStatus lasting) hk
      have hlasts := x.performIo_poll.lasts has hread
      exact ⟨x.performIo_poll.sockNum, hlasts.keeps, fun _ => hlasts⟩
    | releaseSocket =>
      rw [run, releaseSocket_of_connected has hconn]
      have hasked := Implements.socketIsInTcpConnectionLifecycle (M := lasting) x.sockNum x.net
      refine ⟨rfl, keeps_of_quiet hasked hk, fun h => ⟨keeps_of_quiet hasked hk, ?_⟩⟩
      exact h.lastStatus.imp (hasked x.sockNum).of_gone id
    | socketLost => exact absurd rfl hc

/-- The process has ended, no connection was announced, or the one that was is still there. -/
def AnnouncesOne (x : ServerSocket (HostNetwork K) L) : Prop :=
  x.net.aborted = true ∨ x.announced = 0 ∨
    (x.announced = 1 ∧ x.hasSocket = true ∧ ∃ fd, x.Lasts fd x.sockNum)

/-- **Every public call but `SocketLost` keeps it so.** -/
theorem announcesOne_run {c : PublicCall} (hc : c ≠ .socketLost) (h : AnnouncesOne x) :
    AnnouncesOne (x.run c) := by
  have hstatus := x.lastStatus_refreshStatus lasting
  rcases h with habort | hnone | ⟨hone, has, fd, hlasts⟩
  · exact .inl (aborted_of_run c habort)
  · right
    rcases x.announced_run hc with hsame | ⟨rfl, has, -, now, hmore⟩
    · exact .inl (hsame.trans hnone)
    · -- the connection that is announced is the one that the status read has found
      obtain ⟨fd, halfClosed, hconn⟩ := Holding.connected_of_open (hstatus ▸ now)
      have hlasts := x.performIo_poll.lasts has (.inr ⟨halfClosed, hconn⟩)
      refine .inr ⟨by rw [hmore, hnone], x.performIo_poll.hasSocket.trans has, fd, ?_⟩
      exact x.performIo_poll.sockNum.symm ▸ hlasts
  · rcases keeps_run hc has hlasts.keeps with habort | ⟨hsock, -, hkept⟩
    · exact .inl habort
    · refine .inr (.inr ⟨?_, ?_, fd, hsock.symm ▸ hkept hlasts⟩)
      · refine (x.announced_run hc).elim (·.trans hone) ?_
        rintro ⟨-, -, was, now, -⟩
        rcases hlasts.lastStatus with hgone | hopen
        · have hends := (x.quiet_refreshStatus lasting x.sockNum).of_gone hgone
          have hclosed := congrArg (fun a => statusIsOpen (Holding.status a)) hends
          rw [hstatus] at now
          exact absurd (hclosed.symm.trans now) Bool.false_ne_true
        · exact absurd (was.symm.trans hopen) Bool.false_ne_true
      · exact (congrArg (fun n => decide (n < maxSockNum)) hsock).trans has

/-- **A connection of the host lasts.**  If `recv` never reports a broken connection, then in
every run of `PickClosedSocket`, `PerformIO` and `ReleaseSocket`, whatever the listener, the
kernel and the peers do: a server socket announces at most one connection; and a connection
that its hardware socket has is there in every later state, and `ReleaseSocket` refuses. -/
theorem connection_kept (h : Reaches PeersAct (fun _ c => c ≠ .socketLost) x)
    (live : x.net.aborted = false) :
    x.announced ≤ 1 ∧
      ∀ fd halfClosed y, x.hasSocket = true →
        x.net.holding x.sockNum = .connected fd halfClosed →
        ReflTransGen (ServerSocket.Step PeersAct fun _ c => c ≠ .socketLost) x y →
        y.net.aborted = false →
        y.sockNum = x.sockNum ∧ y.releaseSocket.1 = false ∧
          ∃ halfClosed, y.net.holding x.sockNum = .connected fd halfClosed := by
  constructor
  · have hone : AnnouncesOne x := by
      refine h.invariant (fun _ _ _ => .inr (.inl rfl)) ?_ fun x c hx hc => announcesOne_run hc hx
      rintro x _ (habort | hnone | ⟨hone, has, fd, hlasts⟩) ⟨k, rfl⟩
      · exact .inl habort
      · exact .inr (.inl hnone)
      · exact .inr (.inr ⟨hone, has, fd, hlasts.keeps, hlasts.lastStatus⟩)
    rcases hone with habort | hnone | ⟨hone, -⟩
    · exact absurd (live.symm.trans habort) Bool.false_ne_true
    · omega
    · omega
  · intro fd halfClosed y has hconn hrun hlive
    have hkept : y.net.aborted = true ∨
        (y.sockNum = x.sockNum ∧ (y.net.holding y.sockNum).Keeps fd) := by
      clear hlive
      induction hrun with
      | refl => exact .inr ⟨rfl, .inr ⟨halfClosed, hconn⟩⟩
      | tail _ hstep ih =>
        cases hstep with
        | outside henv =>
          obtain ⟨k, rfl⟩ := henv
          exact ih
        | call hc =>
          rcases ih with habort | ⟨hsock, hk⟩
          · exact .inl (aborted_of_run _ habort)
          · have has' := (congrArg (fun n => decide (n < maxSockNum)) hsock).trans has
            refine (keeps_run hc has' hk).imp id fun hrun => ?_
            exact ⟨hrun.1.trans hsock, hrun.1.symm ▸ hrun.2.1⟩
    obtain ⟨hsock, hk⟩ := hkept.resolve_left fun habort =>
      Bool.false_ne_true (hlive.symm.trans habort)
    obtain ⟨half, hhalf⟩ := hk.resolve_left (ne_gone hlive _)
    have has' : y.hasSocket = true :=
      (congrArg (fun n => decide (n < maxSockNum)) hsock).trans has
    refine ⟨hsock, congrArg Prod.fst (releaseSocket_of_connected has' hhalf), half, ?_⟩
    exact hsock ▸ hhalf

end HostNetwork

/-! ### A run on a small kernel -/

/-- A kernel with the connections that peers make and what they send, an empty text at the
end.  No connection breaks. -/
structure SteadyKernel where
  accepts : List ℤ := []
  recvs : List (List UInt8) := []

namespace SteadyKernel

instance : Posix SteadyKernel where
  socket k := (3, k)
  setReuse _ k := (true, k)
  bind _ _ k := (true, k)
  fcntlGetFl _ k := (0, k)
  fcntlSetFl _ _ k := (true, k)
  listen _ k := (true, k)
  accept _ k := (k.accepts.headD (-1), { k with accepts := k.accepts.tail })
  recv _ _ _ k :=
    match k.recvs with
    | [] => (.error .again, k)
    | bytes :: rest => (.bytes bytes, { k with recvs := rest })
  send _ _ len k := (len, k)
  shutdownWr _ k := (true, k)
  close _ k := k

instance : McuCore SteadyKernel where
  millis k := (0, k)
  elapsedMillis _ k := (0, k)
  getWriteError k := (0, k)

instance : NeverResets SteadyKernel where
  recv _ _ _ k e h := by
    cases hr : k.recvs with
    | nil =>
      simp only [Posix.recv, hr, Received.error.injEq] at h
      subst h
      decide
    | cons b rest => simp [Posix.recv, hr] at h

end SteadyKernel

namespace HostNetwork

open ServerSocket Relation

/-- A server socket that has picked a socket when a peer connects, sends a byte and then
stops sending. -/
def visited : ServerSocket (HostNetwork SteadyKernel) Scripted :=
  let x : ServerSocket (HostNetwork SteadyKernel) Scripted :=
    { listener := {}, tcpPort := 80, net := { kernel := {} } }
  let y := x.run .pickClosedSocket
  let kernel : SteadyKernel := { accepts := [5], recvs := [[65], [], [], [], []] }
  { y with net := { y.net with kernel := kernel } }

/-- The connection is announced, and its end is, at every poll that follows; it is never
closed. -/
theorem connection_kept_visited :
    let x := visited.run .performIo
    let y := ((x.run .performIo).run .performIo).run .releaseSocket
    y.callbacks = [.onConnect false, .onDisconnect, .onDisconnect] ∧ x.announced ≤ 1 ∧
      y.releaseSocket.1 = false ∧ ∃ halfClosed, y.net.holding 0 = .connected 5 halfClosed := by
  intro x y
  have hvisited : Reaches PeersAct (fun _ c => c ≠ .socketLost) visited :=
    ((Reaches.start 80 _ _).call (by decide)).outside ⟨_, rfl⟩
  have hx : Reaches PeersAct (fun _ c => c ≠ .socketLost) x := hvisited.call (by decide)
  have hrun : ReflTransGen (ServerSocket.Step PeersAct fun _ c => c ≠ .socketLost) x y :=
    ((ReflTransGen.single (.call (by decide))).tail (.call (by decide))).tail (.call (by decide))
  obtain ⟨hone, hkept⟩ := connection_kept hx (by decide +kernel)
  have hlasts := hkept 5 false y (by decide +kernel) (by decide +kernel) hrun (by decide +kernel)
  exact ⟨by decide +kernel, hone, hlasts.2⟩

end HostNetwork
end McuNet
