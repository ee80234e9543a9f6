/-
# The sockets of the host network

`HostNetworkImpl`, the constructor of `HostNetwork` and its functions for one socket
(`extras/host/ethernet5500/host_network.cpp`).

The constructor puts `kMaxSockets` sockets into a map.  Every function looks its socket
number up there with `GetHostSocketInfo`, which returns a null pointer for a number out
of range and `CHECK`s that any other is in the map.  Its range goes up to `kMaxSockets`
and includes it, so this number is taken to be in the map and ends the process; it is
`MAX_SOCK_NUM`, the number of the client that `EthernetServer::available` returns when
it has none.  All other numbers are handled as they should be (`handled_iff`).

`McuNet.Host.Network` has the same functions without the map (`onSocket_simulates`).
-/

import McuNet.Host.LocalKernel
import McuNet.Host.SocketOps

namespace McuNet

/-- `HostSocketInfo::IsClosed`. -/
def HostSocketInfo.isClosed (s : HostSocketInfo) : Bool :=
  !haveFd s.listenerSocketFd && !haveFd s.connectionSocketFd

/-- `HostNetworkImpl`: the map `sockets`, in which a `unique_ptr` may be null. -/
structure HostNetworkImpl where
  sockets : UInt8 → Option (Option HostSocketInfo)

namespace HostNetworkImpl

open HostNetwork HostSocketInfo

/-- What `GetHostSocketInfo` comes to: a `CHECK` that fails, a null pointer, or a
pointer to a socket. -/
inductive Found where
  | missing
  | nullptr
  | info (s : HostSocketInfo)

/-- `GetHostSocketInfo`. -/
def getHostSocketInfo (sockNum : UInt8) (impl : HostNetworkImpl) : Found :=
  if 0 ≤ sockNum.toNat ∧ sockNum.toNat ≤ kMaxSockets.toNat then
    match impl.sockets sockNum with
    | none => .missing
    | some none => .missing
    | some (some s) => .info s
  else .nullptr

/-- The map with a socket at a number. -/
def put (impl : HostNetworkImpl) (n : UInt8) (s : HostSocketInfo) : HostNetworkImpl where
  sockets := Function.update impl.sockets n (some (some s))

@[simp] theorem sockets_put_self (impl : HostNetworkImpl) (n : UInt8) (s : HostSocketInfo) :
    (impl.put n s).sockets n = some (some s) :=
  Function.update_self _ _ _

theorem sockets_put_of_ne (impl : HostNetworkImpl) {m n : UInt8} (h : m ≠ n) (s : HostSocketInfo) :
    (impl.put n s).sockets m = impl.sockets m :=
  Function.update_of_ne h _ _

/-- The constructor of `HostNetwork`. -/
def new : HostNetworkImpl :=
  (List.range kMaxSockets.toNat).foldl (fun impl n => impl.put (UInt8.ofNat n) {}) ⟨fun _ => none⟩

variable {K α β : Type*}

/-- A function for one socket: the `default` is returned for a null pointer. -/
def onInfo (default : α) (n : UInt8) (f : HostSocketInfo → K → Option (α × HostSocketInfo × K))
    (x : HostNetworkImpl × K) : Option (α × HostNetworkImpl × K) :=
  match x.1.getHostSocketInfo n with
  | .missing => none
  | .nullptr => some (default, x)
  | .info s => (f s x.2).map fun r => (r.1, x.1.put n r.2.1, r.2.2)

/-- The loop of `FindUnusedSocket`, from some socket number on. -/
def findUnusedSocketIn : List UInt8 → HostNetworkImpl → Option ℤ
  | [], _ => some (-1)
  | n :: rest, impl =>
    match impl.getHostSocketInfo n with
    | .missing => none
    | .nullptr => findUnusedSocketIn rest impl
    | .info s =>
      match s.isUnused with
      | none => none
      | some true => some n.toNat
      | some false => findUnusedSocketIn rest impl

/-- `FindUnusedSocket`. -/
def findUnusedSocket : HostNetworkImpl → Option ℤ :=
  findUnusedSocketIn ((List.range kMaxSockets.toNat).map UInt8.ofNat)

/-- `SocketIsTcpListener`. -/
def socketIsTcpListener (n : UInt8) :
    HostNetworkImpl × K → Option (UInt16 × HostNetworkImpl × K) :=
  onInfo 0 n fun s k => s.isTcpListener.map (·, s, k)

/-- `SocketIsInTcpConnectionLifecycle`. -/
def socketIsInTcpConnectionLifecycle (n : UInt8) :
    HostNetworkImpl × K → Option (Bool × HostNetworkImpl × K) :=
  onInfo false n fun s k => some (s.isConnected, s, k)

/-- `SocketIsClosed`. -/
def socketIsClosed (n : UInt8) : HostNetworkImpl × K → Option (Bool × HostNetworkImpl × K) :=
  onInfo false n fun s k => some (s.isClosed, s, k)

/-- `Flush`, with `HostSocketInfo::Flush`, which only writes to the log. -/
def flush (n : UInt8) : HostNetworkImpl × K → Option (Unit × HostNetworkImpl × K) :=
  onInfo () n fun s k => some ((), s, k)

variable [Posix K]

/-- `SocketIsHalfClosed`. -/
def socketIsHalfClosed (n : UInt8) : HostNetworkImpl × K → Option (Bool × HostNetworkImpl × K) :=
  onInfo false n HostSocketInfo.isConnectionHalfClosed

/-- `SocketStatus`. -/
def socketStatus (n : UInt8) : HostNetworkImpl × K → Option (UInt8 × HostNetworkImpl × K) :=
  onInfo kStatusClosed n HostSocketInfo.socketStatus

/-- `InitializeTcpListenerSocket`, with the value of the flag `tcp_server_port_map`. -/
def initializeTcpListenerSocket (portMap : List (UInt16 × UInt16)) (n : UInt8)
    (tcpPort : UInt16) : HostNetworkImpl × K → Option (Bool × HostNetworkImpl × K) :=
  onInfo false n fun s k => some (s.initializeTcpListener portMap tcpPort k)

/-- `AcceptConnection`. -/
def acceptConnection (n : UInt8) : HostNetworkImpl × K → Option (Bool × HostNetworkImpl × K) :=
  onInfo false n fun s k => some (s.acceptConnection k)

/-- `DisconnectSocket`. -/
def disconnectSocket (n : UInt8) : HostNetworkImpl × K → Option (Bool × HostNetworkImpl × K) :=
  onInfo false n fun s k => some (s.disconnectConnectionSocket k)

/-- `CloseSocket`. -/
def closeSocket (n : UInt8) : HostNetworkImpl × K → Option (Bool × HostNetworkImpl × K) :=
  onInfo false n fun s k => some (true, destroy (s, k))

/-- `Send`. -/
def send (n : UInt8) (buf : Ptr) (len : ℕ) :
    HostNetworkImpl × K → Option (ℤ × HostNetworkImpl × K) :=
  onInfo (-1) n fun s k =>
    let r := s.send buf len k
    some (r.1, s, r.2)

/-- `AvailableBytes`. -/
def availableBytes (n : UInt8) : HostNetworkImpl × K → Option (ℤ × HostNetworkImpl × K) :=
  onInfo (-1) n HostSocketInfo.availableBytes

/-- `Peek`. -/
def peek (n : UInt8) : HostNetworkImpl × K → Option (ℤ × HostNetworkImpl × K) :=
  onInfo (-1) n HostSocketInfo.peek

/-- `Recv`. -/
def recv (n : UInt8) (len : ℕ) : HostNetworkImpl × K → Option (Answer × HostNetworkImpl × K) :=
  onInfo (-1, []) n (HostSocketInfo.recv len)

/-- A function for one socket, with its other arguments. -/
inductive SocketCall where
  | socketIsTcpListener
  | socketIsInTcpConnectionLifecycle
  | socketIsHalfClosed
  | socketIsClosed
  | socketStatus
  | initializeTcpListenerSocket (tcpPort : UInt16)
  | acceptConnection
  | disconnectSocket
  | closeSocket
  | send (buf : Ptr) (len : ℕ)
  | flush
  | availableBytes
  | peek
  | recv (len : ℕ)
  deriving DecidableEq, Repr

/-- What a function returns that fails: `0`, `false`, `CLOSED` or `-1`. -/
def SocketCall.failure : SocketCall → Answer
  | .socketIsTcpListener | .flush => (0, [])
  | .socketStatus => (kStatusClosed.toNat, [])
  | .send _ _ | .availableBytes | .peek | .recv _ => (-1, [])
  | _ => .ofBool false

/-- A call for one socket number. -/
def perform (portMap : List (UInt16 × UInt16)) (n : UInt8) (call : SocketCall)
    (x : HostNetworkImpl × K) : Option (Answer × HostNetworkImpl × K) :=
  match call with
  | .socketIsTcpListener => (socketIsTcpListener n x).map (Prod.map (fun p => (p.toNat, [])) id)
  | .socketIsInTcpConnectionLifecycle =>
    (socketIsInTcpConnectionLifecycle n x).map (Prod.map .ofBool id)
  | .socketIsHalfClosed => (socketIsHalfClosed n x).map (Prod.map .ofBool id)
  | .socketIsClosed => (socketIsClosed n x).map (Prod.map .ofBool id)
  | .socketStatus => (socketStatus n x).map (Prod.map (fun s => (s.toNat, [])) id)
  | .initializeTcpListenerSocket tcpPort =>
    (initializeTcpListenerSocket portMap n tcpPort x).map (Prod.map .ofBool id)
  | .acceptConnection => (acceptConnection n x).map (Prod.map .ofBool id)
  | .disconnectSocket => (disconnectSocket n x).map (Prod.map .ofBool id)
  | .closeSocket => (closeSocket n x).map (Prod.map .ofBool id)
  | .send buf len => (send n buf len x).map (Prod.map (·, []) id)
  | .flush => (flush n x).map (Prod.map (fun _ => (0, [])) id)
  | .availableBytes => (availableBytes n x).map (Prod.map (·, []) id)
  | .peek => (peek n x).map (Prod.map (·, []) id)
  | .recv len => recv n len x

/-- A call of the network. -/
inductive NetworkCall where
  | findUnusedSocket
  | onSocket (n : UInt8) (call : SocketCall)

/-- One call, with the value of the flag `tcp_server_port_map`. -/
def exec (portMap : List (UInt16 × UInt16)) (call : NetworkCall) (x : HostNetworkImpl × K) :
    Option (Answer × HostNetworkImpl × K) :=
  match call with
  | .findUnusedSocket => x.1.findUnusedSocket.map fun n => ((n, []), x)
  | .onSocket n call => perform portMap n call x

/-! ### What is in the map -/

/-- **The sockets that exist are in the map**, and nothing else is. -/
structure Populated (impl : HostNetworkImpl) : Prop where
  found : ∀ n, n < kMaxSockets → ∃ s, impl.sockets n = some (some s)
  missing : ∀ n, ¬n < kMaxSockets → impl.sockets n = none

/-- The map after a loop of the constructor. -/
theorem sockets_foldl_put (l : List ℕ) (impl : HostNetworkImpl) (n : UInt8) :
    (l.foldl (fun impl m => impl.put (UInt8.ofNat m) {}) impl).sockets n =
      if n ∈ l.map UInt8.ofNat then some (some {}) else impl.sockets n := by
  induction l generalizing impl with
  | nil => rfl
  | cons m rest ih =>
    rw [List.foldl_cons, ih]
    rw [List.map_cons]
    by_cases hrest : n ∈ rest.map UInt8.ofNat
    · rw [if_pos hrest, if_pos (List.mem_cons_of_mem _ hrest)]
    · rw [if_neg hrest]
      by_cases hm : n = UInt8.ofNat m
      · rw [if_pos (hm ▸ List.mem_cons_self), hm, sockets_put_self]
      · rw [if_neg (List.not_mem_cons_of_ne_of_not_mem hm hrest), sockets_put_of_ne _ hm]

/-- **The constructor fills the map.** -/
theorem populated_new : new.Populated := by
  have hmem : ∀ n : UInt8, n ∈ (List.range kMaxSockets.toNat).map UInt8.ofNat ↔ n < kMaxSockets := by
    intro n
    rw [List.mem_map, UInt8.lt_iff_toNat_lt]
    constructor
    · rintro ⟨m, hm, rfl⟩
      have hlt := List.mem_range.1 hm
      rwa [UInt8.toNat_ofNat_of_lt' (lt_trans hlt (by decide))]
    · exact fun hlt => ⟨n.toNat, List.mem_range.2 hlt, UInt8.ofNat_toNat⟩
  constructor
  · intro n hn
    exact ⟨{}, (sockets_foldl_put _ _ n).trans (if_pos ((hmem n).2 hn))⟩
  · intro n hn
    exact (sockets_foldl_put _ _ n).trans (if_neg (mt (hmem n).1 hn))

theorem Populated.put {impl : HostNetworkImpl} (h : impl.Populated) {n : UInt8}
    (hn : n < kMaxSockets) (s : HostSocketInfo) : (impl.put n s).Populated where
  found m hm := by
    by_cases hmn : m = n
    · exact ⟨s, hmn ▸ sockets_put_self _ _ _⟩
    · obtain ⟨t, ht⟩ := h.found m hm
      exact ⟨t, (sockets_put_of_ne _ hmn _).trans ht⟩
  missing m hm := by
    have hmn : m ≠ n := by
      rintro rfl
      exact hm hn
    exact (sockets_put_of_ne _ hmn _).trans (h.missing m hm)

/-- A socket number is that of a socket, the number of sockets, or above. -/
theorem sockNum_cases (n : UInt8) : n < kMaxSockets ∨ n = kMaxSockets ∨ kMaxSockets < n := by
  rw [UInt8.lt_iff_toNat_lt, UInt8.lt_iff_toNat_lt, ← UInt8.toNat_inj]
  exact lt_trichotomy _ _

/-! ### A function for one socket -/

section OnInfo

omit [Posix K]

variable {d : α} {n : UInt8} {f : HostSocketInfo → K → Option (α × HostSocketInfo × K)}
  {x : HostNetworkImpl × K}

/-- **A socket that exists** is found, and it alone may be changed. -/
theorem onInfo_of_lt (h : x.1.Populated) (hn : n < kMaxSockets) :
    ∃ s, x.1.sockets n = some (some s) ∧
      onInfo d n f x = (f s x.2).map fun r => (r.1, x.1.put n r.2.1, r.2.2) := by
  obtain ⟨s, hs⟩ := h.found n hn
  have hle : n.toNat ≤ kMaxSockets.toNat := (UInt8.lt_iff_toNat_lt.1 hn).le
  refine ⟨s, hs, ?_⟩
  rw [onInfo, getHostSocketInfo, if_pos ⟨Nat.zero_le _, hle⟩, hs]

/-- **The number of sockets** is in the range, and not in the map. -/
theorem onInfo_kMaxSockets (h : x.1.Populated) : onInfo d kMaxSockets f x = none := by
  have hnone := h.missing kMaxSockets (by decide)
  rw [onInfo, getHostSocketInfo, if_pos ⟨Nat.zero_le _, le_rfl⟩, hnone]

/-- Other numbers are out of range. -/
theorem onInfo_of_gt (hn : kMaxSockets < n) : onInfo d n f x = some (d, x) := by
  have hgt := UInt8.lt_iff_toNat_lt.1 hn
  rw [onInfo, getHostSocketInfo, if_neg fun hrange => absurd hrange.2 (not_le.2 hgt)]

/-- The value of a function in another form. -/
theorem onInfo_map (g : α → β) :
    (onInfo d n f x).map (Prod.map g id) =
      onInfo (g d) n (fun s k => (f s k).map (Prod.map g id)) x := by
  unfold onInfo
  cases x.1.getHostSocketInfo n with
  | missing => rfl
  | nullptr => rfl
  | info s =>
    simp only [Option.map_map]
    rfl

end OnInfo

/-- **Every function for one socket looks it up**, and has its own failure value. -/
theorem perform_eq_onInfo (portMap : List (UInt16 × UInt16)) (call : SocketCall) :
    ∃ f, ∀ n (x : HostNetworkImpl × K),
      perform portMap n call x = onInfo call.failure n f x := by
  cases call with
  | recv len => exact ⟨_, fun _ _ => rfl⟩
  | _ => exact ⟨_, fun _ _ => onInfo_map _⟩

/-- **The call is handled**: a number of no socket is turned away with the failure
value, and any other socket but the one of the number is left alone. -/
structure Handled (portMap : List (UInt16 × UInt16)) (x : HostNetworkImpl × K) (n : UInt8)
    (call : SocketCall) : Prop where
  invalid : ¬n < kMaxSockets → perform portMap n call x = some (call.failure, x)
  valid : n < kMaxSockets → ∀ r, perform portMap n call x = some r →
    ∀ m, m ≠ n → r.2.1.sockets m = x.1.sockets m

/-- Calls keep the sockets in the map. -/
theorem Populated.exec {portMap : List (UInt16 × UInt16)} {x : HostNetworkImpl × K}
    (h : x.1.Populated) {call : NetworkCall} {r : Answer × HostNetworkImpl × K}
    (hr : exec portMap call x = some r) : r.2.1.Populated := by
  cases call with
  | findUnusedSocket =>
    obtain ⟨_, -, rfl⟩ := Option.map_eq_some_iff.1 hr
    exact h
  | onSocket n call =>
    obtain ⟨f, hf⟩ := perform_eq_onInfo (K := K) portMap call
    rw [HostNetworkImpl.exec, hf] at hr
    rcases sockNum_cases n with hn | rfl | hn
    · obtain ⟨s, -, heq⟩ := onInfo_of_lt (d := call.failure) (f := f) h hn
      obtain ⟨q, -, rfl⟩ := Option.map_eq_some_iff.1 (heq.symm.trans hr)
      exact h.put hn q.2.1
    · exact absurd ((onInfo_kMaxSockets h).symm.trans hr) nofun
    · obtain rfl := Option.some.inj ((onInfo_of_gt hn).symm.trans hr)
      exact h

/-- **Which socket numbers are handled.**  In every state that a network reaches, whatever
is called and whatever the kernel does: a call is handled if and only if its socket
number is not `kMaxSockets`. -/
theorem handled_iff {portMap : List (UInt16 × UInt16)} {k₀ : K}
    {log : List (NetworkCall × Answer)} {x : HostNetworkImpl × K}
    (h : Run (exec portMap) (fun x y => y.1 = x.1) (fun _ _ => True) (new, k₀) log x)
    (n : UInt8) (call : SocketCall) : Handled portMap x n call ↔ n ≠ kMaxSockets := by
  have hx : x.1.Populated := by
    refine h.state_invariant (I := fun x => x.1.Populated) populated_new ?_ ?_
    · exact fun x call r hx _ hr => hx.exec hr
    · exact fun x y hx hsame => hsame ▸ hx
  obtain ⟨f, hf⟩ := perform_eq_onInfo (K := K) portMap call
  constructor
  · rintro hright rfl
    have hrejected := hright.invalid (by decide)
    rw [hf, onInfo_kMaxSockets hx] at hrejected
    exact absurd hrejected nofun
  · intro hne
    constructor
    · intro hn
      rw [hf]
      exact onInfo_of_gt (((sockNum_cases n).resolve_left hn).resolve_left hne)
    · intro hn r hr m hm
      rw [hf] at hr
      obtain ⟨s, -, heq⟩ := onInfo_of_lt (d := call.failure) (f := f) hx hn
      obtain ⟨q, -, rfl⟩ := Option.map_eq_some_iff.1 (heq.symm.trans hr)
      exact sockets_put_of_ne _ hm _

/-- `available` of the client that `EthernetServer::available` returns when it has none
ends the process. -/
theorem handled_counterexample :
    perform [] maxSockNum .availableBytes (new, ({} : LocalKernel)) = none ∧
      ¬Handled [] (new, ({} : LocalKernel)) maxSockNum .availableBytes := by
  have hnone : perform [] maxSockNum .availableBytes (new, ({} : LocalKernel)) = none := by rfl
  refine ⟨hnone, fun h => ?_⟩
  have hrejected := h.invalid (by decide)
  exact absurd (hnone.symm.trans hrejected) nofun

/-- Socket 0 listens on port 80.  A client for socket 200 reads. -/
theorem handled_iff_listening :
    ∃ x, exec [] (.onSocket 0 (.initializeTcpListenerSocket 80)) (new, ({} : LocalKernel)) = some x ∧
      x.1 = (1, []) ∧ perform [] 200 (.recv 5) x.2 = some ((-1, []), x.2) := by
  let x := (exec [] (.onSocket 0 (.initializeTcpListenerSocket 80)) (new, ({} : LocalKernel))).get
    (by rfl)
  have hx : exec [] (.onSocket 0 (.initializeTcpListenerSocket 80)) (new, ({} : LocalKernel)) =
      some x := (Option.some_get _).symm
  refine ⟨x, hx, by decide +kernel, ?_⟩
  exact ((handled_iff (.call .start trivial hx) 200 (.recv 5)).2 (by decide)).invalid (by decide)

end HostNetworkImpl

/-! ### The network without the map -/

namespace HostNetwork

open HostNetworkImpl

variable {K : Type*}

/-- The map that a network stands for. -/
def impl (w : HostNetwork K) : HostNetworkImpl where
  sockets n := if n < kMaxSockets then some (some (w.sockets n)) else none

theorem populated_impl (w : HostNetwork K) : w.impl.Populated where
  found _ hn := ⟨_, if_pos hn⟩
  missing _ hn := if_neg hn

/-- A new network has the map of the constructor. -/
theorem impl_new (k : K) : HostNetwork.impl { kernel := k } = HostNetworkImpl.new := by
  have hnew := populated_new
  suffices h : ∀ n, (HostNetwork.impl { kernel := k }).sockets n = HostNetworkImpl.new.sockets n from
    congrArg HostNetworkImpl.mk (funext h)
  intro n
  by_cases hn : n < kMaxSockets
  · obtain ⟨s, hs⟩ := hnew.found n hn
    have hdefault : HostNetworkImpl.new.sockets n = some (some {}) := by
      have hfold := sockets_foldl_put (List.range kMaxSockets.toNat) ⟨fun _ => none⟩ n
      split_ifs at hfold with hmem
      · exact hfold
      · exact absurd (hs.symm.trans hfold) nofun
    exact (if_pos hn).trans hdefault.symm
  · exact (if_neg hn).trans (hnew.missing n hn).symm

/-- A socket that is written back. -/
theorem impl_update (w : HostNetwork K) {n : UInt8} (hn : n < kMaxSockets) (k : K)
    (s : HostSocketInfo) :
    HostNetwork.impl { w with kernel := k, sockets := Function.update w.sockets n s } =
      w.impl.put n s := by
  refine congrArg HostNetworkImpl.mk (funext fun m => ?_)
  dsimp only
  by_cases hm : m = n
  · rw [hm, Function.update_self, Function.update_self, if_pos hn]
  · rw [Function.update_of_ne hm, Function.update_of_ne hm, impl]

/-- **A network does what its map does**, and has ended the process when a `CHECK`
fails. -/
theorem onSocket_simulates {α : Type*} {w : HostNetwork K} (live : w.aborted = false)
    (default : α) (n : UInt8) (f : HostSocketInfo → K → Option (α × HostSocketInfo × K)) :
    let q := onSocket default n f w
    match onInfo default n f (w.impl, w.kernel) with
    | none => q.2.aborted = true
    | some r => (q.1, q.2.impl, q.2.kernel) = r ∧ q.2.aborted = false := by
  rcases sockNum_cases n with hn | rfl | hn
  · obtain ⟨s, hs, hinfo⟩ := onInfo_of_lt (d := default) (f := f) (x := (w.impl, w.kernel))
      w.populated_impl hn
    obtain rfl : w.sockets n = s :=
      Option.some.inj (Option.some.inj ((if_pos hn).symm.trans hs))
    rw [hinfo]
    cases hf : f (w.sockets n) w.kernel with
    | none =>
      generalize hq : onSocket default n f w = q
      cases hq ▸ onSocket_passed default n f w with
      | skipped skip =>
        rcases skip with aborted | above
        · exact aborted
        · rw [UInt8.lt_iff_toNat_lt] at hn above
          omega
      | ended => rfl
      | done _ _ result => exact absurd (hf.symm.trans result) nofun
    | some r =>
      have hdone := Has.onSocket (x := (w.sockets n, w.kernel)) ⟨live, hn, rfl, rfl⟩ default hf
      rw [hdone]
      refine ⟨?_, live⟩
      exact congrArg (fun impl => (r.1, impl, r.2.2)) (impl_update w hn r.2.2 r.2.1)
  · rw [onInfo_kMaxSockets w.populated_impl]
    simp [onSocket, live]
  · rw [onInfo_of_gt hn]
    simp [onSocket, live, hn]

end HostNetwork
end McuNet
