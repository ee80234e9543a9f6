/-
# The operations of a host socket

The public methods of `HostSocketInfo`
(`extras/host/ethernet5500/host_socket_info.h`), as operations of one object.

An operation runs on the members and on the kernel; a failed `CHECK` does not
return.  Few functions change the members or call the kernel; the rest of the
operations call these.  `Kept` is what these few keep, and `Kept.perform` the rule
for all operations.  What a call of `recv` does to an invariant often depends on
what is there to receive: `may` is a condition on these calls, and `Allows` what it
comes to for an operation.
-/

import McuNet.Core.Run
import McuNet.Host.SocketInfo

namespace McuNet
namespace HostSocketInfo

/-- A public method and its arguments. -/
inductive Op where
  | initializeTcpListener (newTcpPort : UInt16)
  | acceptConnection
  | disconnectConnectionSocket
  | closeConnectionSocket
  | closeListenerSocket
  | socketStatus
  | isConnectionHalfClosed
  | canReadFromConnection
  | send (buf : Ptr) (len : ℕ)
  | availableBytes
  | peek
  | recv (len : ℕ)
  deriving DecidableEq, Repr

/-- What a method returns, and the bytes that it puts into the caller's buffer. -/
abbrev Answer := ℤ × List UInt8

/-- The answer of a method that returns a `bool`. -/
def Answer.ofBool (b : Bool) : Answer := (if b then 1 else 0, [])

variable {K : Type*} [Posix K]

/-- `CanReadFromConnection`, which takes the byte that it finds out of the stream. -/
def canReadFromConnection' (s : HostSocketInfo) (k : K) : Option (Bool × HostSocketInfo × K) :=
  if haveFd s.connectionSocketFd then
    if s.canReadFromConnection then (peek s k).map fun r => (decide (0 ≤ r.1), r.2)
    else some (false, s, k)
  else some (false, s, k)

/-- One operation, with the value of the flag `tcp_server_port_map`. -/
def perform (portMap : List (UInt16 × UInt16)) (op : Op) (x : HostSocketInfo × K) :
    Option (Answer × HostSocketInfo × K) :=
  match op with
  | .initializeTcpListener port =>
    let r := x.1.initializeTcpListener portMap port x.2
    some (.ofBool r.1, r.2)
  | .acceptConnection =>
    let r := x.1.acceptConnection x.2
    some (.ofBool r.1, r.2)
  | .disconnectConnectionSocket =>
    let r := x.1.disconnectConnectionSocket x.2
    some (.ofBool r.1, r.2)
  | .closeConnectionSocket => some ((0, []), x.1.closeConnectionSocket x.2)
  | .closeListenerSocket => some ((0, []), x.1.closeListenerSocket x.2)
  | .socketStatus => (x.1.socketStatus x.2).map fun r => ((r.1.toNat, []), r.2)
  | .isConnectionHalfClosed => (x.1.isConnectionHalfClosed x.2).map fun r => (.ofBool r.1, r.2)
  | .canReadFromConnection => (x.1.canReadFromConnection' x.2).map fun r => (.ofBool r.1, r.2)
  | .send buf len =>
    let r := x.1.send buf len x.2
    some ((r.1, []), x.1, r.2)
  | .availableBytes => (x.1.availableBytes x.2).map fun r => ((r.1, []), r.2)
  | .peek => (x.1.peek x.2).map fun r => ((r.1, []), r.2)
  | .recv len => x.1.recv len x.2

/-- Something that happens outside of the socket: only the kernel changes. -/
def Beside (R : K → K → Prop) (x y : HostSocketInfo × K) : Prop := y.1 = x.1 ∧ R x.2 y.2

/-- The destructor. -/
def destroy (x : HostSocketInfo × K) : HostSocketInfo × K :=
  let c := x.1.closeConnectionSocket x.2
  c.1.closeListenerSocket c.2

/-! ### What the functions keep -/

/-- The call of `recv` that the operation makes, if any, meets the condition `may`: its
length, whether it peeks, and the state in which it is made.  `SocketStatus` makes its
call after it has accepted a connection. -/
def Allows (may : ℕ → Bool → HostSocketInfo × K → Prop) (x : HostSocketInfo × K) : Op → Prop
  | .socketStatus => may 1 true (x.1.acceptConnection x.2).2
  | .isConnectionHalfClosed => may 1 true x
  | .canReadFromConnection => may 1 false x
  | .availableBytes => may 1000 true x
  | .peek => may 1 false x
  | .recv len => may len false x
  | _ => True

/-- What the functions keep that change a socket or call the kernel;
`InitializeTcpListener` is left out. -/
structure Kept (may : ℕ → Bool → HostSocketInfo × K → Prop) (I : HostSocketInfo × K → Prop) :
    Prop where
  closeConnectionSocket : ∀ s k, I (s, k) → I (s.closeConnectionSocket k)
  closeListenerSocket : ∀ s k, I (s, k) → I (s.closeListenerSocket k)
  acceptConnection : ∀ s k, I (s, k) → I (s.acceptConnection k).2
  disconnectConnectionSocket : ∀ s k, I (s, k) → I (s.disconnectConnectionSocket k).2
  send : ∀ buf len s k, I (s, k) → I (s, (s.send buf len k).2)
  recvInternal : ∀ len peek s k r, I (s, k) → may len peek (s, k) →
    s.recvInternal len peek k = some r → I r.2
  isConnectionHalfClosed : ∀ s k r, I (s, k) → may 1 true (s, k) →
    s.isConnectionHalfClosed k = some r → I r.2

variable {may : ℕ → Bool → HostSocketInfo × K → Prop} {I : HostSocketInfo × K → Prop}
  {s : HostSocketInfo} {k : K}

/-- A socket in use is probed. -/
theorem Kept.connectionStatus (h : Kept may I) (hs : I (s, k)) (hmay : may 1 true (s, k))
    {r : UInt8 × HostSocketInfo × K} (hr : s.connectionStatus k = some r) : I r.2 := by
  rw [HostSocketInfo.connectionStatus] at hr
  split_ifs at hr
  · obtain ⟨half, hhalf, rfl⟩ := Option.map_eq_some_iff.1 hr
    exact h.isConnectionHalfClosed s k half hs hmay hhalf
  · exact Option.some.inj hr ▸ hs

/-- A socket without a listener accepts nothing. -/
theorem acceptConnection_of_noListener (hl : haveFd s.listenerSocketFd = false) :
    s.acceptConnection k = (false, s, k) := by
  rw [HostSocketInfo.acceptConnection, hl, if_neg Bool.false_ne_true]

theorem listener_of_isTcpListener {port : UInt16} (hport : s.isTcpListener = some port) :
    haveFd s.listenerSocketFd = true ↔ port ≠ 0 := by
  rw [isTcpListener] at hport
  split_ifs at hport with hl h0 h0
  · exact iff_of_true hl (Option.some.inj hport ▸ UInt16.pos_iff_ne_zero.1 h0)
  · exact iff_of_false hl (not_not.2 (Option.some.inj hport).symm)

/-- **A status read** accepts a connection that waits, and probes the connection if
there is one then. -/
theorem socketStatus_cases {r : UInt8 × HostSocketInfo × K} (hr : s.socketStatus k = some r) :
    let y := (s.acceptConnection k).2
    (haveFd y.1.connectionSocketFd = false ∧ r.2 = y ∧
        (r.1 = kStatusClosed ∨ r.1 = kStatusListening)) ∨
      y.1.connectionStatus y.2 = some r := by
  rw [HostSocketInfo.socketStatus] at hr
  split at hr
  · exact absurd hr nofun
  · -- not in use
    rename_i hunused
    have hfds : haveFd s.listenerSocketFd = false ∧ haveFd s.connectionSocketFd = false := by
      rw [isUnused] at hunused
      split_ifs at hunused with hl h1 h2
      · exact absurd (Option.some.inj hunused) Bool.false_ne_true
      · exact ⟨Bool.eq_false_of_not_eq_true hl, by simpa using hunused⟩
    rw [acceptConnection_of_noListener hfds.1]
    obtain rfl := Option.some.inj hr
    exact .inl ⟨hfds.2, rfl, .inl rfl⟩
  · exact absurd hr nofun
  · rename_i port _ hport
    have hlisten := listener_of_isTcpListener hport
    dsimp only at hr
    split_ifs at hr with hne ha
    · exact .inr hr
    · obtain rfl := Option.some.inj hr
      refine .inl ⟨?_, rfl, .inr rfl⟩
      generalize ha' : s.acceptConnection k = a at ha
      cases ha' ▸ s.acceptConnection_cases k with
      | noListener hl => exact absurd (hl.symm.trans (hlisten.2 hne)) Bool.false_ne_true
      | nothing _ hno => exact hno
      | accepted _ _ => exact absurd rfl ha
    · rw [acceptConnection_of_noListener (Bool.eq_false_of_not_eq_true (hlisten.not.2 hne))]
      exact .inr hr

theorem Kept.socketStatus (h : Kept may I) (hs : I (s, k))
    (hmay : may 1 true (s.acceptConnection k).2) {r : UInt8 × HostSocketInfo × K}
    (hr : s.socketStatus k = some r) : I r.2 := by
  have haccepted := h.acceptConnection s k hs
  rcases socketStatus_cases hr with ⟨-, heq, -⟩ | hconn
  · exact heq ▸ haccepted
  · exact h.connectionStatus haccepted hmay hconn

theorem Kept.peek (h : Kept may I) (hs : I (s, k)) (hmay : may 1 false (s, k))
    {r : ℤ × HostSocketInfo × K} (hr : s.peek k = some r) : I r.2 := by
  obtain ⟨q, hq, rfl⟩ := Option.map_eq_some_iff.1 hr
  exact h.recvInternal 1 false s k q hs hmay hq

/-- **The rule for operations.**  What the functions keep, every operation keeps that
`may` allows, as long as `InitializeTcpListener` does. -/
theorem Kept.perform (h : Kept may I) {portMap : List (UInt16 × UInt16)} {op : Op}
    {x : HostSocketInfo × K} {r : Answer × HostSocketInfo × K} (hx : I x) (hmay : Allows may x op)
    (hinit : ∀ port, op = .initializeTcpListener port →
      I (x.1.initializeTcpListener portMap port x.2).2)
    (hr : perform portMap op x = some r) : I r.2 := by
  cases op with
  | initializeTcpListener port => exact Option.some.inj hr ▸ hinit port rfl
  | acceptConnection => exact Option.some.inj hr ▸ h.acceptConnection x.1 x.2 hx
  | disconnectConnectionSocket =>
    exact Option.some.inj hr ▸ h.disconnectConnectionSocket x.1 x.2 hx
  | closeConnectionSocket => exact Option.some.inj hr ▸ h.closeConnectionSocket x.1 x.2 hx
  | closeListenerSocket => exact Option.some.inj hr ▸ h.closeListenerSocket x.1 x.2 hx
  | socketStatus =>
    obtain ⟨q, hq, rfl⟩ := Option.map_eq_some_iff.1 hr
    exact h.socketStatus hx hmay hq
  | isConnectionHalfClosed =>
    obtain ⟨q, hq, rfl⟩ := Option.map_eq_some_iff.1 hr
    exact h.isConnectionHalfClosed x.1 x.2 q hx hmay hq
  | canReadFromConnection =>
    obtain ⟨q, hq, rfl⟩ := Option.map_eq_some_iff.1 hr
    rw [canReadFromConnection'] at hq
    split_ifs at hq
    · obtain ⟨p, hp, rfl⟩ := Option.map_eq_some_iff.1 hq
      exact h.peek hx hmay hp
    · exact Option.some.inj hq ▸ hx
    · exact Option.some.inj hq ▸ hx
  | send buf len => exact Option.some.inj hr ▸ h.send buf len x.1 x.2 hx
  | availableBytes =>
    obtain ⟨q, hq, rfl⟩ := Option.map_eq_some_iff.1 hr
    obtain ⟨p, hp, rfl⟩ := Option.map_eq_some_iff.1 hq
    have hkept : I p.2 := h.recvInternal 1000 true x.1 x.2 p hx hmay hp
    exact hkept
  | peek =>
    obtain ⟨q, hq, rfl⟩ := Option.map_eq_some_iff.1 hr
    exact h.peek hx hmay hq
  | recv len => exact h.recvInternal len false x.1 x.2 r hx hmay hr

/-- Without a condition every operation is allowed. -/
theorem allows_true (x : HostSocketInfo × K) (op : Op) :
    Allows (fun _ _ _ => True) x op := by
  cases op <;> trivial

/-! ### When it does not matter what is received -/

section Recv

variable (hclose : ∀ s k, I (s, k) → I (s.closeConnectionSocket k))
  (hrecv : ∀ len peek s k, I (s, k) → I (s, (Posix.recv s.connectionSocketFd len peek k).2))
  (heof : ∀ s k, I (s, k) → haveFd s.connectionSocketFd = true →
    I ({ s with canReadFromConnection := false }, k))

include hrecv heof

theorem isConnectionHalfClosed_kept (hs : I (s, k)) {r : Bool × HostSocketInfo × K}
    (hr : s.isConnectionHalfClosed k = some r) : I r.2 := by
  have hreceived := hrecv 1 true s k hs
  cases isConnectionHalfClosed_returns hr with
  | notOpen _ => exact hs
  | known _ _ => exact hs
  | byte _ _ => exact hreceived
  | ended live _ => exact heof _ _ hreceived live.1

include hclose

theorem recvInternal_kept (hs : I (s, k)) {len : ℕ} {peek : Bool}
    {r : (ℤ × List UInt8) × HostSocketInfo × K} (hr : s.recvInternal len peek k = some r) :
    I r.2 := by
  have hreceived := hrecv len peek s k hs
  cases recvInternal_cases hr with
  | skipped _ => exact hs
  | ended live _ => exact heof _ _ hreceived live.1
  | got _ _ => exact hreceived
  | blocked _ _ _ => exact hreceived
  | lost _ _ _ => exact hclose _ _ hreceived

end Recv

end HostSocketInfo
end McuNet
