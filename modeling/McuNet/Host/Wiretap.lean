/-
# The traffic of the host's connections

What goes through `::recv` and `::send` of `extras/host/ethernet5500/host_socket_info.cpp`,
for each file descriptor.

`Tapped K` is a kernel with a record, as a ghost, of the bytes that `recv` took out of each
connection and of those that `send` accepted for it; `refused` says that some `send` has
failed or taken nothing.  Polling a socket, accepting, listening, shutting down and closing
leave the record as it is: they look at a connection with `MSG_PEEK` at most
(`control_sameTraffic`).
-/

import McuNet.Host.FlushSend
import McuNet.Host.SocketOps
import McuNet.Host.StreamKernel
import McuNet.Server.Traffic

namespace McuNet

/-! ### Calls that move no data -/

/-- Every system call that moves no data changes the kernel as `Q` allows. -/
structure KernelQuiet {K : Type*} [Posix K] [McuCore K] (Q : K → K → Prop) : Prop where
  refl : ∀ k, Q k k
  trans : ∀ {a b c}, Q a b → Q b c → Q a c
  socket : ∀ k, Q k (Posix.socket k).2
  setup : HostSocketInfo.SetupMoves Q
  accept : ∀ fd k, Q k (Posix.accept fd k).2
  look : ∀ fd len k, Q k (Posix.recv fd len true k).2
  shutdownWr : ∀ fd k, Q k (Posix.shutdownWr fd k).2
  close : ∀ fd k, Q k (Posix.close fd k)
  millis : ∀ k, Q k (McuCore.millis k).2
  elapsedMillis : ∀ t k, Q k (McuCore.elapsedMillis t k).2

namespace KernelQuiet

variable {K : Type*} [Posix K] [McuCore K] {Q : K → K → Prop} (hQ : KernelQuiet Q)
  (s : HostSocketInfo) (k : K)

include hQ

/-- Closing the connection is at most one `close`. -/
theorem closeConnectionSocket : Q k (s.closeConnectionSocket k).2 := by
  simp only [HostSocketInfo.closeConnectionSocket]
  split_ifs
  · exact hQ.close _ _
  · exact hQ.refl _

/-- Closing the listener is at most one `close`. -/
theorem closeListenerSocket : Q k (s.closeListenerSocket k).2 := by
  simp only [HostSocketInfo.closeListenerSocket]
  split_ifs
  · exact hQ.close _ _
  · exact hQ.refl _

/-- `AcceptConnection` is one `accept`, and a `close` of the listener when it has succeeded. -/
theorem acceptConnection : Q k (s.acceptConnection k).2.2 := by
  generalize hr : s.acceptConnection k = r
  cases hr ▸ s.acceptConnection_cases k with
  | noListener _ => exact hQ.refl _
  | nothing _ _ => exact hQ.accept _ _
  | accepted _ _ => exact hQ.trans (hQ.accept _ _) (hQ.close _ _)

/-- `DisconnectConnectionSocket` is at most one `shutdown`. -/
theorem disconnectConnectionSocket : Q k (s.disconnectConnectionSocket k).2.2 := by
  simp only [HostSocketInfo.disconnectConnectionSocket]
  split_ifs
  · exact hQ.shutdownWr _ _
  · exact hQ.refl _

/-- `IsConnectionHalfClosed` looks at one byte, and leaves it there. -/
theorem isConnectionHalfClosed {r : Bool × HostSocketInfo × K}
    (hr : s.isConnectionHalfClosed k = some r) : Q k r.2.2 := by
  cases HostSocketInfo.isConnectionHalfClosed_returns hr with
  | notOpen _ => exact hQ.refl _
  | known _ _ => exact hQ.refl _
  | byte _ _ => exact hQ.look _ _ _
  | ended _ _ => exact hQ.look _ _ _

/-- The status of a connection needs no more than that. -/
theorem connectionStatus {r : UInt8 × HostSocketInfo × K}
    (hr : s.connectionStatus k = some r) : Q k r.2.2 := by
  rw [HostSocketInfo.connectionStatus] at hr
  split_ifs at hr
  · obtain ⟨half, hhalf, rfl⟩ := Option.map_eq_some_iff.1 hr
    exact hQ.isConnectionHalfClosed s k hhalf
  · exact Option.some.inj hr ▸ hQ.refl _

/-- `SocketStatus` may accept a connection first. -/
theorem socketStatus {r : UInt8 × HostSocketInfo × K} (hr : s.socketStatus k = some r) :
    Q k r.2.2 := by
  have haccepted := hQ.acceptConnection s k
  rcases HostSocketInfo.socketStatus_cases hr with ⟨-, heq, -⟩ | hconn
  · rw [heq]
    exact haccepted
  · exact hQ.trans haccepted (hQ.connectionStatus _ _ hconn)

/-- Opening a listener is `socket` and the calls that set it up, and a `close` when one fails. -/
theorem openListener (port mapped : UInt16) : Q k (s.openListener port mapped k).2.2 := by
  have hsocket := hQ.socket k
  generalize hr : s.openListener port mapped k = r
  cases hr ▸ HostSocketInfo.openListener_cases (R := Q) hQ.trans hQ.setup port mapped s k with
  | noSocket _ => exact hsocket
  | cleanedUp _ moved _ => exact hQ.trans (hQ.trans hsocket moved) (hQ.closeListenerSocket _ _)
  | left _ moved _ => exact hQ.trans hsocket moved
  | listening _ moved _ => exact hQ.trans hsocket moved

/-- `InitializeTcpListener` closes what the socket has before that. -/
theorem initializeTcpListener (portMap : List (UInt16 × UInt16)) (port : UInt16) :
    Q k (s.initializeTcpListener portMap port k).2.2 := by
  have hconn := hQ.closeConnectionSocket s k
  rcases s.initializeTcpListener_cases portMap port k with ⟨-, -, hr⟩ | ⟨-, -, hr⟩ | ⟨-, hr⟩
  · rw [hr]
    exact hconn
  · rw [hr]
    exact hQ.trans (hQ.trans hconn (hQ.closeListenerSocket _ _)) (hQ.openListener _ _ _ _)
  · rw [hr]
    exact hQ.trans hconn (hQ.openListener _ _ _ _)

/-- **`RecvInternal` with `peek`** takes nothing out; it closes a connection that is broken. -/
theorem lookAhead {len : ℕ} {r : (ℤ × List UInt8) × HostSocketInfo × K}
    (hr : s.recvInternal len true k = some r) : Q k r.2.2 := by
  cases HostSocketInfo.recvInternal_cases hr with
  | skipped _ => exact hQ.refl _
  | ended _ _ => exact hQ.look _ _ _
  | got _ _ => exact hQ.look _ _ _
  | blocked _ _ _ => exact hQ.look _ _ _
  | lost _ _ _ => exact hQ.trans (hQ.look _ _ _) (hQ.closeConnectionSocket _ _)

omit [Posix K] [McuCore K] hQ in
/-- A call on a socket changes the kernel as its function does. -/
theorem onSocket {α : Type*} (refl : ∀ k, Q k k) (default : α) (n : UInt8)
    {f : HostSocketInfo → K → Option (α × HostSocketInfo × K)}
    (hf : ∀ s k r, f s k = some r → Q k r.2.2) (w : HostNetwork K) :
    Q w.kernel (HostNetwork.onSocket default n f w).2.kernel := by
  generalize hr : HostNetwork.onSocket default n f w = r
  cases hr ▸ HostNetwork.onSocket_passed default n f w with
  | skipped _ => exact refl _
  | ended => exact refl _
  | done _ _ hresult => exact hf _ _ _ hresult

/-- `FindUnusedSocket` makes no system call. -/
theorem findUnusedSocketIn (ns : List UInt8) (w : HostNetwork K) :
    Q w.kernel (HostNetwork.findUnusedSocketIn ns w).2.kernel := by
  induction ns generalizing w with
  | nil => exact hQ.refl _
  | cons n ns ih =>
    have hunused : Q w.kernel
        (HostNetwork.onSocket false n (fun s k => s.isUnused.map (·, s, k)) w).2.kernel := by
      refine onSocket hQ.refl false n (fun s k r hr => ?_) w
      obtain ⟨b, -, rfl⟩ := Option.map_eq_some_iff.1 hr
      exact hQ.refl _
    simp only [HostNetwork.findUnusedSocketIn]
    split_ifs
    · exact hunused
    · exact hQ.trans hunused (ih _)

/-- **A platform call that moves no data makes no system call that does.** -/
theorem control : ControlMoves fun w w' : HostNetwork K => Q w.kernel w'.kernel where
  refl _ := hQ.refl _
  trans := hQ.trans
  findUnusedSocket w := hQ.findUnusedSocketIn _ w
  socketIsTcpListener n w := by
    refine onSocket hQ.refl 0 n (fun s k r hr => ?_) w
    obtain ⟨port, -, rfl⟩ := Option.map_eq_some_iff.1 hr
    exact hQ.refl _
  socketIsInTcpConnectionLifecycle n w := by
    refine onSocket hQ.refl false n (fun s k r hr => ?_) w
    exact Option.some.inj hr ▸ hQ.refl _
  socketStatus n w := onSocket hQ.refl _ n (fun s k _ hr => hQ.socketStatus s k hr) w
  initializeTcpListenerSocket n port w := by
    refine onSocket hQ.refl false n (fun s k r hr => ?_) w
    exact Option.some.inj hr ▸ hQ.initializeTcpListener s k _ _
  disconnectSocket n w := by
    refine onSocket hQ.refl false n (fun s k r hr => ?_) w
    exact Option.some.inj hr ▸ hQ.disconnectConnectionSocket s k
  closeSocket n w := by
    let counted := { w with closes := Function.update w.closes n (w.closes n + 1) }
    refine onSocket hQ.refl false n (fun s k r hr => ?_) counted
    exact Option.some.inj hr ▸ hQ.trans (hQ.closeConnectionSocket s k) (hQ.closeListenerSocket _ _)
  available n w := by
    refine onSocket hQ.refl (-1) n (fun s k r hr => ?_) w
    obtain ⟨q, hq, rfl⟩ := Option.map_eq_some_iff.1 hr
    exact hQ.lookAhead s k hq
  millis w := hQ.millis w.kernel
  elapsedMillis t w := hQ.elapsedMillis t w.kernel

end KernelQuiet

/-- `recv` returns at most as many bytes as it was asked for. -/
class LawfulRecv (K : Type*) [Posix K] : Prop where
  recv_le : ∀ (fd : ℤ) (len : ℕ) (peek : Bool) (k : K) (bytes : List UInt8),
    (Posix.recv fd len peek k).1 = .bytes bytes → bytes.length ≤ len

instance {K : Type*} [Posix K] [StreamKernel K] : LawfulRecv K where
  recv_le fd len peek k bytes h := by
    have hlaw := StreamKernel.recv fd len peek k
    rw [h] at hlaw
    generalize StreamKernel.incoming (Posix.recv fd len peek k).2 fd = after at hlaw
    cases hlaw with
    | bytes _ _ => exact List.length_take_le _ _
    | ended _ _ => exact Nat.zero_le _

/-! ### The record -/

/-- A kernel with a record of the bytes that went through each file descriptor. -/
structure Tapped (K : Type*) where
  kernel : K
  received : ℤ → List UInt8 := fun _ => []
  sent : ℤ → List UInt8 := fun _ => []
  refused : Bool := false

namespace Tapped

variable {K : Type*}

/-- A system call that is not recorded. -/
def pass {α : Type*} (r : α × K) (t : Tapped K) : α × Tapped K := (r.1, { t with kernel := r.2 })

/-- The bytes that a `recv` returned. -/
def bytesOf : Received → List UInt8
  | .bytes bytes => bytes
  | .error _ => []

instance [Posix K] : Posix (Tapped K) where
  socket t := t.pass (Posix.socket t.kernel)
  setReuse fd t := t.pass (Posix.setReuse fd t.kernel)
  bind fd port t := t.pass (Posix.bind fd port t.kernel)
  fcntlGetFl fd t := t.pass (Posix.fcntlGetFl fd t.kernel)
  fcntlSetFl fd flags t := t.pass (Posix.fcntlSetFl fd flags t.kernel)
  listen fd t := t.pass (Posix.listen fd t.kernel)
  accept fd t := t.pass (Posix.accept fd t.kernel)
  recv fd len peek t :=
    let r := Posix.recv fd len peek t.kernel
    (r.1, { t with
      kernel := r.2
      received := if peek then t.received
        else Function.update t.received fd (t.received fd ++ bytesOf r.1) })
  send fd buf len t :=
    let r := Posix.send fd buf len t.kernel
    (r.1, { t with
      kernel := r.2
      sent := Function.update t.sent fd (t.sent fd ++ buf.bytes r.1.toNat)
      refused := t.refused || decide (r.1 ≤ 0) })
  shutdownWr fd t := t.pass (Posix.shutdownWr fd t.kernel)
  close fd t := { t with kernel := Posix.close fd t.kernel }

instance [McuCore K] : McuCore (Tapped K) where
  millis t := t.pass (McuCore.millis t.kernel)
  elapsedMillis e t := t.pass (McuCore.elapsedMillis e t.kernel)
  getWriteError t := t.pass (McuCore.getWriteError t.kernel)

instance [Posix K] [LawfulSend K] : LawfulSend (Tapped K) where
  le_send fd p len t := LawfulSend.le_send fd p len t.kernel
  send_le fd p len t := LawfulSend.send_le fd p len t.kernel

instance [Posix K] [StreamKernel K] : StreamKernel (Tapped K) where
  incoming t := StreamKernel.incoming t.kernel
  recv fd len peek t := StreamKernel.recv fd len peek t.kernel
  accept fd t := StreamKernel.accept fd t.kernel
  send fd buf len t := StreamKernel.send fd buf len t.kernel
  shutdownWr fd t := StreamKernel.shutdownWr fd t.kernel
  close fd other t := StreamKernel.close fd other t.kernel

/-- Nothing was recorded in between. -/
structure SameTraffic (t t' : Tapped K) : Prop where
  received : t.received = t'.received
  sent : t.sent = t'.sent
  refused : t.refused = t'.refused

theorem SameTraffic.refl (t : Tapped K) : SameTraffic t t := ⟨rfl, rfl, rfl⟩

theorem SameTraffic.trans {a b c : Tapped K} (h : SameTraffic a b) (h' : SameTraffic b c) :
    SameTraffic a c :=
  ⟨h.received.trans h'.received, h.sent.trans h'.sent, h.refused.trans h'.refused⟩

theorem sameTraffic_put (t : Tapped K) (k : K) : SameTraffic t { t with kernel := k } :=
  ⟨rfl, rfl, rfl⟩

variable [Posix K] [McuCore K]

/-- **Only `recv` without `MSG_PEEK` and `send` are recorded.** -/
theorem quiet_sameTraffic : KernelQuiet (SameTraffic (K := K)) where
  refl := .refl
  trans := .trans
  socket t := t.sameTraffic_put _
  setup := ⟨fun _ t => t.sameTraffic_put _, fun _ _ t => t.sameTraffic_put _,
    fun _ t => t.sameTraffic_put _, fun _ _ t => t.sameTraffic_put _,
    fun _ t => t.sameTraffic_put _⟩
  accept _ t := t.sameTraffic_put _
  look _ _ t := t.sameTraffic_put _
  shutdownWr _ t := t.sameTraffic_put _
  close _ t := t.sameTraffic_put _
  millis t := t.sameTraffic_put _
  elapsedMillis _ t := t.sameTraffic_put _

/-- **The platform's calls that move no data are not recorded.** -/
theorem control_sameTraffic :
    ControlMoves fun w w' : HostNetwork (Tapped K) => SameTraffic w.kernel w'.kernel :=
  quiet_sameTraffic.control

omit [McuCore K]

/-- `recv` has put some bytes into the caller's buffer, and recorded them. -/
structure Took (s : HostSocketInfo) (len : ℕ) (t : Tapped K)
    (r : (ℤ × List UInt8) × HostSocketInfo × Tapped K) : Prop where
  isOpen : haveFd s.connectionSocketFd = true
  socket : r.2.1 = s
  count : r.1.1 = r.1.2.length
  some : r.1.2 ≠ []
  fits : r.1.2.length ≤ len
  received : r.2.2.received = Function.update t.received s.connectionSocketFd
    (t.received s.connectionSocketFd ++ r.1.2)
  sent : r.2.2.sent = t.sent
  refused : r.2.2.refused = t.refused

/-- **What `Recv` records**: what it returns. -/
theorem recv_took [LawfulRecv K] {s : HostSocketInfo} (len : ℕ) {t : Tapped K}
    {r : (ℤ × List UInt8) × HostSocketInfo × Tapped K} (h : s.recv len t = some r) :
    Took s len t r ∨ (r.1.1 = -1 ∨ r.1.1 = 0) ∧ SameTraffic t r.2.2 := by
  have hnone : ∀ answer, (Posix.recv s.connectionSocketFd len false t).1 = answer →
      bytesOf answer = [] → SameTraffic t (Posix.recv s.connectionSocketFd len false t).2 := by
    intro answer hanswer hbytes
    have hadded : bytesOf (Posix.recv s.connectionSocketFd len false t.kernel).1 = [] :=
      (congrArg bytesOf hanswer).trans hbytes
    refine ⟨?_, rfl, rfl⟩
    show t.received = Function.update t.received s.connectionSocketFd
      (t.received s.connectionSocketFd ++ bytesOf (Posix.recv _ _ _ t.kernel).1)
    rw [hadded, List.append_nil, Function.update_eq_self]
  cases HostSocketInfo.recvInternal_cases h with
  | skipped _ => exact .inr ⟨.inl rfl, .refl t⟩
  | ended _ eof => exact .inr ⟨.inr rfl, hnone _ eof rfl⟩
  | @got b bs hread some =>
    have hle : (b :: bs).length ≤ len := LawfulRecv.recv_le _ _ _ t.kernel _ some
    refine .inl ⟨hread.1, rfl, rfl, List.cons_ne_nil _ _, hle, ?_, rfl, rfl⟩
    show Function.update t.received s.connectionSocketFd (t.received s.connectionSocketFd ++
      bytesOf (Posix.recv s.connectionSocketFd len false t).1) = _
    rw [some]
    rfl
  | blocked _ error _ => exact .inr ⟨.inl rfl, hnone _ error rfl⟩
  | lost hread error _ =>
    refine .inr ⟨.inl rfl, (hnone _ error rfl).trans ?_⟩
    simp only [HostSocketInfo.closeConnectionSocket, hread.1, if_true]
    exact sameTraffic_put _ _

end Tapped
end McuNet
