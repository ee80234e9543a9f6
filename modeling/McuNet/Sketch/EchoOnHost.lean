/-
# The echo server on the host

`src/examples/NetEcho/NetEcho.ino` over `extras/host/ethernet5500/host_network.cpp` and
`extras/host/ethernet5500/host_socket_info.cpp`.

On the host a connection is a file descriptor, so the record is one for each of them
(`McuNet.Host.Wiretap`).  As long as every `send` takes something, what was sent on a
file descriptor is what was received from it, after every pass (`echoes_host`): nothing is
left for later, no byte is lost, duplicated or reordered, and none goes to another
connection.  A `send` that fails is excluded because of what the flush loop makes of it
(`McuNet.Host.FlushSend`).
-/

import McuNet.Host.Receiving
import McuNet.Host.Wiretap
import McuNet.Sketch.NetEcho

namespace McuNet
namespace NetEcho

open HostNetwork Tapped

variable {K : Type*} [Posix K] [McuCore K]

/-- What stays the same of a host while a connection is written to. -/
structure Talks (n : UInt8) (w₀ w : HostNetwork (Tapped K)) : Prop where
  live : w.aborted = false
  sockets : w.sockets = w₀.sockets
  received : w.kernel.received = w₀.kernel.received
  others : ∀ fd, fd ≠ (w₀.sockets n).connectionSocketFd → w.kernel.sent fd = w₀.kernel.sent fd

omit [Posix K] [McuCore K] in
theorem Talks.refl {n : UInt8} {w : HostNetwork (Tapped K)} (hlive : w.aborted = false) :
    Talks n w w := ⟨hlive, rfl, rfl, fun _ _ => rfl⟩

/-- **The client of an open connection** hands over what `send` takes. -/
theorem watched_client [LawfulSend K] {n : UInt8} (hn : n < kMaxSockets)
    (w₀ : HostNetwork (Tapped K)) (hfd : haveFd (w₀.sockets n).connectionSocketFd = true) :
    WriteBufferedConnection.Watched (ethernetClient n) (Talks n w₀)
      (fun w => w.kernel.refused = false)
      (fun w => w.kernel.sent (w₀.sockets n).connectionSocketFd) := by
  have hsend : ∀ p len w, Talks n w₀ w → HostNetwork.send n p len w =
      ((Posix.send (w₀.sockets n).connectionSocketFd p len w.kernel).1,
        { w with kernel := (Posix.send (w₀.sockets n).connectionSocketFd p len w.kernel).2 }) := by
    intro p len w hw
    rw [send_eq hn hw.live, hw.sockets]
    simp only [HostSocketInfo.send, hfd, if_true]
  constructor
  · intro p size w hw
    simp only [ethernetClient, hsend p _ w hw]
    refine ⟨hw.live, hw.sockets, hw.received, fun fd hne => ?_⟩
    exact (Function.update_of_ne hne _ _).trans (hw.others fd hne)
  · intro p size w hw hgood
    simp only [ethernetClient, hsend p _ w hw] at hgood
    exact (Bool.or_eq_false_iff.1 hgood).1
  · intro p size w hw h0 h8 hgood
    have hsize : ¬2048 < size := by omega
    simp only [ethernetClient, if_neg hsize, hsend p _ w hw] at hgood ⊢
    have hpos := of_decide_eq_false (Bool.or_eq_false_iff.1 hgood).2
    have hle : (Posix.send (w₀.sockets n).connectionSocketFd p size w.kernel.kernel).1 ≤ size :=
      LawfulSend.send_le _ p size w.kernel.kernel
    have hcount : sizeT (Posix.send (w₀.sockets n).connectionSocketFd p size w.kernel).1 =
        (Posix.send (w₀.sockets n).connectionSocketFd p size w.kernel.kernel).1.toNat := by
      show sizeT (Posix.send _ p size w.kernel.kernel).1 = _
      unfold sizeT
      omega
    rw [hcount]
    refine ⟨by omega, by omega, ?_⟩
    exact Function.update_self _ _ _
  · intro w hw
    exact ⟨hw.live, hw.sockets, hw.received, hw.others⟩
  · intro w hw hgood
    exact hgood

/-- As long as no `send` was refused, what was sent on each connection is what was received
from it. -/
def Balanced (t : Tapped K) : Prop := t.refused = false → t.sent = t.received

omit [Posix K] [McuCore K] in
/-- A balance stays when nothing is recorded. -/
theorem Balanced.same {t t' : Tapped K} (h : Balanced t) (hsame : SameTraffic t t') :
    Balanced t' := by
  intro hgood
  rw [← hsame.sent, ← hsame.received]
  exact h (hsame.refused.trans hgood)

/-- **What `OnCanRead` reads on the host**: nothing, or some bytes of an open connection,
which are recorded. -/
inductive HostReads (n : UInt8) (w : HostNetwork (Tapped K)) :
    (ℤ × List UInt8) × HostNetwork (Tapped K) → Prop where
  | nothing {r} (none : r.1.1 ≤ 0) (same : SameTraffic w.kernel r.2.kernel) : HostReads n w r
  | some {q : (ℤ × List UInt8) × HostSocketInfo × Tapped K} (live : w.aborted = false)
      (range : n < kMaxSockets) (took : Took (w.sockets n) EchoListener.bufferSize w.kernel q) :
      HostReads n w ((q.1.2.length, q.1.2), { w with kernel := q.2.2 })

/-- `EthernetClient::read` returns the count of `Recv` as an `int`. -/
theorem readsFirst_eq (n : UInt8) (w : HostNetwork (Tapped K)) :
    readsFirst n w =
      (((HostNetwork.recv n EchoListener.bufferSize w).1.1.bmod (2 ^ 32),
        (HostNetwork.recv n EchoListener.bufferSize w).1.2),
        (HostNetwork.recv n EchoListener.bufferSize w).2) := rfl

/-- `OnCanRead` reads what `Recv` returns. -/
theorem readsFirst_host [LawfulRecv K] (n : UInt8) (w : HostNetwork (Tapped K)) :
    HostReads n w (readsFirst n w) := by
  have hneg : (-1 : ℤ).bmod (2 ^ 32) ≤ 0 := by decide
  rw [readsFirst_eq]
  generalize hr : HostNetwork.recv n EchoListener.bufferSize w = r
  have hpassed : Passed (-1, []) n (HostSocketInfo.recv EchoListener.bufferSize) w r :=
    hr ▸ HostNetwork.onSocket_passed _ n _ w
  cases hpassed with
  | skipped _ => exact .nothing hneg (.refl _)
  | ended => exact .nothing hneg (.refl _)
  | @done live range q result =>
    rcases recv_took _ result with htook | ⟨hnone, hsame⟩
    · have hfits : q.1.2.length ≤ 128 := htook.fits
      have hcount : q.1.1.bmod (2 ^ 32) = q.1.2.length := by
        rw [htook.count, ReadContract.bmod_count_iff]
        omega
      rw [hcount, htook.socket, Function.update_eq_self]
      exact .some live range htook
    · refine .nothing ?_ hsame
      show q.1.1.bmod (2 ^ 32) ≤ 0
      rcases hnone with hnone | hnone
      · rw [hnone]
        exact hneg
      · rw [hnone]
        decide

/-- **`OnCanRead` sends what it receives.** -/
theorem Balanced.announceCanRead [LawfulRecv K] [LawfulSend K]
    {x : ServerSocket (HostNetwork (Tapped K)) EchoListener} (h : Balanced x.net.kernel) :
    Balanced x.announceCanRead.net.kernel := by
  rw [net_announceCanRead]
  generalize hr : readsFirst x.sockNum x.net = r
  cases hr ▸ readsFirst_host x.sockNum x.net with
  | nothing none same =>
    rw [if_neg (not_lt.2 none)]
    exact h.same same
  | @some q live range took =>
    have hpos : (0 : ℤ) < q.1.2.length := by
      have := List.length_pos_iff.2 took.some
      omega
    have hbytes : bytesRead ((q.1.2.length : ℤ), q.1.2) = q.1.2 := by
      rw [bytesRead, Int.toNat_natCast, List.take_length]
    have hfits : q.1.2.length ≤ 255 := took.fits.trans (by decide)
    let w : HostNetwork (Tapped K) := { x.net with kernel := q.2.2 }
    let after : HostNetwork (Tapped K) :=
      (WriteBufferedConnection.writeAndDestroy (ethernetClient x.sockNum) q.1.2
        (newConn (W := HostNetwork (Tapped K)) x.sockNum) w).2
    let fd := (x.net.sockets x.sockNum).connectionSocketFd
    obtain ⟨htalks, hgood⟩ : Talks x.sockNum w after ∧ (after.kernel.refused = false →
        w.kernel.refused = false ∧ after.kernel.sent fd = w.kernel.sent fd ++ q.1.2) :=
      (watched_client range w took.isOpen).writeAndDestroy_takes
        (WriteBufferedConnection.wellFormed_new (W := HostNetwork (Tapped K)) x.sockNum) rfl rfl
        took.some hfits (Talks.refl live)
    rw [if_pos hpos, hbytes]
    show Balanced after.kernel
    intro hrefused
    obtain ⟨hrefused', hsent⟩ := hgood hrefused
    have hbefore : x.net.kernel.sent = x.net.kernel.received :=
      h (took.refused.symm.trans hrefused')
    have hreceived : after.kernel.received =
        Function.update x.net.kernel.received fd (x.net.kernel.received fd ++ q.1.2) :=
      htalks.received.trans took.received
    funext other
    rw [hreceived]
    by_cases hother : other = fd
    · rw [hother, hsent, Function.update_self, ← hbefore]
      exact congrArg (· fd ++ q.1.2) took.sent
    · rw [htalks.others other hother, Function.update_of_ne hother, ← hbefore]
      exact congrArg (· other) took.sent

/-- What happens outside of the process: only the kernel changes, and nothing is recorded. -/
def KernelActs (w w' : HostNetwork (Tapped K)) : Prop :=
  ∃ k, w' = { w with kernel := { w.kernel with kernel := k } }

/-- **A pass of `loop` keeps the balance.** -/
theorem Balanced.pass [LawfulRecv K] [LawfulSend K]
    {x : ServerSocket (HostNetwork (Tapped K)) EchoListener} (h : Balanced x.net.kernel) :
    Balanced (loop x).net.kernel := by
  let y := if x.hasSocket then x else x.pickClosedSocket.2
  have hy : Balanced y.net.kernel := by
    refine iteInduction (motive := fun y : ServerSocket (HostNetwork (Tapped K)) EchoListener =>
      Balanced y.net.kernel) (fun _ => h) fun _ => ?_
    exact h.same (ServerSocket.control_pickClosedSocket control_sameTraffic x)
  show Balanced y.performIo.net.kernel
  cases y.performIo_poll.control control_sameTraffic with
  | quiet moved => exact hy.same moved
  | connected _ moved announced =>
    rw [announced, net_announceConnected]
    exact hy.same moved
  | canRead _ moved announced =>
    rw [announced]
    exact (hy.same moved).announceCanRead

/-- The host when the process starts. -/
def hostStart (k : K) (portMap : List (UInt16 × UInt16)) : HostNetwork (Tapped K) :=
  { kernel := { kernel := k }, tcpServerPortMap := portMap }

/-- **The sketch echoes on the host.**  With any kernel, any peers and any port map, after
any number of passes: as long as no `send` has failed or taken nothing, the bytes sent on
each file descriptor are exactly the bytes received from it. -/
theorem echoes_host [LawfulRecv K] [LawfulSend K] {k : K} {portMap : List (UInt16 × UInt16)}
    {n : ℕ} {x : ServerSocket (HostNetwork (Tapped K)) EchoListener}
    (h : Runs KernelActs (fun _ => True) (echoSocket (hostStart k portMap)) n x)
    (hrefused : x.net.kernel.refused = false) (fd : ℤ) :
    x.net.kernel.sent fd = x.net.kernel.received fd := by
  have hx : Balanced x.net.kernel := by
    clear hrefused
    induction h with
    | start => exact fun _ => rfl
    | outside _ moves ih =>
      obtain ⟨k, rfl⟩ := moves
      exact ih.same (sameTraffic_put _ k)
    | pass _ _ ih => exact ih.pass
  rw [hx hrefused]

instance : LawfulSend LocalKernel where
  le_send _ _ len _ := show (-1 : ℤ) ≤ len by omega
  send_le _ _ _ _ := le_rfl

/-- A peer that has connected before the first pass, sent three bytes and shut down. -/
def greeting : LocalKernel := { waiting := [{ unread := [72, 105, 33], shutdown := true }] }

/-- Three bytes are sent back in the first pass. -/
theorem echoes_host_greeting :
    let x := loop (echoSocket (hostStart greeting []))
    x.net.kernel.sent 4 = x.net.kernel.received 4 ∧ x.net.kernel.received 4 = [72, 105, 33] := by
  intro x
  have hrun : Runs KernelActs (fun _ => True) (echoSocket (hostStart greeting [])) 1 x :=
    .pass .start trivial
  exact ⟨echoes_host hrun (by decide +kernel) 4, by decide +kernel⟩

end NetEcho
end McuNet
