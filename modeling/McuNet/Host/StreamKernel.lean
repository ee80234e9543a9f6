/-
# A kernel whose connections are streams

What `RecvInternal` and `IsConnectionHalfClosed` rely on of `recv(2)` with
`MSG_DONTWAIT`, and of `accept(2)`.

The kernel has an `Incoming` for each file descriptor of a connection.  `recv`
returns what is waiting, as much as it was asked for, and takes it out unless it
peeks; nothing at the end of the stream; that it would block when the peer may still
send; and an error when the connection is broken (`Receives`).  So it returns nothing
also when bytes are waiting and it was asked for none.  A connection is broken here from
the first `recv` on that reports it; a peer may have reset it before, while there were
bytes to be returned.  What peers do happens between the calls, and during those that are
not a `recv` of the same connection.

`recvInternal_stream` and `isConnectionHalfClosed_stream` are the members and the
stream together after a call.
-/

import McuNet.Core.Incoming
import McuNet.Host.SocketOps

namespace McuNet

/-- **What `recv` returns** and leaves of the stream. -/
inductive Receives (len : ℕ) (peek : Bool) (i : Incoming UInt8) :
    Received → Incoming UInt8 → Prop where
  | bytes (live : i.broken = false) (waiting : i.unread ≠ []) :
      Receives len peek i (.bytes (i.unread.take len)) (if peek then i else i.take len)
  | ended (live : i.broken = false) (h : i.AtEnd) : Receives len peek i (.bytes []) i
  | nothing {e} (live : i.broken = false) (empty : i.unread = []) (more : i.shutdown = false)
      (later : e = .again ∨ e = .wouldBlock) : Receives len peek i (.error e) i
  | lost {e} (broken : i.broken = true)
      (error : e = .connReset ∨ e = .connAborted ∨ e = .notConn) : Receives len peek i (.error e) i

/-- A kernel with streams.  `(incoming k fd).broken` says that `recv` on `fd` reports an
error from now on, not that the peer has sent a reset. -/
class StreamKernel (K : Type*) [Posix K] where
  incoming : K → ℤ → Incoming UInt8
  recv : ∀ fd len peek k, Receives len peek (incoming k fd) (Posix.recv fd len peek k).1
    (incoming (Posix.recv fd len peek k).2 fd)
  accept : ∀ fd k, 0 ≤ (Posix.accept fd k).1 → (Posix.accept fd k).1 ≠ fd ∧
    (incoming (Posix.accept fd k).2 (Posix.accept fd k).1).taken = []
  send : ∀ fd buf len k, (incoming k fd).Arrives (incoming (Posix.send fd buf len k).2 fd)
  shutdownWr : ∀ fd k, (incoming k fd).Arrives (incoming (Posix.shutdownWr fd k).2 fd)
  close : ∀ fd other k, other ≠ fd →
    (incoming k other).Arrives (incoming (Posix.close fd k) other)

/-- What peers do between two calls. -/
def PeersSend {K : Type*} [Posix K] [StreamKernel K] (k k' : K) : Prop :=
  ∀ fd, (StreamKernel.incoming k fd).Arrives (StreamKernel.incoming k' fd)

namespace HostSocketInfo

variable {K : Type*} [Posix K] [StreamKernel K]

/-- What arrives at the connection of a socket. -/
def stream (x : HostSocketInfo × K) : Incoming UInt8 :=
  StreamKernel.incoming x.2 x.1.connectionSocketFd

/-- **What `RecvInternal` does to a socket and its stream.** -/
inductive RecvStream (len : ℕ) (peek : Bool) (x : HostSocketInfo × K) :
    (ℤ × List UInt8) × HostSocketInfo × K → Prop where
  | skipped (h : ¬x.1.Readable) : RecvStream len peek x ((-1, []), x)
  | bytes {k} (h : x.1.Readable) (live : (stream x).broken = false)
      (waiting : (stream x).unread ≠ []) (asked : 0 < len)
      (after : stream (x.1, k) = if peek then stream x else (stream x).take len) :
      RecvStream len peek x
        ((((stream x).unread.take len).length, (stream x).unread.take len), x.1, k)
  | zero {k} (h : x.1.Readable) (live : (stream x).broken = false)
      (waiting : (stream x).unread ≠ []) (asked : len = 0) (after : stream (x.1, k) = stream x) :
      RecvStream len peek x ((0, []), { x.1 with canReadFromConnection := false }, k)
  | ended {k} (h : x.1.Readable) (live : (stream x).broken = false) (atEnd : (stream x).AtEnd)
      (after : stream (x.1, k) = stream x) :
      RecvStream len peek x ((0, []), { x.1 with canReadFromConnection := false }, k)
  | nothing {k} (h : x.1.Readable) (live : (stream x).broken = false)
      (empty : (stream x).unread = []) (more : (stream x).shutdown = false)
      (after : stream (x.1, k) = stream x) : RecvStream len peek x ((-1, []), x.1, k)
  | lost {k} (h : x.1.Readable) (broken : (stream x).broken = true) :
      RecvStream len peek x ((-1, []), x.1.closeConnectionSocket k)

/-- **It always returns.** -/
theorem recvInternal_stream (len : ℕ) (peek : Bool) (x : HostSocketInfo × K) :
    ∃ r, x.1.recvInternal len peek x.2 = some r ∧ RecvStream len peek x r := by
  by_cases h : x.1.Readable
  · rw [recvInternal, if_pos h.1, if_pos h.2]
    have hlaw : Receives len peek (stream x) _ _ :=
      StreamKernel.recv x.1.connectionSocketFd len peek x.2
    generalize Posix.recv x.1.connectionSocketFd len peek x.2 = received at hlaw
    obtain ⟨answer, k⟩ := received
    generalize hafter : StreamKernel.incoming k x.1.connectionSocketFd = after at hlaw
    cases hlaw with
    | bytes live waiting =>
      rcases Nat.eq_zero_or_pos len with rfl | hpos
      · have hsame : stream (x.1, k) = stream x := by
          refine hafter.trans ?_
          rw [Incoming.take_zero, ite_self]
        exact ⟨_, rfl, .zero h live waiting rfl hsame⟩
      · have hne : (stream x).unread.take len ≠ [] :=
          fun hnil => (List.take_eq_nil_iff.1 hnil).elim hpos.ne' waiting
        have hbytes := RecvStream.bytes h live waiting hpos hafter
        obtain ⟨b, bs, htake⟩ := List.exists_cons_of_ne_nil hne
        rw [htake] at hbytes ⊢
        exact ⟨_, rfl, hbytes⟩
    | ended live atEnd => exact ⟨_, rfl, .ended h live atEnd hafter⟩
    | nothing live empty more later =>
      rcases later with rfl | rfl
      · exact ⟨_, rfl, .nothing h live empty more hafter⟩
      · exact ⟨_, rfl, .nothing h live empty more hafter⟩
    | lost broken error =>
      rcases error with rfl | rfl | rfl
      · exact ⟨_, rfl, .lost h broken⟩
      · exact ⟨_, rfl, .lost h broken⟩
      · exact ⟨_, rfl, .lost h broken⟩
  · refine ⟨_, ?_, .skipped h⟩
    rw [recvInternal]
    by_cases hc : haveFd x.1.connectionSocketFd = true
    · rw [if_pos hc, if_neg fun hread => h ⟨hc, hread⟩]
    · rw [if_neg hc]

/-- What it did, when it has returned `r`. -/
theorem recvStream {len : ℕ} {peek : Bool} {x : HostSocketInfo × K}
    {r : (ℤ × List UInt8) × HostSocketInfo × K}
    (h : x.1.recvInternal len peek x.2 = some r) : RecvStream len peek x r := by
  obtain ⟨q, hq, hcase⟩ := recvInternal_stream len peek x
  exact Option.some.inj (hq.symm.trans h) ▸ hcase

/-- **What `IsConnectionHalfClosed` does**: a `CHECK` fails when it is not one byte or
the end of the stream that it finds. -/
inductive ProbeStream (x : HostSocketInfo × K) : Option (Bool × HostSocketInfo × K) → Prop where
  | notOpen (h : haveFd x.1.connectionSocketFd = false) : ProbeStream x (some (false, x))
  | known (h : haveFd x.1.connectionSocketFd = true)
      (known : x.1.canReadFromConnection = false) : ProbeStream x (some (true, x))
  | byte {k} (h : x.1.Readable) (live : (stream x).broken = false)
      (waiting : (stream x).unread ≠ []) (after : stream (x.1, k) = stream x) :
      ProbeStream x (some (false, x.1, k))
  | ended {k} (h : x.1.Readable) (live : (stream x).broken = false) (atEnd : (stream x).AtEnd)
      (after : stream (x.1, k) = stream x) :
      ProbeStream x (some (true, { x.1 with canReadFromConnection := false }, k))
  | nothing (h : x.1.Readable) (live : (stream x).broken = false)
      (empty : (stream x).unread = []) (more : (stream x).shutdown = false) : ProbeStream x none
  | lost (h : x.1.Readable) (broken : (stream x).broken = true) : ProbeStream x none

theorem isConnectionHalfClosed_stream (x : HostSocketInfo × K) :
    ProbeStream x (x.1.isConnectionHalfClosed x.2) := by
  rw [isConnectionHalfClosed]
  cases hc : haveFd x.1.connectionSocketFd with
  | false => exact .notOpen hc
  | true =>
    rw [if_pos rfl]
    cases hread : x.1.canReadFromConnection with
    | false => exact .known hc hread
    | true =>
      rw [if_pos rfl]
      have h : x.1.Readable := ⟨hc, hread⟩
      have hlaw : Receives 1 true (stream x) _ _ :=
        StreamKernel.recv x.1.connectionSocketFd 1 true x.2
      generalize Posix.recv x.1.connectionSocketFd 1 true x.2 = received at hlaw
      obtain ⟨answer, k⟩ := received
      generalize hafter : StreamKernel.incoming k x.1.connectionSocketFd = after at hlaw
      cases hlaw with
      | bytes live waiting =>
        have hbyte := ProbeStream.byte h live waiting hafter
        obtain ⟨b, bs, hb⟩ := List.exists_cons_of_ne_nil waiting
        rw [hb, List.take_succ_cons, List.take_zero]
        exact hbyte
      | ended live atEnd => exact .ended h live atEnd hafter
      | nothing live empty more later => exact .nothing h live empty more
      | lost broken error => exact .lost h broken

theorem probeStream {x : HostSocketInfo × K} {r : Bool × HostSocketInfo × K}
    (h : x.1.isConnectionHalfClosed x.2 = some r) : ProbeStream x (some r) :=
  h ▸ isConnectionHalfClosed_stream x

/-- A byte is waiting that could be read. -/
def Waits (x : HostSocketInfo × K) : Prop :=
  x.1.Readable ∧ (stream x).broken = false ∧ (stream x).unread ≠ []

/-- **What `AvailableBytes` does**: it counts what waits, and says otherwise whether the
connection is of use, which it is as long as it can be written to. -/
inductive AvailableStream (x : HostSocketInfo × K) : ℤ × HostSocketInfo × K → Prop where
  | some {k} (waits : Waits x) (after : stream (x.1, k) = stream x) :
      AvailableStream x (((stream x).unread.take 1000).length, x.1, k)
  | none {n s k} (none : ¬Waits x) (same : s.connectionSocketFd = x.1.connectionSocketFd)
      (value : n ≤ 0) (zero : x.1.canWriteToConnection = true → n = 0) :
      AvailableStream x (n, s, k)
  | lost {k} (h : x.1.Readable) (broken : (stream x).broken = true) :
      AvailableStream x (-1, x.1.closeConnectionSocket k)

theorem availableBytes_stream (x : HostSocketInfo × K) :
    ∃ r, x.1.availableBytes x.2 = some r ∧ AvailableStream x r := by
  obtain ⟨q, hq, hcase⟩ := recvInternal_stream 1000 true x
  unfold availableBytes
  rw [hq]
  refine ⟨_, rfl, ?_⟩
  have hnone : ∀ a b : Bool, (if (0 : ℤ) ≤ -1 then -1 else if (a || b) = true then 0 else -1) ≤ 0 ∧
      (b = true → (if (0 : ℤ) ≤ -1 then -1 else if (a || b) = true then 0 else -1) = 0) := by
    decide
  cases hcase with
  | skipped hno =>
    have hvalue := hnone x.1.canReadFromConnection x.1.canWriteToConnection
    exact .none (fun hwaits => hno hwaits.1) rfl hvalue.1 hvalue.2
  | bytes h live waiting _ after =>
    have hpos : (0 : ℤ) ≤ ((stream x).unread.take 1000).length := by omega
    simp only [if_pos hpos]
    exact .some ⟨h, live, waiting⟩ after
  | zero _ _ _ asked _ => exact absurd asked (by decide)
  | ended _ _ atEnd _ =>
    exact .none (fun hwaits => hwaits.2.2 atEnd.1) rfl le_rfl fun _ => rfl
  | nothing _ _ empty _ _ =>
    have hvalue := hnone x.1.canReadFromConnection x.1.canWriteToConnection
    exact .none (fun hwaits => hwaits.2.2 empty) rfl hvalue.1 hvalue.2
  | lost h broken => exact .lost h broken

end HostSocketInfo
end McuNet
