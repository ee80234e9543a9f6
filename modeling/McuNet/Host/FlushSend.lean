/-
# Flushing a write buffer on the host

`WriteBufferedConnection::FlushInternal` over `EthernetClient::write`,
`HostNetwork::Send` and `HostSocketInfo::Send`.

`Send` returns `-1` when the connection is gone or the kernel's `send` fails, and
`EthernetClient::write` returns that as a `size_t`.  The flush loop takes it for
2^64 - 1 bytes: it moves `buf` to before the buffer and offers one byte more than
it did.  `flushSafe_iff` says that this is the only way in which a flush goes wrong.
-/

import McuNet.Host.ScriptedKernel
import McuNet.Connection.Stream

namespace McuNet

/-- The results that are documented for `send`: an error, or how many of the
bytes were taken. -/
class LawfulSend (K : Type*) [Posix K] : Prop where
  le_send : ∀ (fd : ℤ) (p : Ptr) (len : ℕ) (k : K), -1 ≤ (Posix.send fd p len k).1
  send_le : ∀ (fd : ℤ) (p : Ptr) (len : ℕ) (k : K), (Posix.send fd p len k).1 ≤ len

instance : LawfulSend ScriptedKernel where
  le_send _ _ _ _ := le_max_left _ _
  send_le _ _ len _ := max_le (by omega) (min_le_right _ _)

namespace HostSocketInfo

variable {K : Type*} [Posix K] {s : HostSocketInfo}

/-- `Send` fails for what is left of a block: at once, or for the rest after it
has taken some of the bytes. -/
inductive SendFails (s : HostSocketInfo) (block : List UInt8) : ℕ → ℕ → K → Prop
  | now {buf size : ℕ} {k : K} (h : (s.send ⟨block, buf⟩ size k).1 = -1) :
      SendFails s block buf size k
  | later {buf size wrote : ℕ} {k : K} (h : (s.send ⟨block, buf⟩ size k).1 = wrote)
      (h0 : 0 < wrote) (hlt : wrote < size)
      (rest : SendFails s block (buf + wrote) (size - wrote) (s.send ⟨block, buf⟩ size k).2) :
      SendFails s block buf size k

/-- `Send` without a connection. -/
theorem send_lost (h : haveFd s.connectionSocketFd = false) (p : Ptr) (len : ℕ) (k : K) :
    s.send p len k = (-1, k) := by
  rw [send, h]
  rfl

/-- `Send` fails or takes at most what it is given. -/
theorem send_cases [LawfulSend K] (s : HostSocketInfo) (p : Ptr) (len : ℕ) (k : K) :
    (s.send p len k).1 = -1 ∨ ∃ wrote : ℕ, (s.send p len k).1 = wrote ∧ wrote ≤ len := by
  rw [send]
  split_ifs with hfd
  · have hge := LawfulSend.le_send s.connectionSocketFd p len k
    have hle := LawfulSend.send_le s.connectionSocketFd p len k
    obtain hneg | ⟨wrote, hwrote⟩ : (Posix.send s.connectionSocketFd p len k).1 = -1 ∨
        ∃ wrote : ℕ, (Posix.send s.connectionSocketFd p len k).1 = wrote := by
      rcases hge.eq_or_lt with h | h
      · exact .inl h.symm
      · exact .inr (Int.eq_ofNat_of_zero_le (by omega))
    · exact .inl hneg
    · exact .inr ⟨wrote, hwrote, by omega⟩
  · exact .inl rfl

end HostSocketInfo

namespace HostNetwork

open WriteBufferedConnection HostSocketInfo

variable {K : Type*} [Posix K] {n : UInt8} {w : HostNetwork K}

theorem send_eq (hn : n < kMaxSockets) (hw : w.aborted = false) (p : Ptr) (len : ℕ) :
    send n p len w = (((w.sockets n).send p len w.kernel).1,
      { w with kernel := ((w.sockets n).send p len w.kernel).2 }) := by
  have hle : ¬ kMaxSockets < n := fun h => UInt8.lt_irrefl _ (UInt8.lt_trans h hn)
  have hne : n ≠ kMaxSockets := fun h => UInt8.lt_irrefl _ (h ▸ hn)
  simp [send, onSocket, hw, hle, hne]

variable [McuCore K]

/-- The client's `write` of at most as many bytes as a write buffer has. -/
theorem ethernetClient_write (hn : n < kMaxSockets) (hw : w.aborted = false) (p : Ptr)
    {size : ℕ} (hs : size ≤ 2048) :
    (ethernetClient n).write p size w = (sizeT ((w.sockets n).send p size w.kernel).1,
      { w with kernel := ((w.sockets n).send p size w.kernel).2 }) := by
  simp only [ethernetClient, if_neg (not_lt.2 hs), send_eq hn hw]

/-- A recorded `write` for which `Send` takes some of the bytes. -/
theorem recording_write (hn : n < kMaxSockets) (hw : w.aborted = false) {p : Ptr} {size wrote : ℕ}
    (hs : size ≤ 2048) (hwrote : ((w.sockets n).send p size w.kernel).1 = wrote)
    (hle : wrote ≤ size) (calls : List WriteCall) :
    (ethernetClient n).recording.write p size ⟨w, calls⟩ =
      (wrote, ⟨{ w with kernel := ((w.sockets n).send p size w.kernel).2 },
        calls ++ [⟨p, size, wrote⟩]⟩) := by
  simp only [Client.recording, ethernetClient_write hn hw p hs, hwrote,
    sizeT_natCast (show wrote < 2 ^ 64 by omega)]

/-- `FlushInternal` with a number of passes to make; `flushInternal` makes as many
as there are bytes. -/
def flushPasses {κ : Type*} (client : Client κ) (passes : ℕ) (conn : WriteBufferedConnection)
    (k : κ) : Option Bool × WriteBufferedConnection × κ :=
  if conn.writeError ≠ 0 then (some false, conn, k)
  else flushLoop client passes conn 0 conn.writeBufferSize k

example {κ : Type*} (client : Client κ) (conn : WriteBufferedConnection) (k : κ) :
    flushInternal client conn k = flushPasses client conn.writeBufferSize conn k := rfl

/-- A flush of so many passes has ended; all that the client was given lies inside
the occupied part of the buffer, and it reported no more bytes than it was given;
and when a `Send` failed the flush has failed with an error. -/
structure EndsSafely (n : UInt8) (conn : WriteBufferedConnection) (w : HostNetwork K)
    (r : Option Bool × WriteBufferedConnection × Recorded (HostNetwork K)) : Prop where
  ends : r.1.isSome = true
  inside : ∀ c ∈ r.2.2.calls, c.buf.block = conn.occupied ∧ c.Inside
  wrote_le : ∀ c ∈ r.2.2.calls, c.wrote ≤ c.size
  failed : SendFails (w.sockets n) conn.occupied 0 conn.writeBufferSize w.kernel →
    r.1 = some false ∧ r.2.1.writeError ≠ 0

/-- A flush to the client of a hardware socket ends safely. -/
def FlushSafe (n : UInt8) (conn : WriteBufferedConnection) (w : HostNetwork K) : Prop :=
  ∃ passes, EndsSafely n conn w (flushPasses (ethernetClient n).recording passes conn ⟨w, []⟩)

section Loop

variable {conn : WriteBufferedConnection} (hn : n < kMaxSockets) (hw : w.aborted = false)
  (hlen : conn.occupied.length < 2 ^ 8)

include hn hw hlen

/-- **The flush loop while no `Send` fails.**  Each pass hands over bytes of the
occupied part and goes on behind them, so the loop ends. -/
theorem flushLoop_sends [LawfulSend K] (passes : ℕ) :
    ∀ (buf size : ℕ) (k : K) (calls : List WriteCall), 0 < size → size ≤ passes →
      buf + size = conn.occupied.length →
      ¬ SendFails (w.sockets n) conn.occupied buf size k →
        let r := flushLoop (ethernetClient n).recording passes conn buf size
          ⟨{ w with kernel := k }, calls⟩
        r.1.isSome = true ∧ ∀ c ∈ r.2.2.calls, c ∈ calls ∨
          (c.buf.block = conn.occupied ∧ c.Inside) ∧ c.wrote ≤ c.size := by
  induction passes with
  | zero => intro buf size k calls h0 h; omega
  | succ passes ih =>
    intro buf size k calls h0 hpasses hsize hfail
    obtain herr | ⟨wrote, hwrote, hle⟩ :=
      send_cases (w.sockets n) ⟨conn.occupied, buf⟩ size k
    · exact absurd (.now herr) hfail
    have hcall := recording_write (w := { w with kernel := k }) hn hw (by omega) hwrote hle calls
    have hfst := congrArg Prod.fst hcall
    have hnew : ∀ c ∈ calls ++ [(⟨⟨conn.occupied, buf⟩, size, wrote⟩ : WriteCall)], c ∈ calls ∨
        (c.buf.block = conn.occupied ∧ c.Inside) ∧ c.wrote ≤ c.size := by
      intro c hc
      rcases List.mem_append.1 hc with hc | hc
      · exact .inl hc
      · obtain rfl := List.mem_singleton.1 hc
        exact .inr ⟨⟨rfl, h0, hsize.le⟩, hle⟩
    rcases hle.eq_or_lt with hall | hlt
    · rw [flushLoop_all passes (hfst.trans hall), hcall]
      exact ⟨rfl, hnew⟩
    rcases Nat.eq_zero_or_pos wrote with hnone | hpos
    · obtain ⟨e, -, he⟩ := flushLoop_none passes (hfst.trans hnone) h0
      rw [he, hcall]
      exact ⟨rfl, hnew⟩
    · rw [flushLoop_some passes (hpos.trans_eq hfst.symm) (hfst.trans_lt hlt) (by omega), hcall]
      obtain ⟨hends, hcalls⟩ := ih (buf + wrote) (size - wrote) _ _ (Nat.sub_pos_of_lt hlt)
        (by omega) (by omega) fun hrest => hfail (.later hwrote hpos hlt hrest)
      refine ⟨hends, fun c hc => ?_⟩
      rcases hcalls c hc with hc | hc
      · exact hnew c hc
      · exact .inr hc

/-- **The flush loop when a `Send` fails**: the client reports more bytes than it
was given. -/
theorem flushLoop_sendFails {buf size : ℕ} {k : K}
    (hfail : SendFails (w.sockets n) conn.occupied buf size k) :
    ∀ (passes : ℕ) (calls : List WriteCall), buf + size = conn.occupied.length →
      let r := flushLoop (ethernetClient n).recording passes conn buf size
        ⟨{ w with kernel := k }, calls⟩
      r.1.isSome = true → ∃ c ∈ r.2.2.calls, c.size < c.wrote := by
  induction hfail with
  | @now buf size k herr =>
    intro passes calls hsize r hends
    cases passes with
    | zero => exact absurd hends Bool.false_ne_true
    | succ passes =>
      refine ⟨_, mem_calls_flushLoop conn passes buf size _, ?_⟩
      rw [ethernetClient_write (w := { w with kernel := k }) hn hw _ (by omega)]
      change size < sizeT ((w.sockets n).send ⟨conn.occupied, buf⟩ size k).1
      rw [herr, show sizeT (-1) = 2 ^ 64 - 1 from rfl]
      omega
  | @later buf size wrote k hwrote h0 hlt hrest ih =>
    intro passes calls hsize r hends
    cases passes with
    | zero => exact absurd hends Bool.false_ne_true
    | succ passes =>
      have hcall := recording_write (w := { w with kernel := k }) hn hw (by omega) hwrote hlt.le
        calls
      have hfst := congrArg Prod.fst hcall
      have hstep := flushLoop_some passes (h0.trans_eq hfst.symm) (hfst.trans_lt hlt) (by omega)
      rw [hcall] at hstep
      have hr : r = _ := hstep
      rw [hr] at hends ⊢
      exact ih passes _ (by omega) hends

end Loop

/-- While the connection is lost every pass of the flush loop takes the failure
for 2^64 - 1 bytes written. -/
theorem flushLoop_lost (hn : n < kMaxSockets) (hw : w.aborted = false)
    (hlost : haveFd (w.sockets n).connectionSocketFd = false) (conn : WriteBufferedConnection)
    (passes : ℕ) : ∀ buf size : ℕ, size + passes < 2 ^ 64 →
      flushLoop (ethernetClient n) passes conn buf size w = (none, conn, w) := by
  induction passes with
  | zero => intro buf size _; rfl
  | succ passes ih =>
    intro buf size hlt
    have hwrite : (ethernetClient n).write ⟨conn.occupied, buf⟩ size w = (2 ^ 64 - 1, w) := by
      simp only [ethernetClient, send_eq hn hw, send_lost hlost]
      rfl
    have hsize : sizeT ((size : ℤ) - (2 ^ 64 - 1 : ℕ)) = size + 1 := by
      unfold sizeT
      omega
    simp only [flushLoop, hwrite, hsize]
    rw [if_neg (by omega), if_pos (by omega)]
    exact ih _ _ (by omega)

/-- **When flushing is safe.**  A flush ends, keeps inside of the buffer and
reports a failure if and only if no `Send` fails in it; once an error is recorded
it makes none. -/
theorem flushSafe_iff [LawfulSend K] {conn : WriteBufferedConnection} (hn : n < kMaxSockets)
    (hw : w.aborted = false) (h : conn.WellFormed) (h0 : 0 < conn.writeBufferSize) :
    FlushSafe n conn w ↔ conn.writeError ≠ 0 ∨
      ¬ SendFails (w.sockets n) conn.occupied 0 conn.writeBufferSize w.kernel := by
  have hocc : 0 + conn.writeBufferSize = conn.occupied.length := by
    rw [h.length_occupied, Nat.zero_add]
  have hlen : conn.occupied.length < 2 ^ 8 :=
    h.length_occupied ▸ lt_of_le_of_lt h.size_le h.limit_lt
  constructor
  · rintro ⟨passes, hsafe⟩
    by_contra hnot
    obtain ⟨herr, hfail⟩ := not_or.1 hnot
    have heq := hsafe
    rw [flushPasses, if_neg herr] at heq
    obtain ⟨c, hc, hlt⟩ := flushLoop_sendFails hn hw hlen (not_not.1 hfail) passes [] hocc heq.ends
    exact (heq.wrote_le c hc).not_gt hlt
  · intro hsafe
    by_cases herr : conn.writeError = 0
    · have hfail := hsafe.resolve_left (not_not.2 herr)
      obtain ⟨hends, hcalls⟩ := flushLoop_sends hn hw hlen conn.writeBufferSize 0 _ w.kernel [] h0
        le_rfl hocc hfail
      refine ⟨conn.writeBufferSize, ?_⟩
      rw [flushPasses, if_neg (not_not.2 herr)]
      exact ⟨hends, fun c hc => ((hcalls c hc).resolve_left List.not_mem_nil).1,
        fun c hc => ((hcalls c hc).resolve_left List.not_mem_nil).2, fun hs => absurd hs hfail⟩
    · refine ⟨0, ?_⟩
      rw [flushPasses, if_pos herr]
      exact ⟨rfl, fun c hc => absurd hc List.not_mem_nil, fun c hc => absurd hc List.not_mem_nil,
        fun _ => ⟨rfl, herr⟩⟩

/-- **A flush after the connection is lost goes on** for 2^64 passes, each offering
one more byte from one position further before the buffer. -/
theorem flushPasses_lost {conn : WriteBufferedConnection} (hn : n < kMaxSockets)
    (hw : w.aborted = false) (hlost : haveFd (w.sockets n).connectionSocketFd = false)
    (herr : conn.writeError = 0) (passes : ℕ) (hpasses : conn.writeBufferSize + passes < 2 ^ 64) :
    flushPasses (ethernetClient n) passes conn w = (none, conn, w) := by
  rw [flushPasses, if_neg (not_not.2 herr)]
  exact flushLoop_lost hn hw hlost conn passes 0 _ hpasses

/-! ### Two flushes of a connection on socket 0 -/

/-- Three bytes that are waiting to be written. -/
def threeBytes : WriteBufferedConnection :=
  { writeBuffer := [65, 66, 67, 0], writeBufferLimit := 4, writeBufferSize := 3 }

/-- The hardware socket 0 has a connection, and the kernel the given answers for
what is sent on it. -/
def sending (sends : List ℤ) : HostNetwork ScriptedKernel where
  kernel := { sends := sends }
  sockets := Function.update (fun _ => {}) 0
    { connectionSocketFd := 5, canWriteToConnection := true, canReadFromConnection := true,
      accepted := 1 }

theorem wellFormed_threeBytes : threeBytes.WellFormed := by
  constructor <;> decide

/-- The kernel takes two bytes and then the third. -/
theorem flushSafe_iff_twice : FlushSafe 0 threeBytes (sending [2, 1]) := by
  refine (flushSafe_iff (by decide) rfl wellFormed_threeBytes (by decide)).2 (.inr ?_)
  rintro (hnow | ⟨hsent, -, -, hrest⟩)
  · exact absurd hnow (by decide)
  · obtain rfl := Int.ofNat_inj.1 (hsent.symm.trans (show _ = ((2 : ℕ) : ℤ) by decide))
    rcases hrest with hnow | ⟨hsent, -, hlt, -⟩
    · exact absurd hnow (by decide)
    · obtain rfl := Int.ofNat_inj.1 (hsent.symm.trans (show _ = ((1 : ℕ) : ℤ) by decide))
      exact absurd hlt (by decide)

/-- **A flush that is not safe.**  The connection is open, and the kernel's `send`
fails.  Without a connection the flush goes on for nearly 2^64 passes. -/
theorem flushSafe_counterexample :
    (¬ ∀ (conn : WriteBufferedConnection) (w : HostNetwork ScriptedKernel), conn.WellFormed →
      0 < conn.writeBufferSize → w.aborted = false → FlushSafe 0 conn w) ∧
    ∀ passes < 2 ^ 64 - 3, (flushPasses (ethernetClient 0) passes threeBytes
      ({ kernel := {} } : HostNetwork ScriptedKernel)).1 = none := by
  constructor
  · intro hall
    obtain ⟨passes, hsafe⟩ := hall threeBytes (sending [-1]) wellFormed_threeBytes (by decide) rfl
    have hfail : SendFails ((sending [-1]).sockets 0) threeBytes.occupied 0 3
        (sending [-1]).kernel := .now (by decide)
    obtain ⟨c, hc, hlt⟩ := flushLoop_sendFails (by decide) rfl (by decide) hfail passes []
      (by decide) hsafe.ends
    exact (hsafe.wrote_le c hc).not_gt hlt
  · intro passes hpasses
    have hlt : threeBytes.writeBufferSize + passes < 2 ^ 64 := by
      show 3 + passes < 2 ^ 64
      omega
    rw [flushPasses_lost (by decide) rfl rfl rfl passes hlt]

end HostNetwork
end McuNet
