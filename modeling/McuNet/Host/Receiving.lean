/-
# What a host connection answers to a read

`HostSocketInfo::Recv`, `EthernetClient::read` with a buffer and `Connection::read`,
whose contract (`src/connection.h`) tells the end of the stream, 0, from a connection
on which nothing has arrived yet, -1.

The first call that meets the end of the stream clears `can_read_from_connection_`,
and every later one returns -1 without asking the kernel.  It does not matter which
call that is: a status poll and a count of the available bytes meet it as well.  So
the contract is kept until then (`receivesRight_iff`), and by `Connection::read` as
long as the count fits into its `int`.
-/

import McuNet.Host.EndOfStream
import McuNet.Connection.TcpServer

namespace McuNet

/-- **The contract of `Connection::read`**: the answer when `len` bytes are asked for. -/
structure ReadContract (len : ℕ) (i : Incoming UInt8) (answer : ℤ × List UInt8) : Prop where
  bytes : i.broken = false → i.unread ≠ [] →
    answer = (((i.unread.take len).length : ℤ), i.unread.take len)
  ended : i.broken = false → i.AtEnd → answer = (0, [])
  nothing : answer.1 = -1 → (i.unread = [] ∧ i.shutdown = false) ∨ i.broken = true

namespace ReadContract

variable {len : ℕ} {i : Incoming UInt8}

theorem of_waiting (h : i.unread ≠ []) :
    ReadContract len i (((i.unread.take len).length : ℤ), i.unread.take len) where
  bytes _ _ := rfl
  ended _ hend := absurd hend.1 h
  nothing hminus := by
    dsimp only at hminus
    omega

theorem of_atEnd (h : i.AtEnd) : ReadContract len i (0, []) where
  bytes _ hne := absurd h.1 hne
  ended _ _ := rfl
  nothing hminus := absurd hminus (by decide)

theorem of_nothing (h : (i.unread = [] ∧ i.shutdown = false) ∨ i.broken = true) :
    ReadContract len i (-1, []) where
  bytes live hne := by
    rcases h with ⟨empty, -⟩ | broken
    · exact absurd empty hne
    · exact absurd (live.symm.trans broken) Bool.false_ne_true
  ended live hend := by
    rcases h with ⟨-, more⟩ | broken
    · exact absurd (more.symm.trans hend.2) Bool.false_ne_true
    · exact absurd (live.symm.trans broken) Bool.false_ne_true
  nothing _ := h

/-- A count is an `int` if it is small enough. -/
theorem bmod_count_iff (n : ℕ) : (n : ℤ).bmod (2 ^ 32) = n ↔ n < 2 ^ 31 := by
  constructor
  · intro h
    have hlt : (n : ℤ).bmod (2 ^ 32) < (2 ^ 32 + 1) / 2 := Int.bmod_lt (by decide)
    rw [h] at hlt
    omega
  · intro h
    exact Int.bmod_eq_of_le (by omega) (by omega)

/-- The count of the bytes as an `int`. -/
theorem of_waiting_int (live : i.broken = false) (h : i.unread ≠ []) :
    ReadContract len i (((i.unread.take len).length : ℤ).bmod (2 ^ 32), i.unread.take len) ↔
      min len i.unread.length < 2 ^ 31 := by
  rw [← List.length_take, ← bmod_count_iff]
  constructor
  · intro hright
    exact (Prod.mk.inj (hright.bytes live h)).1
  · intro hcount
    rw [hcount]
    exact of_waiting h

end ReadContract

namespace HostSocketInfo

variable {K : Type*} [Posix K] [StreamKernel K] {x : HostSocketInfo × K}

/-- `Recv` keeps the contract. -/
def ReceivesRight (len : ℕ) (x : HostSocketInfo × K) : Prop :=
  ∃ r, x.1.recv len x.2 = some r ∧ ReadContract len (stream x) r.1

/-- `Connection::read` keeps the contract, in a callback for this connection. -/
def ReadsRight [McuCore K] (len : ℕ) (s : Serving (HostNetwork K)) (x : HostSocketInfo × K) : Prop :=
  let reply := (s.call (.readBuf len)).1
  ReadContract len (stream x) (reply.value, reply.bytes)

/-- A call of `recv` that returns no bytes: at the end of the stream, or because it was
asked for none. -/
def Latches (len : ℕ) (x : HostSocketInfo × K) : Prop :=
  x.1.Readable ∧ (stream x).broken = false ∧
    ((stream x).AtEnd ∨ (len = 0 ∧ (stream x).unread ≠ []))

/-- A connection is taken to be readable. -/
def OpenIsReadable (s : HostSocketInfo) : Prop :=
  haveFd s.connectionSocketFd = true → s.canReadFromConnection = true

theorem openIsReadable_of_notOpen {s : HostSocketInfo}
    (h : haveFd s.connectionSocketFd = false) : s.OpenIsReadable :=
  fun hc => absurd (h.symm.trans hc) Bool.false_ne_true

/-! ### Before the end was met -/

/-- **`Recv` on a connection that is taken to be readable**, and its answer as an
`int`. -/
theorem readContract_of_readable (h : x.1.Readable) {len : ℕ} (hlen : 0 < len) :
    ∃ r, x.1.recv len x.2 = some r ∧ ReadContract len (stream x) r.1 ∧
      (ReadContract len (stream x) (r.1.1.bmod (2 ^ 32), r.1.2) ↔
        ((stream x).broken = false → min len (stream x).unread.length < 2 ^ 31)) := by
  have hminus : (-1 : ℤ).bmod (2 ^ 32) = -1 := by decide
  obtain ⟨r, hr, hcase⟩ := recvInternal_stream len false x
  refine ⟨r, hr, ?_⟩
  cases hcase with
  | skipped hno => exact absurd h hno
  | bytes _ live waiting _ _ =>
    refine ⟨.of_waiting waiting, (ReadContract.of_waiting_int live waiting).trans ?_⟩
    exact ⟨fun hsmall _ => hsmall, fun hsmall => hsmall live⟩
  | zero _ _ _ asked _ => exact absurd asked hlen.ne'
  | ended _ _ atEnd _ =>
    refine ⟨.of_atEnd atEnd, iff_of_true (.of_atEnd atEnd) fun _ => ?_⟩
    rw [atEnd.1, List.length_nil, Nat.min_zero]
    decide
  | nothing _ _ empty more _ =>
    have hanswer : ReadContract len (stream x) (-1, []) := .of_nothing (.inl ⟨empty, more⟩)
    refine ⟨hanswer, iff_of_true (hminus.symm ▸ hanswer) fun _ => ?_⟩
    rw [empty, List.length_nil, Nat.min_zero]
    decide
  | lost _ broken =>
    have hanswer : ReadContract len (stream x) (-1, []) := .of_nothing (.inr broken)
    refine ⟨hanswer, iff_of_true (hminus.symm ▸ hanswer) fun live => ?_⟩
    exact absurd (live.symm.trans broken) Bool.false_ne_true

/-- What a callback reads. -/
theorem readsRight_iff [McuCore K] (h : x.1.Readable) {len : ℕ} (hlen : 0 < len)
    {s : Serving (HostNetwork K)} (hs : s.net.Has s.conn.sockNum x) :
    ReadsRight len s x ↔
      ((stream x).broken = false → min len (stream x).unread.length < 2 ^ 31) := by
  obtain ⟨r, hr, -, hint⟩ := readContract_of_readable h hlen
  have hcall := congrArg Prod.fst (hs.onSocket ((-1 : ℤ), ([] : List UInt8)) hr)
  refine Iff.trans (Eq.to_iff ?_) hint
  change ReadContract len (stream x)
    ((HostNetwork.onSocket (-1, []) s.conn.sockNum (HostSocketInfo.recv len) s.net).1.1.bmod
      (2 ^ 32),
      (HostNetwork.onSocket (-1, []) s.conn.sockNum (HostSocketInfo.recv len) s.net).1.2) = _
  rw [hcall]

/-- What the calls keep that do not meet the end of the stream. -/
theorem kept_openIsReadable : Kept (fun len _ x => ¬Latches len x)
    fun x : HostSocketInfo × K => x.1.OpenIsReadable where
  closeConnectionSocket s k _ := openIsReadable_of_notOpen rfl
  closeListenerSocket s k h := h
  acceptConnection s k h := by
    generalize hr : s.acceptConnection k = r
    cases hr ▸ s.acceptConnection_cases k with
    | noListener _ => exact h
    | nothing _ hno => exact openIsReadable_of_notOpen hno
    | accepted _ _ => exact fun _ => rfl
  disconnectConnectionSocket s k h := by
    unfold disconnectConnectionSocket
    split_ifs
    · exact h
    · exact h
  send buf len s k h := h
  recvInternal len peek s k r h hmay hr := by
    cases @recvStream K _ _ len peek (s, k) r hr with
    | skipped _ => exact h
    | bytes _ _ _ _ _ => exact h
    | zero hread live waiting asked _ =>
      exact absurd ⟨hread, live, .inr ⟨asked, waiting⟩⟩ hmay
    | ended hread live atEnd _ => exact absurd ⟨hread, live, .inl atEnd⟩ hmay
    | nothing _ _ _ _ _ => exact h
    | lost _ _ => exact openIsReadable_of_notOpen rfl
  isConnectionHalfClosed s k r h hmay hr := by
    cases @probeStream K _ _ (s, k) r hr with
    | notOpen _ => exact h
    | known _ _ => exact h
    | byte _ _ _ _ => exact h
    | ended hread live atEnd _ => exact absurd ⟨hread, live, .inl atEnd⟩ hmay

/-! ### After the end was met -/

/-- The connection is not taken to be readable, and is not broken either. -/
structure Latched (x : HostSocketInfo × K) : Prop where
  unreadable : x.1.canReadFromConnection = false
  live : (stream x).broken = false
  answer : (stream x).AtEnd ∨ (stream x).unread ≠ []

/-- **`Recv` keeps the contract no more**, whatever it is asked for. -/
theorem Latched.not_receivesRight (h : Latched x) (len : ℕ) : ¬ReceivesRight len x := by
  rintro ⟨r, hr, hright⟩
  have hskip : ¬x.1.Readable :=
    fun hread => Bool.false_ne_true (h.unreadable.symm.trans hread.2)
  cases recvStream hr with
  | skipped _ =>
    rcases hright.nothing rfl with ⟨empty, more⟩ | broken
    · rcases h.answer with hend | hwaiting
      · exact Bool.false_ne_true (more.symm.trans hend.2)
      · exact hwaiting empty
    · exact Bool.false_ne_true (h.live.symm.trans broken)
  | bytes hread _ _ _ _ => exact hskip hread
  | zero hread _ _ _ _ => exact hskip hread
  | ended hread _ _ _ => exact hskip hread
  | nothing hread _ _ _ _ => exact hskip hread
  | lost hread _ => exact hskip hread

theorem latched_recvInternal {len : ℕ} {peek : Bool} (h : Latches len x)
    {r : (ℤ × List UInt8) × HostSocketInfo × K}
    (hr : x.1.recvInternal len peek x.2 = some r) : Latched r.2 := by
  obtain ⟨hread, live, hmeets⟩ := h
  cases recvStream hr with
  | skipped hno => exact absurd hread hno
  | bytes _ _ waiting asked _ =>
    rcases hmeets with hend | ⟨rfl, -⟩
    · exact absurd hend.1 waiting
    · exact absurd asked (lt_irrefl 0)
  | zero _ _ waiting _ after =>
    exact ⟨rfl, (congrArg Incoming.broken after).trans live,
      .inr fun hnil => waiting ((congrArg Incoming.unread after).symm.trans hnil)⟩
  | ended _ _ atEnd after =>
    exact ⟨rfl, (congrArg Incoming.broken after).trans live, .inl (after.symm ▸ atEnd)⟩
  | nothing _ _ empty more _ =>
    rcases hmeets with hend | ⟨-, waiting⟩
    · exact absurd (more.symm.trans hend.2) Bool.false_ne_true
    · exact absurd empty waiting
  | lost _ broken => exact absurd (live.symm.trans broken) Bool.false_ne_true

theorem latched_isConnectionHalfClosed (h : Latches 1 x) {r : Bool × HostSocketInfo × K}
    (hr : x.1.isConnectionHalfClosed x.2 = some r) : Latched r.2 := by
  obtain ⟨hread, live, hmeets⟩ := h
  have hend : (stream x).AtEnd := hmeets.resolve_right fun hzero => absurd hzero.1 (by decide)
  cases probeStream hr with
  | notOpen hno => exact absurd (hno.symm.trans hread.1) Bool.false_ne_true
  | known _ hno => exact absurd (hno.symm.trans hread.2) Bool.false_ne_true
  | byte _ _ waiting _ => exact absurd hend.1 waiting
  | ended _ _ atEnd after =>
    exact ⟨rfl, (congrArg Incoming.broken after).trans live, .inl (after.symm ▸ atEnd)⟩

/-- **Every operation that meets the end of the stream** leaves the connection so. -/
theorem latched_perform {portMap : List (UInt16 × UInt16)} {op : Op}
    {r : Answer × HostSocketInfo × K} (hr : perform portMap op x = some r)
    (h : ¬Allows (fun len _ x => ¬Latches len x) x op) : Latched r.2 := by
  cases op with
  | socketStatus =>
    have hmeets : Latches 1 (x.1.acceptConnection x.2).2 := not_not.1 h
    obtain ⟨q, hq, rfl⟩ := Option.map_eq_some_iff.1 hr
    rcases socketStatus_cases hq with ⟨hno, -, -⟩ | hconn
    · exact absurd (hno.symm.trans hmeets.1.1) Bool.false_ne_true
    · unfold connectionStatus isConnected at hconn
      rw [if_pos hmeets.1.1] at hconn
      obtain ⟨half, hhalf, rfl⟩ := Option.map_eq_some_iff.1 hconn
      have hlatched := latched_isConnectionHalfClosed hmeets hhalf
      exact hlatched
  | isConnectionHalfClosed =>
    obtain ⟨q, hq, rfl⟩ := Option.map_eq_some_iff.1 hr
    have hlatched := latched_isConnectionHalfClosed (not_not.1 h) hq
    exact hlatched
  | canReadFromConnection =>
    have hmeets : Latches 1 x := not_not.1 h
    obtain ⟨q, hq, rfl⟩ := Option.map_eq_some_iff.1 hr
    unfold canReadFromConnection' at hq
    rw [if_pos hmeets.1.1, if_pos hmeets.1.2] at hq
    obtain ⟨p, hp, rfl⟩ := Option.map_eq_some_iff.1 hq
    obtain ⟨o, ho, rfl⟩ := Option.map_eq_some_iff.1 hp
    have hlatched := latched_recvInternal hmeets ho
    exact hlatched
  | availableBytes =>
    obtain ⟨q, hq, rfl⟩ := Option.map_eq_some_iff.1 hr
    obtain ⟨p, hp, rfl⟩ := Option.map_eq_some_iff.1 hq
    have hlatched := latched_recvInternal (not_not.1 h) hp
    exact hlatched
  | peek =>
    obtain ⟨q, hq, rfl⟩ := Option.map_eq_some_iff.1 hr
    obtain ⟨p, hp, rfl⟩ := Option.map_eq_some_iff.1 hq
    have hlatched := latched_recvInternal (not_not.1 h) hp
    exact hlatched
  | recv len => exact latched_recvInternal (not_not.1 h) hr
  | _ => exact absurd trivial h

/-- **Reads tell the end of the stream from nothing yet**, until a call has met it.  In
every run of a host socket in which no call of `recv` returns no bytes, at every point
of it where there is a connection, and for every length that is not zero: `Recv` keeps
the contract; `Connection::read` does if the count fits into an `int`; and after the
next operation `Recv` does if and only if that did not meet the end either. -/
theorem receivesRight_iff {portMap : List (UInt16 × UInt16)} {k₀ : K} {log : List (Op × Answer)}
    (h : Run (perform portMap) PeerActs (Allows fun len _ x => ¬Latches len x) ({}, k₀) log x) :
    (haveFd x.1.connectionSocketFd = true → ∀ len, 0 < len →
      ReceivesRight len x ∧
      ∀ [McuCore K] (s : Serving (HostNetwork K)), s.net.Has s.conn.sockNum x →
        (ReadsRight len s x ↔
          ((stream x).broken = false → min len (stream x).unread.length < 2 ^ 31))) ∧
    ∀ op r, perform portMap op x = some r → haveFd r.2.1.connectionSocketFd = true →
      ((∀ len, 0 < len → ReceivesRight len r.2) ↔
        Allows (fun len _ x => ¬Latches len x) x op) := by
  have hstep : ∀ (y : HostSocketInfo × K) op r, y.1.OpenIsReadable →
      Allows (fun len _ x => ¬Latches len x) y op → perform portMap op y = some r →
      r.2.1.OpenIsReadable := by
    intro y op r hy hok hr
    refine kept_openIsReadable.perform hy hok (fun port _ => ?_) hr
    exact openIsReadable_of_notOpen (initializeTcpListener_connection portMap port y.1 y.2).1
  have hx : x.1.OpenIsReadable := by
    refine h.state_invariant (I := fun x => x.1.OpenIsReadable) ?_ hstep ?_
    · exact openIsReadable_of_notOpen rfl
    · exact fun y z hy houtside => houtside.1.symm ▸ hy
  constructor
  · intro hc len hlen
    obtain ⟨r, hr, hright, -⟩ := readContract_of_readable ⟨hc, hx hc⟩ hlen
    exact ⟨⟨r, hr, hright⟩, fun s hs => readsRight_iff ⟨hc, hx hc⟩ hlen hs⟩
  · intro op r hr hc
    constructor
    · intro hright
      by_contra hmeets
      exact (latched_perform hr hmeets).not_receivesRight 1 (hright 1 Nat.one_pos)
    · intro hok len hlen
      obtain ⟨q, hq, hright, -⟩ := readContract_of_readable ⟨hc, hstep x op r hx hok hr hc⟩ hlen
      exact ⟨q, hq, hright⟩

/-- The peer has sent nothing and shut down its side.  A status poll meets the end of
the stream, and `Recv` then says that nothing has arrived yet. -/
theorem receivesRight_counterexample :
    ∃ y z, perform [] .socketStatus (established80 { shutdown := true }) = some y ∧
      y.1.1 = 0x1C ∧ haveFd y.2.1.connectionSocketFd = true ∧ (stream y.2).AtEnd ∧
      perform [] (.recv 10) y.2 = some z ∧ z.1 = (-1, []) ∧ ¬ReceivesRight 10 y.2 := by
  let y := (perform [] .socketStatus (established80 { shutdown := true })).get rfl
  let z := (perform [] (.recv 10) y.2).get rfl
  refine ⟨y, z, (Option.some_get _).symm, by decide, by decide, by decide,
    (Option.some_get _).symm, by decide, ?_⟩
  have hlatched : Latched y.2 := ⟨by decide, by decide, .inl (by decide)⟩
  exact hlatched.not_receivesRight 10

/-- Two bytes and the end of the stream, and reads of ten bytes. -/
theorem receivesRight_iff_twoBytes :
    ∃ y, perform [] (.recv 10) (established80 { unread := [72, 105], shutdown := true }) = some y ∧
      y.1 = (2, [72, 105]) ∧ ReceivesRight 10 y.2 := by
  let y := (perform [] (.recv 10) (established80 { unread := [72, 105], shutdown := true })).get rfl
  have hy : perform [] (.recv 10) (established80 { unread := [72, 105], shutdown := true }) = some y :=
    (Option.some_get _).symm
  have hrun : Run (perform []) PeerActs (Allows fun len _ x => ¬Latches len x) ({}, _) _
      (established80 { unread := [72, 105], shutdown := true }) :=
    run_established80 _ trivial trivial
  have hok : Allows (fun len _ x => ¬Latches len x)
      (established80 { unread := [72, 105], shutdown := true }) (.recv 10) := by
    rintro ⟨-, -, hend | hzero⟩
    · exact absurd hend.1 (by decide)
    · exact absurd hzero.1 (by decide)
  have hright := ((receivesRight_iff.{0} hrun).2 _ y hy (by decide)).2 hok 10 (by decide)
  exact ⟨y, hy, by decide, hright⟩

end HostSocketInfo
end McuNet
