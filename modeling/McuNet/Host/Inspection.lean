/-
# Looking at a host connection without reading from it

`HostSocketInfo::Peek`, `HostSocketInfo::CanReadFromConnection`,
`HostSocketInfo::AvailableBytes`, `HostSocketInfo::IsConnectionHalfClosed`,
`HostSocketInfo::SocketStatus` and `HostSocketInfo::Recv`.

All of them call `recv`, and all but `Recv` should leave the stream as it is
(`host_socket_info.h`: `Peek` "returns the first available byte", `Recv` receives).  `Peek`
passes `peek = false` to `RecvInternal`, so a byte that it returns is gone, and
`CanReadFromConnection` calls `Peek`.  As long as neither finds a byte, what `Recv` has
returned is all that was taken out of the stream, and what `AvailableBytes` has counted
can be read (`inspects_iff`).

A socket has several connections one after the other; `performOn` notes with each
operation on which of them it is made.
-/

import McuNet.Host.EndOfStream

namespace McuNet
namespace HostSocketInfo

variable {K : Type*} [Posix K]

/-- An operation, with the number of the connection on which it is made. -/
def performOn (portMap : List (UInt16 × UInt16)) (op : Op) (x : HostSocketInfo × K) :
    Option ((ℕ × Answer) × HostSocketInfo × K) :=
  (perform portMap op x).map fun r => ((x.1.accepted, r.1), r.2)

/-- The bytes that `Recv` has returned from one connection. -/
def received (n : ℕ) (log : List (Op × ℕ × Answer)) : List UInt8 :=
  log.flatMap fun
    | (.recv _, connection, answer) => if connection = n then answer.2 else []
    | _ => []

theorem received_recv (n : ℕ) (log : List (Op × ℕ × Answer)) (len connection : ℕ) (a : Answer) :
    received n (log ++ [(.recv len, connection, a)]) =
      received n log ++ if connection = n then a.2 else [] := by
  simp [received]

theorem received_other (n : ℕ) (log : List (Op × ℕ × Answer)) {op : Op}
    (hop : ∀ len, op ≠ .recv len) (a : ℕ × Answer) :
    received n (log ++ [(op, a)]) = received n log := by
  cases op with
  | recv len => exact absurd rfl (hop len)
  | _ => simp [received]

variable [StreamKernel K] {x : HostSocketInfo × K}

/-- The operation finds a byte and takes it out. -/
def Consumes (x : HostSocketInfo × K) (op : Op) : Prop :=
  (op = .peek ∨ op = .canReadFromConnection) ∧ Waits x

/-- The call of `recv` leaves the stream alone, and asks for something. -/
def LooksOnly (len : ℕ) (peek : Bool) (x : HostSocketInfo × K) : Prop :=
  (peek = true ∧ 0 < len) ∨ ¬Waits x

theorem allows_of_not_consumes {op : Op} (h : ¬Consumes x op) (hop : ∀ len, op ≠ .recv len) :
    Allows LooksOnly x op := by
  have hlook : ∀ (len : ℕ) (y : HostSocketInfo × K), 0 < len → LooksOnly len true y :=
    fun len y hlen => .inl ⟨rfl, hlen⟩
  cases op with
  | recv len => exact absurd rfl (hop len)
  | socketStatus => exact hlook _ _ Nat.one_pos
  | isConnectionHalfClosed => exact hlook _ _ Nat.one_pos
  | availableBytes => exact hlook 1000 x (by decide)
  | canReadFromConnection => exact .inr fun hwaits => h ⟨.inr rfl, hwaits⟩
  | peek => exact .inr fun hwaits => h ⟨.inl rfl, hwaits⟩
  | _ => trivial

/-! ### What was returned is what was taken out -/

/-- `bytes n` is what was taken out of connection `n`, for the connections so far. -/
structure InStep (bytes : ℕ → List UInt8) (x : HostSocketInfo × K) : Prop where
  exclusive : x.1.Exclusive
  taken : haveFd x.1.connectionSocketFd = true → bytes x.1.accepted = (stream x).taken
  later : ∀ n, x.1.accepted < n → bytes n = []

theorem InStep.closed {bytes : ℕ → List UInt8} {y : HostSocketInfo × K} (h : InStep bytes x)
    (hc : haveFd y.1.connectionSocketFd = false) (ha : y.1.accepted = x.1.accepted) :
    InStep bytes y where
  exclusive _ := hc
  taken hopen := absurd (hc.symm.trans hopen) Bool.false_ne_true
  later n hn := h.later n (ha ▸ hn)

theorem InStep.same {bytes : ℕ → List UInt8} {y : HostSocketInfo × K} (h : InStep bytes x)
    (hl : y.1.listenerSocketFd = x.1.listenerSocketFd)
    (hc : y.1.connectionSocketFd = x.1.connectionSocketFd) (ha : y.1.accepted = x.1.accepted)
    (htaken : (stream y).taken = (stream x).taken) : InStep bytes y where
  exclusive hopen := hc.symm ▸ h.exclusive (hl ▸ hopen)
  taken hopen := by rw [ha, htaken, h.taken (hc ▸ hopen)]
  later n hn := h.later n (ha ▸ hn)

/-- **Looking takes nothing out.** -/
theorem kept_inStep (bytes : ℕ → List UInt8) :
    Kept LooksOnly (InStep (K := K) bytes) where
  closeConnectionSocket s k h := h.closed rfl rfl
  closeListenerSocket s k h := by
    constructor
    · exact fun hl => absurd hl Bool.false_ne_true
    · intro hc
      have hk := closeListenerSocket_stream (k := k) h.exclusive hc
      have htaken := h.taken hc
      rw [stream, hk]
      exact htaken
    · exact h.later
  acceptConnection s k h := by
    generalize hr : s.acceptConnection k = r
    cases hr ▸ s.acceptConnection_cases k with
    | noListener _ => exact h
    | nothing _ hno => exact h.closed hno rfl
    | accepted hl hfd =>
      have hnew := StreamKernel.accept s.listenerSocketFd k (haveFd_iff.1 hfd)
      have harrives := StreamKernel.close s.listenerSocketFd _
        (Posix.accept s.listenerSocketFd k).2 hnew.1
      constructor
      · exact fun hl => absurd hl Bool.false_ne_true
      · intro _
        exact (h.later _ (Nat.lt_succ_self _)).trans (harrives.taken.trans hnew.2).symm
      · exact fun n hn => h.later n ((Nat.lt_succ_self _).trans hn)
  disconnectConnectionSocket s k h := by
    unfold disconnectConnectionSocket
    split_ifs
    · exact h.same rfl rfl rfl (StreamKernel.shutdownWr _ _).taken
    · exact h
  send buf len s k h := by
    unfold HostSocketInfo.send
    split_ifs
    · exact h.same rfl rfl rfl (StreamKernel.send _ _ _ _).taken
    · exact h
  recvInternal len peek s k r h hmay hr := by
    cases @recvStream K _ _ len peek (s, k) r hr with
    | skipped _ => exact h
    | bytes hread live waiting _ after =>
      rcases hmay with ⟨rfl, -⟩ | hno
      · exact h.same rfl rfl rfl (congrArg Incoming.taken after)
      · exact absurd ⟨hread, live, waiting⟩ hno
    | zero _ _ _ _ after => exact h.same rfl rfl rfl (congrArg Incoming.taken after)
    | ended _ _ _ after => exact h.same rfl rfl rfl (congrArg Incoming.taken after)
    | nothing _ _ _ _ after => exact h.same rfl rfl rfl (congrArg Incoming.taken after)
    | lost _ _ => exact h.closed rfl rfl
  isConnectionHalfClosed s k r h _ hr := by
    cases @probeStream K _ _ (s, k) r hr with
    | notOpen _ => exact h
    | known _ _ => exact h
    | byte _ _ _ after => exact h.same rfl rfl rfl (congrArg Incoming.taken after)
    | ended _ _ _ after => exact h.same rfl rfl rfl (congrArg Incoming.taken after)

/-- **`Recv` returns what it takes out.** -/
theorem InStep.recv {bytes : ℕ → List UInt8} (h : InStep bytes x) {len : ℕ}
    {r : Answer × HostSocketInfo × K} (hr : x.1.recv len x.2 = some r) :
    InStep (fun n => bytes n ++ if x.1.accepted = n then r.1.2 else []) r.2 := by
  have hnone : InStep (fun n => bytes n ++ if x.1.accepted = n then [] else []) x := by
    simpa using h
  cases recvStream hr with
  | skipped _ => exact hnone
  | bytes hread _ _ _ after =>
    constructor
    · exact h.exclusive
    · intro _
      have htaken := congrArg Incoming.taken after
      rw [if_neg Bool.false_ne_true, Incoming.take] at htaken
      rw [htaken, ← h.taken hread.1]
      exact congrArg _ (if_pos rfl)
    · intro n hn
      have hne : x.1.accepted ≠ n := hn.ne
      rw [h.later n hn, if_neg hne, List.append_nil]
  | zero _ _ _ _ after => exact hnone.same rfl rfl rfl (congrArg Incoming.taken after)
  | ended _ _ _ after => exact hnone.same rfl rfl rfl (congrArg Incoming.taken after)
  | nothing _ _ _ _ after => exact hnone.same rfl rfl rfl (congrArg Incoming.taken after)
  | lost _ _ => exact hnone.closed rfl rfl

/-- **One operation that consumes nothing.** -/
theorem InStep.call {log : List (Op × ℕ × Answer)} (h : InStep (received · log) x)
    {portMap : List (UInt16 × UInt16)} {op : Op} (hok : ¬Consumes x op)
    {r : Answer × HostSocketInfo × K} (hr : perform portMap op x = some r) :
    InStep (received · (log ++ [(op, x.1.accepted, r.1)])) r.2 := by
  by_cases hop : ∃ len, op = .recv len
  · obtain ⟨len, rfl⟩ := hop
    simp only [received_recv]
    exact h.recv hr
  · have hop' : ∀ len, op ≠ .recv len := fun len heq => hop ⟨len, heq⟩
    simp only [received_other _ log hop']
    refine (kept_inStep _).perform h (allows_of_not_consumes hok hop') (fun port _ => ?_) hr
    have hconn := initializeTcpListener_connection portMap port x.1 x.2
    exact h.closed hconn.1 hconn.2

/-- What `Peek` and `CanReadFromConnection` do when a byte waits. -/
theorem consumes_takes {portMap : List (UInt16 × UInt16)} {op : Op} (h : Consumes x op)
    {r : Answer × HostSocketInfo × K} (hr : perform portMap op x = some r) :
    r.2.1 = x.1 ∧ stream r.2 = (stream x).take 1 := by
  obtain ⟨hop, hread, live, waiting⟩ := h
  obtain ⟨q, hq, hcase⟩ := recvInternal_stream 1 false x
  have hafter : q.2.1 = x.1 ∧ stream q.2 = (stream x).take 1 := by
    cases hcase with
    | skipped hno => exact absurd hread hno
    | bytes _ _ _ _ after => exact ⟨rfl, after⟩
    | zero _ _ _ asked _ => exact absurd asked Nat.one_ne_zero
    | ended _ _ atEnd _ => exact absurd atEnd.1 waiting
    | nothing _ _ empty _ _ => exact absurd empty waiting
    | lost _ broken => exact absurd (live.symm.trans broken) Bool.false_ne_true
  rcases hop with rfl | rfl
  · unfold perform peek at hr
    rw [hq] at hr
    obtain rfl := Option.some.inj hr
    exact hafter
  · unfold perform canReadFromConnection' peek at hr
    simp only [hq, if_pos hread.1, if_pos hread.2, Option.map_some] at hr
    obtain rfl := Option.some.inj hr
    exact hafter

/-- **A byte that was found is missing.** -/
theorem InStep.not_of_consumes {log : List (Op × ℕ × Answer)} (h : InStep (received · log) x)
    {portMap : List (UInt16 × UInt16)} {op : Op} (hconsumes : Consumes x op)
    {r : Answer × HostSocketInfo × K} (hr : perform portMap op x = some r) :
    received r.2.1.accepted (log ++ [(op, x.1.accepted, r.1)]) ≠ (stream r.2).taken := by
  obtain ⟨hsame, hstream⟩ := consumes_takes hconsumes hr
  have hop : ∀ len, op ≠ .recv len := by
    rintro len rfl
    rcases hconsumes.1 with h | h
    · exact absurd h nofun
    · exact absurd h nofun
  intro heq
  rw [received_other _ log hop, hsame, h.taken hconsumes.2.1.1, hstream] at heq
  have hlen := congrArg List.length heq
  have hpos : 0 < (stream x).unread.length := List.length_pos_iff.2 hconsumes.2.2.2
  simp only [Incoming.take, List.length_append, List.length_take] at hlen
  omega

/-! ### What is available can be read -/

/-- At least `n` bytes wait, as long as the connection is there and not broken. -/
structure Holds (n : ℕ) (x : HostSocketInfo × K) : Prop where
  noListener : haveFd x.1.listenerSocketFd = false
  waits : haveFd x.1.connectionSocketFd = true → (stream x).broken = false →
    x.1.canReadFromConnection = true ∧ n ≤ (stream x).unread.length

theorem Holds.arrives {n : ℕ} {y : HostSocketInfo × K} (h : Holds n x)
    (hl : y.1.listenerSocketFd = x.1.listenerSocketFd)
    (hc : y.1.connectionSocketFd = x.1.connectionSocketFd)
    (hread : y.1.canReadFromConnection = x.1.canReadFromConnection)
    (harrives : (stream x).Arrives (stream y)) : Holds n y where
  noListener := hl.symm ▸ h.noListener
  waits hopen live := by
    have hlive : (stream x).broken = false := by
      by_contra hbroken
      have hbroken' := harrives.broken (Bool.eq_true_of_not_eq_false hbroken)
      exact Bool.false_ne_true (live.symm.trans hbroken')
    have hwaits := h.waits (hc ▸ hopen) hlive
    exact ⟨hread.trans hwaits.1, hwaits.2.trans harrives.unread.length_le⟩

theorem Holds.closed {n : ℕ} {y : HostSocketInfo × K}
    (hl : haveFd y.1.listenerSocketFd = false) (hc : haveFd y.1.connectionSocketFd = false) :
    Holds n y :=
  ⟨hl, fun hopen => absurd (hc.symm.trans hopen) Bool.false_ne_true⟩

/-- A stream with bytes that wait is not at its end. -/
theorem Holds.not_atEnd {n : ℕ} (hn : 0 < n) (h : Holds n x)
    (hopen : haveFd x.1.connectionSocketFd = true) (live : (stream x).broken = false) :
    ¬(stream x).AtEnd := by
  rintro ⟨hempty, -⟩
  have hwaits := (h.waits hopen live).2
  rw [hempty, List.length_nil] at hwaits
  omega

/-- Looking does not change how many bytes wait. -/
theorem kept_holds {n : ℕ} (hn : 0 < n) : Kept LooksOnly (Holds (K := K) n) where
  closeConnectionSocket s k h := .closed h.noListener rfl
  closeListenerSocket s k h := by
    have hk : (s.closeListenerSocket k).2 = k :=
      if_neg fun hl => Bool.false_ne_true (h.noListener.symm.trans hl)
    refine ⟨rfl, fun hc live => ?_⟩
    have hwaits := h.waits hc
    rw [stream, hk] at live ⊢
    exact hwaits live
  acceptConnection s k h := by
    rw [acceptConnection_of_noListener h.noListener]
    exact h
  disconnectConnectionSocket s k h := by
    unfold disconnectConnectionSocket
    split_ifs
    · exact h.arrives rfl rfl rfl (StreamKernel.shutdownWr _ _)
    · exact h
  send buf len s k h := by
    unfold HostSocketInfo.send
    split_ifs
    · exact h.arrives rfl rfl rfl (StreamKernel.send _ _ _ _)
    · exact h
  recvInternal len peek s k r h hmay hr := by
    cases @recvStream K _ _ len peek (s, k) r hr with
    | skipped _ => exact h
    | bytes hread live waiting _ after =>
      rcases hmay with ⟨rfl, -⟩ | hno
      · exact h.arrives rfl rfl rfl (after.symm ▸ .refl _)
      · exact absurd ⟨hread, live, waiting⟩ hno
    | zero hread live waiting asked _ =>
      rcases hmay with ⟨-, hlen⟩ | hno
      · exact absurd asked hlen.ne'
      · exact absurd ⟨hread, live, waiting⟩ hno
    | ended hread live atEnd _ => exact absurd atEnd (h.not_atEnd hn hread.1 live)
    | nothing _ _ _ _ after => exact h.arrives rfl rfl rfl (after.symm ▸ .refl _)
    | lost _ _ => exact .closed h.noListener rfl
  isConnectionHalfClosed s k r h _ hr := by
    cases @probeStream K _ _ (s, k) r hr with
    | notOpen _ => exact h
    | known _ _ => exact h
    | byte _ _ _ after => exact h.arrives rfl rfl rfl (after.symm ▸ .refl _)
    | ended hread live atEnd _ => exact absurd atEnd (h.not_atEnd hn hread.1 live)

/-- **What `AvailableBytes` counts is there.** -/
theorem holds_of_availableBytes (hexclusive : x.1.Exclusive) {r : ℤ × HostSocketInfo × K}
    (hr : x.1.availableBytes x.2 = some r) (hpos : 0 < r.1) : Holds r.1.toNat r.2 := by
  obtain ⟨q, hq, hcase⟩ := availableBytes_stream x
  obtain rfl := Option.some.inj (hq.symm.trans hr)
  cases hcase with
  | some waits after =>
    have hno : haveFd x.1.listenerSocketFd = false := by
      by_contra hl
      exact Bool.false_ne_true
        ((hexclusive (Bool.eq_true_of_not_eq_false hl)).symm.trans waits.1.1)
    refine ⟨hno, fun _ _ => ⟨waits.1.2, ?_⟩⟩
    rw [congrArg Incoming.unread after, Int.toNat_natCast, List.length_take]
    omega
  | none _ _ value _ => exact absurd hpos (not_lt.2 value)
  | lost _ _ => exact absurd hpos (show ¬(0 : ℤ) < -1 by decide)

/-- And `Recv` returns it. -/
theorem Holds.recv {n : ℕ} (h : Holds n x) (hn : 0 < n)
    (hc : haveFd x.1.connectionSocketFd = true) (live : (stream x).broken = false) :
    ∃ r, x.1.recv n x.2 = some r ∧ r.1.1 = n ∧ r.1.2.length = n := by
  obtain ⟨hread, hcount⟩ := h.waits hc live
  obtain ⟨r, hr, hcase⟩ := recvInternal_stream n false x
  refine ⟨r, hr, ?_⟩
  cases hcase with
  | skipped hno => exact absurd ⟨hc, hread⟩ hno
  | bytes _ _ _ _ _ =>
    have hlen : ((stream x).unread.take n).length = n := List.length_take_of_le hcount
    exact ⟨congrArg _ hlen, hlen⟩
  | zero _ _ _ asked _ => exact absurd asked hn.ne'
  | ended _ _ atEnd _ =>
    rw [atEnd.1, List.length_nil] at hcount
    omega
  | nothing _ _ empty _ _ =>
    rw [empty, List.length_nil] at hcount
    omega
  | lost _ broken => exact absurd (live.symm.trans broken) Bool.false_ne_true

/-- The next `Recv` of the connection is still to come. -/
def Between (op : Op) : Prop := (∀ len, op ≠ .recv len) ∧ ∀ port, op ≠ .initializeTcpListener port

/-- **Until the next `Recv`** the bytes stay there, and more may arrive. -/
theorem Holds.run {portMap : List (UInt16 × UInt16)} {n : ℕ} (hn : 0 < n) (h : Holds n x)
    {log : List (Op × ℕ × Answer)} {y : HostSocketInfo × K}
    (hrun : Run (performOn portMap) PeerActs (fun y op => ¬Consumes y op ∧ Between op) x log y) :
    Holds n y := by
  refine hrun.state_invariant (I := Holds n) h ?_ ?_
  · rintro y op r hy ⟨hok, hrecv, hinit⟩ hr
    obtain ⟨q, hq, rfl⟩ := Option.map_eq_some_iff.1 hr
    exact (kept_holds hn).perform hy (allows_of_not_consumes hok hrecv)
      (fun port heq => absurd heq (hinit port)) hq
  · rintro y z hy ⟨hmembers, harrives⟩
    exact hy.arrives (by rw [hmembers]) (by rw [hmembers]) (by rw [hmembers]) harrives

/-- A `Peek` that finds no byte returns none. -/
theorem peek_of_not_consumes {r : ℤ × HostSocketInfo × K} (hr : x.1.peek x.2 = some r)
    (hok : ¬Consumes x .peek) : r.1 = -1 := by
  have hno : ¬Waits x := fun hwaits => hok ⟨.inl rfl, hwaits⟩
  obtain ⟨q, hq, hcase⟩ := recvInternal_stream 1 false x
  unfold peek at hr
  rw [hq] at hr
  obtain rfl := Option.some.inj hr
  cases hcase with
  | bytes hread live waiting _ _ => exact absurd ⟨hread, live, waiting⟩ hno
  | skipped _ => rfl
  | zero _ _ _ _ _ => rfl
  | ended _ _ _ _ => rfl
  | nothing _ _ _ _ _ => rfl
  | lost _ _ => rfl

/-- **Looking at a connection takes nothing out of it.**  In every run of a host socket
in which neither `Peek` nor `CanReadFromConnection` finds a byte, at every point of it:
the bytes that `Recv` has returned from the connection are those that were taken out of
its stream, which begins what the peer has sent; after the next operation this is so if
and only if that does not find a byte either; `Peek` returns no byte that `Recv` would
have to return; and when `AvailableBytes` has counted some bytes, the next `Recv` of as
many returns as many, unless the connection is closed or broken by then. -/
theorem inspects_iff {portMap : List (UInt16 × UInt16)} {k₀ : K}
    {log : List (Op × ℕ × Answer)}
    (h : Run (performOn portMap) PeerActs (fun x op => ¬Consumes x op) ({}, k₀) log x) :
    (haveFd x.1.connectionSocketFd = true →
      received x.1.accepted log = (stream x).taken ∧
      received x.1.accepted log <+: (stream x).sent) ∧
    (∀ op r, perform portMap op x = some r → haveFd r.2.1.connectionSocketFd = true →
      (received r.2.1.accepted (log ++ [(op, x.1.accepted, r.1)]) = (stream r.2).taken ↔
        ¬Consumes x op)) ∧
    (∀ r, x.1.peek x.2 = some r → ¬Consumes x .peek → r.1 = -1) ∧
    (∀ r, x.1.availableBytes x.2 = some r → 0 < r.1 → ∀ later y,
      Run (performOn portMap) PeerActs (fun y op => ¬Consumes y op ∧ Between op) r.2 later y →
      haveFd y.1.connectionSocketFd = true → (stream y).broken = false →
      ∃ q, y.1.recv r.1.toNat y.2 = some q ∧ q.1.1 = r.1 ∧ q.1.2.length = r.1.toNat) := by
  have hx : InStep (received · log) x := by
    refine h.invariant (I := fun log x => InStep (received · log) x) ?_ ?_ ?_
    · exact ⟨fun _ => rfl, fun hc => absurd hc Bool.false_ne_true, fun _ _ => rfl⟩
    · intro log y op r hy hok hr
      obtain ⟨q, hq, rfl⟩ := Option.map_eq_some_iff.1 hr
      exact hy.call hok hq
    · rintro log y z hy ⟨hmembers, harrives⟩
      exact hy.same (by rw [hmembers]) (by rw [hmembers]) (by rw [hmembers]) harrives.taken
  refine ⟨fun hc => ?_, fun op r hr hc => ?_, fun r hr hok => peek_of_not_consumes hr hok, ?_⟩
  · have htaken := hx.taken hc
    exact ⟨htaken, htaken ▸ List.prefix_append _ _⟩
  · constructor
    · exact fun htaken hconsumes => hx.not_of_consumes hconsumes hr htaken
    · exact fun hok => (hx.call hok hr).taken hc
  · intro r hr hpos later y hrun hc live
    have hn : 0 < r.1.toNat := by omega
    have hholds := (holds_of_availableBytes hx.exclusive hr hpos).run hn hrun
    obtain ⟨q, hq, hvalue, hlen⟩ := hholds.recv hn hc live
    exact ⟨q, hq, by omega, hlen⟩

/-- A run that accepts a connection. -/
theorem runOn_established80 {ok : HostSocketInfo × LocalKernel → Op → Prop} (i : Incoming UInt8)
    (hlisten : ok ({}, { waiting := [i] }) (.initializeTcpListener 80))
    (haccept : ok (listening80 [i]) .acceptConnection) :
    Run (performOn []) PeerActs ok ({}, { waiting := [i] })
      [(.initializeTcpListener 80, 0, .ofBool true), (.acceptConnection, 0, .ofBool true)]
      (established80 i) := by
  have hlistening : performOn [] (.initializeTcpListener 80)
      ({}, ({ waiting := [i] } : LocalKernel)) = some ((0, .ofBool true), listening80 [i]) := by
    rw [performOn, perform_listening80]
    rfl
  have haccepted : performOn [] .acceptConnection (listening80 [i]) =
      some ((0, .ofBool true), established80 i) := by
    rw [performOn, perform_established80]
    rfl
  exact .call (.call .start hlisten hlistening) haccept haccepted

/-- The peer has sent two bytes.  `Peek` returns the first, and `Recv` the second only. -/
theorem inspects_counterexample :
    ∃ log y, Run (performOn []) PeerActs (fun _ _ => True)
        ({}, ({ waiting := [{ unread := [72, 105] }] } : LocalKernel)) log y ∧
      (stream y).sent = [72, 105] ∧ received 1 log = [105] ∧
      ¬received 1 log <+: (stream y).sent := by
  let y := (performOn [] .peek (established80 { unread := [72, 105] })).get rfl
  let z := (performOn [] (.recv 10) y.2).get rfl
  have hpeek : performOn [] .peek (established80 { unread := [72, 105] }) = some y :=
    (Option.some_get _).symm
  have hrecv : performOn [] (.recv 10) y.2 = some z := (Option.some_get _).symm
  have hrun : Run (performOn []) PeerActs (fun _ _ => True) ({}, _) _
      (established80 { unread := [72, 105] }) := runOn_established80 _ trivial trivial
  exact ⟨_, _, (hrun.call trivial hpeek).call trivial hrecv, by decide, by decide, by decide⟩

/-- Both bytes are available, and both are returned after a status poll. -/
theorem inspects_iff_twoBytes :
    ∃ y z, (established80 { unread := [72, 105] }).1.availableBytes
        (established80 { unread := [72, 105] }).2 = some y ∧ y.1 = 2 ∧
      performOn [] .socketStatus y.2 = some z ∧
      ∃ q, z.2.1.recv 2 z.2.2 = some q ∧ q.1.1 = 2 := by
  let x := established80 { unread := [72, 105] }
  let y := (x.1.availableBytes x.2).get rfl
  let z := (performOn [] .socketStatus y.2).get rfl
  have hy : x.1.availableBytes x.2 = some y := (Option.some_get _).symm
  have hz : performOn [] .socketStatus y.2 = some z := (Option.some_get _).symm
  have hlooks : ∀ (x : HostSocketInfo × LocalKernel) op, op ≠ .peek →
      op ≠ .canReadFromConnection → ¬Consumes x op :=
    fun x op hpeek hcan h => h.1.elim hpeek hcan
  have hrun : Run (performOn []) PeerActs (fun x op => ¬Consumes x op) ({}, _) _ x :=
    runOn_established80 _ (hlooks _ _ nofun nofun) (hlooks _ _ nofun nofun)
  have hlater : Run (performOn []) PeerActs (fun y op => ¬Consumes y op ∧ Between op) y.2 _ z.2 :=
    .call .start ⟨hlooks _ .socketStatus nofun nofun, nofun, nofun⟩ hz
  obtain ⟨q, hq, hvalue, -⟩ :=
    (inspects_iff hrun).2.2.2 y hy (by decide) _ z.2 hlater (by decide) (by decide)
  exact ⟨y, z, hy, by decide, hz, q, hq, hvalue.trans (by decide)⟩

end HostSocketInfo
end McuNet
