/-
# The end of the stream, as a host socket remembers it

`HostSocketInfo::RecvInternal`, `HostSocketInfo::IsConnectionHalfClosed` and
`ServerSocket::HandleCloseWait`.

`can_read_from_connection_` is cleared when `recv` returns nothing, and never set
again while the connection lasts.  `recv` returns nothing at the end of the stream,
and also when it is asked for nothing while bytes are waiting.  The flag tells the
truth as long as that does not happen (`endIsTrue_iff`), and then neither `SocketStatus`
nor `HandleCloseWait` gives up a connection with unread bytes.
-/

import McuNet.Host.Fields
import McuNet.Host.Network
import McuNet.Server.Poll

namespace McuNet

namespace HostSocketInfo

variable {K : Type*} [Posix K] [StreamKernel K]

/-- What is outside of a socket: its members do not change, and only the peer writes
to its stream. -/
def PeerActs (x y : HostSocketInfo × K) : Prop :=
  y.1 = x.1 ∧ (stream x).Arrives (stream y)

/-- **A connection is unreadable only at the end of the stream.** -/
def EndIsTrue (x : HostSocketInfo × K) : Prop :=
  haveFd x.1.connectionSocketFd = true → x.1.canReadFromConnection = false → (stream x).AtEnd

/-- There is no listener next to a connection. -/
def Exclusive (s : HostSocketInfo) : Prop :=
  haveFd s.listenerSocketFd = true → haveFd s.connectionSocketFd = false

variable {s : HostSocketInfo} {k : K} {x : HostSocketInfo × K}

/-! ### Where the connection stays -/

theorem endIsTrue_of_notOpen (h : haveFd x.1.connectionSocketFd = false) : EndIsTrue x :=
  fun hc => absurd (h.symm.trans hc) Bool.false_ne_true

theorem endIsTrue_of_readable (h : x.1.canReadFromConnection = true) : EndIsTrue x :=
  fun _ hno => absurd (hno.symm.trans h) Bool.false_ne_true

/-- The end stays the end, whatever the peer does. -/
theorem EndIsTrue.arrives {y : HostSocketInfo × K} (h : EndIsTrue x)
    (hfd : y.1.connectionSocketFd = x.1.connectionSocketFd)
    (hread : y.1.canReadFromConnection = x.1.canReadFromConnection)
    (harrives : (stream x).Arrives (stream y)) : EndIsTrue y := by
  intro hc hno
  rw [hfd] at hc
  rw [hread] at hno
  exact harrives.atEnd (h hc hno)

omit [StreamKernel K] in
/-- Closing the listener does nothing to a connection. -/
theorem closeListenerSocket_stream (h : s.Exclusive)
    (hc : haveFd s.connectionSocketFd = true) : (s.closeListenerSocket k).2 = k := by
  refine if_neg fun hl => ?_
  exact Bool.false_ne_true ((h hl).symm.trans hc)

/-- A call of `recv` for nothing, while bytes are waiting that could be read. -/
def AsksForNothing (len : ℕ) (x : HostSocketInfo × K) : Prop :=
  len = 0 ∧ x.1.Readable ∧ (stream x).broken = false ∧ (stream x).unread ≠ []

/-- What the functions keep that do not ask for nothing. -/
theorem kept_endIsTrue : Kept (fun len _ x => ¬AsksForNothing len x)
    fun x : HostSocketInfo × K => x.1.Exclusive ∧ EndIsTrue x where
  closeConnectionSocket s k h := ⟨fun _ => rfl, endIsTrue_of_notOpen rfl⟩
  closeListenerSocket s k h := by
    refine ⟨fun hl => absurd hl Bool.false_ne_true, fun hc hno => ?_⟩
    have hk := closeListenerSocket_stream (k := k) h.1 hc
    have hend := h.2 hc hno
    rw [stream, hk]
    exact hend
  acceptConnection s k h := by
    generalize hr : s.acceptConnection k = r
    cases hr ▸ s.acceptConnection_cases k with
    | noListener _ => exact h
    | nothing _ hno => exact ⟨fun _ => hno, endIsTrue_of_notOpen hno⟩
    | accepted _ _ => exact ⟨fun hl => absurd hl Bool.false_ne_true, endIsTrue_of_readable rfl⟩
  disconnectConnectionSocket s k h := by
    rw [disconnectConnectionSocket]
    split_ifs
    · exact ⟨h.1, h.2.arrives rfl rfl (StreamKernel.shutdownWr _ _)⟩
    · exact h
  send buf len s k h := by
    rw [HostSocketInfo.send]
    split_ifs
    · exact ⟨h.1, h.2.arrives rfl rfl (StreamKernel.send _ _ _ _)⟩
    · exact h
  recvInternal len peek s k r h hmay hr := by
    cases @recvStream K _ _ len peek (s, k) r hr with
    | skipped _ => exact h
    | bytes hread _ _ _ _ => exact ⟨h.1, endIsTrue_of_readable hread.2⟩
    | zero hread live waiting asked _ => exact absurd ⟨asked, hread, live, waiting⟩ hmay
    | ended _ _ atEnd after => exact ⟨h.1, fun _ _ => after.symm ▸ atEnd⟩
    | nothing hread _ _ _ _ => exact ⟨h.1, endIsTrue_of_readable hread.2⟩
    | lost _ _ => exact ⟨fun _ => rfl, endIsTrue_of_notOpen rfl⟩
  isConnectionHalfClosed s k r h _ hr := by
    cases @probeStream K _ _ (s, k) r hr with
    | notOpen _ => exact h
    | known _ _ => exact h
    | byte hread _ _ _ => exact ⟨h.1, endIsTrue_of_readable hread.2⟩
    | ended _ _ atEnd after => exact ⟨h.1, fun _ _ => after.symm ▸ atEnd⟩

/-- The operation is a `Recv` of no bytes while bytes are waiting that could be read. -/
def ReadsNothing (x : HostSocketInfo × K) (op : Op) : Prop :=
  op = .recv 0 ∧ x.1.Readable ∧ (stream x).broken = false ∧ (stream x).unread ≠ []

/-- Only `Recv` asks for nothing. -/
theorem allows_of_not_readsNothing {op : Op} (h : ¬ReadsNothing x op) :
    Allows (fun len _ x => ¬AsksForNothing len x) x op := by
  cases op with
  | recv len => exact fun hask => h ⟨hask.1 ▸ rfl, hask.2⟩
  | socketStatus => exact fun hask => absurd hask.1 (by decide)
  | isConnectionHalfClosed => exact fun hask => absurd hask.1 (by decide)
  | canReadFromConnection => exact fun hask => absurd hask.1 (by decide)
  | availableBytes => exact fun hask => absurd hask.1 (by decide)
  | peek => exact fun hask => absurd hask.1 (by decide)
  | _ => trivial

/-- **After an operation** the flag tells the truth if and only if it was not a `Recv`
of no bytes while bytes were waiting. -/
theorem endIsTrue_perform {portMap : List (UInt16 × UInt16)} {op : Op}
    {r : Answer × HostSocketInfo × K} (hx : x.1.Exclusive ∧ EndIsTrue x)
    (hr : perform portMap op x = some r) :
    (¬ReadsNothing x op → r.2.1.Exclusive ∧ EndIsTrue r.2) ∧
      (EndIsTrue r.2 → ¬ReadsNothing x op) := by
  constructor
  · intro hok
    refine kept_endIsTrue.perform hx (allows_of_not_readsNothing hok) (fun port _ => ?_) hr
    have hc := (initializeTcpListener_connection portMap port x.1 x.2).1
    exact ⟨fun _ => hc, endIsTrue_of_notOpen hc⟩
  · rintro hend ⟨rfl, hread, live, waiting⟩
    cases recvStream hr with
    | skipped h => exact h hread
    | bytes _ _ _ asked _ => exact lt_irrefl 0 asked
    | zero _ _ _ _ after => exact waiting (after ▸ (hend hread.1 rfl).1)
    | ended _ _ atEnd _ => exact waiting atEnd.1
    | nothing _ _ empty _ _ => exact waiting empty
    | lost _ broken => exact Bool.false_ne_true (live.symm.trans broken)

/-- **A status of half closed** is reported at the end of the stream. -/
theorem atEnd_of_closeWait (hx : x.1.Exclusive ∧ EndIsTrue x) {r : UInt8 × HostSocketInfo × K}
    (hr : x.1.socketStatus x.2 = some r) (hwait : r.1 = kStatusCloseWait) : (stream r.2).AtEnd := by
  have hy := kept_endIsTrue.acceptConnection x.1 x.2 hx
  rcases socketStatus_cases hr with ⟨-, -, hstatus⟩ | hconn
  · rcases hstatus with hstatus | hstatus
    · exact absurd (hwait.symm.trans hstatus) (by decide)
    · exact absurd (hwait.symm.trans hstatus) (by decide)
  · unfold connectionStatus isConnected at hconn
    split_ifs at hconn with hc
    · obtain ⟨half, hhalf, rfl⟩ := Option.map_eq_some_iff.1 hconn
      cases probeStream hhalf with
      | notOpen _ => simp [kStatusEstablished, kStatusCloseWait] at hwait
      | known _ hno => exact hy.2 hc hno
      | byte _ _ _ _ => simp [kStatusEstablished, kStatusCloseWait] at hwait
      | ended _ _ atEnd after => exact after.symm ▸ atEnd
    · obtain rfl := Option.some.inj hconn
      simp [kStatusClosed, kStatusCloseWait] at hwait

/-- Bytes that are waiting and can be read are available. -/
theorem availableBytes_pos (h : Waits x) : ∃ r, x.1.availableBytes x.2 = some r ∧ 0 < r.1 := by
  obtain ⟨r, hr, hcase⟩ := availableBytes_stream x
  refine ⟨r, hr, ?_⟩
  cases hcase with
  | some _ _ =>
    have hlen := List.length_pos_iff.2 h.2.2
    rw [List.length_take]
    omega
  | none hno _ _ _ => exact absurd h hno
  | lost _ broken => exact absurd (h.2.1.symm.trans broken) Bool.false_ne_true

/-- **`HandleCloseWait` goes on** with a connection from which bytes are unread. -/
theorem handleCloseWait_of_unread [McuCore K] {L : Type*} [ServerSocketListener L]
    {y : ServerSocket (HostNetwork K) L} (hy : y.net.Has y.sockNum x) (hend : EndIsTrue x)
    (hc : haveFd x.1.connectionSocketFd = true) (live : (stream x).broken = false)
    (waiting : (stream x).unread ≠ []) : y.handleCloseWait = y.asked.announceCanRead := by
  have hread : x.1.Readable := by
    refine ⟨hc, ?_⟩
    by_contra hno
    exact waiting (hend hc (Bool.eq_false_of_not_eq_true hno)).1
  obtain ⟨r, hr, hpos⟩ := availableBytes_pos ⟨hread, live, waiting⟩
  have havailable := congrArg Prod.fst (hy.onSocket (-1) hr)
  have hpos' : 0 < ((Platform.ethernetClient y.sockNum).available y.net).1 := by
    change 0 < (HostNetwork.onSocket (-1) y.sockNum HostSocketInfo.availableBytes y.net).1
    rw [havailable]
    exact hpos
  exact if_pos hpos'

/-- **A connection is marked unreadable only at the end of its stream.**  In every run of
a host socket in which no `Recv` asks for no bytes while bytes are waiting, at every
point of it: the flag tells the truth, and after the next operation it does if and only
if that is not such a `Recv`; `SocketStatus` reports a half closed connection at the end
of its stream only; and a server socket that handles this state hands a connection with
unread bytes to its listener instead of closing it. -/
theorem endIsTrue_iff {portMap : List (UInt16 × UInt16)} {k₀ : K} {log : List (Op × Answer)}
    (h : Run (perform portMap) PeerActs (fun x op => ¬ReadsNothing x op) ({}, k₀) log x) :
    EndIsTrue x ∧
    (∀ op r, perform portMap op x = some r → (EndIsTrue r.2 ↔ ¬ReadsNothing x op)) ∧
    (∀ r, x.1.socketStatus x.2 = some r → r.1 = kStatusCloseWait → (stream r.2).AtEnd) ∧
    (haveFd x.1.connectionSocketFd = true → (stream x).broken = false → (stream x).unread ≠ [] →
      ∀ [McuCore K] {L : Type*} [ServerSocketListener L] (y : ServerSocket (HostNetwork K) L),
        y.net.Has y.sockNum x → y.handleCloseWait = y.asked.announceCanRead) := by
  have hx : x.1.Exclusive ∧ EndIsTrue x := by
    refine h.state_invariant (I := fun x => x.1.Exclusive ∧ EndIsTrue x) ?_ ?_ ?_
    · exact ⟨fun _ => rfl, endIsTrue_of_notOpen rfl⟩
    · intro x op r hx hok hr
      exact (endIsTrue_perform hx hr).1 hok
    · rintro x y hx ⟨hmembers, harrives⟩
      exact ⟨hmembers.symm ▸ hx.1, hx.2.arrives (by rw [hmembers]) (by rw [hmembers]) harrives⟩
  refine ⟨hx.2, fun op r hr => ?_, fun r hr hwait => atEnd_of_closeWait hx hr hwait, ?_⟩
  · exact ⟨(endIsTrue_perform hx hr).2, fun hok => ((endIsTrue_perform hx hr).1 hok).2⟩
  · intro hc live waiting _ L _ y hy
    exact handleCloseWait_of_unread hy hx.2 hc live waiting

/-- Two bytes are waiting, and `Recv` is asked for none: the status is half closed from
then on. -/
theorem endIsTrue_counterexample :
    ∃ y z, perform [] (.recv 0) (established80 { unread := [72, 105] }) = some y ∧
      perform [] .socketStatus y.2 = some z ∧ z.1.1 = 0x1C ∧ (stream z.2).unread = [72, 105] ∧
      ¬EndIsTrue z.2 := by
  let y := (perform [] (.recv 0) (established80 { unread := [72, 105] })).get rfl
  let z := (perform [] .socketStatus y.2).get rfl
  refine ⟨y, z, (Option.some_get _).symm, (Option.some_get _).symm, by decide, by decide, ?_⟩
  exact fun h => absurd (h (by decide) (by decide)).1 (by decide)

/-- A connection with two bytes from which one is read. -/
theorem endIsTrue_iff_oneByte :
    ∃ y, perform [] (.recv 1) (established80 { unread := [72, 105] }) = some y ∧
      y.1 = (1, [72]) ∧ EndIsTrue y.2 := by
  let y := (perform [] (.recv 1) (established80 { unread := [72, 105] })).get rfl
  have hy : perform [] (.recv 1) (established80 { unread := [72, 105] }) = some y :=
    (Option.some_get _).symm
  have hrun : Run (perform []) PeerActs (fun x op => ¬ReadsNothing x op) ({}, _) _
      (established80 { unread := [72, 105] }) :=
    run_established80 _ (fun h => absurd h.1 (by decide)) (fun h => absurd h.1 (by decide))
  have hok : ¬ReadsNothing (established80 { unread := [72, 105] }) (.recv 1) :=
    fun h => absurd h.1 (by decide)
  exact ⟨y, hy, by decide, (endIsTrue_iff.{0, 0} (hrun.call hok hy)).1⟩

end HostSocketInfo
end McuNet
