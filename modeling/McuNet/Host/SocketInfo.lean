/-
# A hardware socket on the host

`extras/host/ethernet5500/host_socket_info.h` and
`extras/host/ethernet5500/host_socket_info.cpp`.

On the host a `HostSocketInfo` stands for a hardware socket: it has the file
descriptor of a listener, or of a connection that was accepted from it, or
neither.  The kernel is not part of the sources; `Posix K` has the system calls
that are made of it, on a state `K` of the kernel and of the peers.

A `CHECK` that fails ends the process, which is `none` here.  Among the functions
that can end it is `IsConnectionHalfClosed`, which takes any answer of `recv`
other than one byte or the end of the stream for an error.
-/

import McuNet.Platform.Interface

namespace McuNet

/-- The values of `errno` after `recv` that `RecvInternal` distinguishes. -/
inductive Errno where
  | again
  | wouldBlock
  | intr
  | connReset
  | connAborted
  | notConn
  | other
  deriving DecidableEq, Repr

/-- What `recv` returns: the bytes received, none of them at the end of the
stream, or `-1` and `errno`. -/
inductive Received where
  | bytes (bytes : List UInt8)
  | error (errno : Errno)
  deriving DecidableEq, Repr

/-- The system calls.  A file descriptor is an `int`; those that only report
success or failure return whether they succeeded. -/
class Posix (K : Type*) where
  socket : K → ℤ × K
  setReuse : ℤ → K → Bool × K
  bind : ℤ → UInt16 → K → Bool × K
  fcntlGetFl : ℤ → K → ℤ × K
  fcntlSetFl : ℤ → ℕ → K → Bool × K
  listen : ℤ → K → Bool × K
  accept : ℤ → K → ℤ × K
  recv : ℤ → ℕ → (peek : Bool) → K → Received × K
  send : ℤ → Ptr → ℕ → K → ℤ × K
  shutdownWr : ℤ → K → Bool × K
  close : ℤ → K → K

/-- `HaveFd`. -/
def haveFd (fd : ℤ) : Bool := 0 ≤ fd

/-- `O_NONBLOCK`. -/
def oNonblock : ℕ := 0x800

/-- `PortMap::Lookup`, for the value of the flag `tcp_server_port_map`. -/
def portMapLookup (map : List (UInt16 × UInt16)) (port : UInt16) : UInt16 :=
  (map.lookup port).getD port

/-- `HostSocketInfo`.  `accepted` and `disconnecting` are ghosts: how many
connections were accepted so far, and whether the last one was shut down for
writing. -/
structure HostSocketInfo where
  listenerSocketFd : ℤ := -1
  tcpPort : UInt16 := 0
  mappedTcpPort : UInt16 := 0
  connectionSocketFd : ℤ := -1
  canWriteToConnection : Bool := false
  canReadFromConnection : Bool := false
  accepted : ℕ := 0
  disconnecting : Bool := false
  deriving DecidableEq, Repr

namespace HostSocketInfo

def kStatusClosed : UInt8 := 0
def kStatusListening : UInt8 := 0x14
def kStatusCloseWait : UInt8 := 0x1C
def kStatusEstablished : UInt8 := 0x17

/-- `IsUnused`. -/
def isUnused (s : HostSocketInfo) : Option Bool :=
  if haveFd s.listenerSocketFd then
    if 0 < s.tcpPort ∧ 0 < s.mappedTcpPort ∧ haveFd s.connectionSocketFd = false then some false
    else none
  else if s.tcpPort = 0 ∧ s.mappedTcpPort = 0 then some (!haveFd s.connectionSocketFd)
  else none

/-- `IsTcpListener`. -/
def isTcpListener (s : HostSocketInfo) : Option UInt16 :=
  if haveFd s.listenerSocketFd then if 0 < s.tcpPort then some s.tcpPort else none
  else if s.tcpPort = 0 then some 0 else none

/-- `IsConnected`. -/
def isConnected (s : HostSocketInfo) : Bool := haveFd s.connectionSocketFd

variable {K : Type*} [Posix K]

/-- `CloseConnectionSocket`. -/
def closeConnectionSocket (s : HostSocketInfo) (k : K) : HostSocketInfo × K :=
  ({ s with
      connectionSocketFd := -1
      canReadFromConnection := false
      canWriteToConnection := false },
    if haveFd s.connectionSocketFd then Posix.close s.connectionSocketFd k else k)

/-- `CloseListenerSocket`. -/
def closeListenerSocket (s : HostSocketInfo) (k : K) : HostSocketInfo × K :=
  ({ s with listenerSocketFd := -1, tcpPort := 0, mappedTcpPort := 0 },
    if haveFd s.listenerSocketFd then Posix.close s.listenerSocketFd k else k)

/-- `IsConnectionHalfClosed`. -/
def isConnectionHalfClosed (s : HostSocketInfo) (k : K) : Option (Bool × HostSocketInfo × K) :=
  if haveFd s.connectionSocketFd then
    if s.canReadFromConnection then
      let r := Posix.recv s.connectionSocketFd 1 true k
      match r.1 with
      | .bytes [_] => some (false, s, r.2)
      | .bytes [] => some (true, { s with canReadFromConnection := false }, r.2)
      | _ => none
    else some (true, s, k)
  else some (false, s, k)

/-- `AcceptConnection`. -/
def acceptConnection (s : HostSocketInfo) (k : K) : Bool × HostSocketInfo × K :=
  if haveFd s.listenerSocketFd then
    let r := Posix.accept s.listenerSocketFd k
    if haveFd r.1 then
      let c := closeListenerSocket { s with connectionSocketFd := r.1 } r.2
      (true,
        { c.1 with
          canWriteToConnection := true
          canReadFromConnection := true
          accepted := s.accepted + 1
          disconnecting := false }, c.2)
    else (false, { s with connectionSocketFd := r.1 }, r.2)
  else (false, s, k)

/-- `SocketStatus` when the socket is neither unused nor still listening. -/
def connectionStatus (s : HostSocketInfo) (k : K) : Option (UInt8 × HostSocketInfo × K) :=
  if s.isConnected then
    (isConnectionHalfClosed s k).map fun r =>
      (if r.1 then kStatusCloseWait else kStatusEstablished, r.2)
  else some (kStatusClosed, s, k)

/-- `SocketStatus`, which accepts a pending connection. -/
def socketStatus (s : HostSocketInfo) (k : K) : Option (UInt8 × HostSocketInfo × K) :=
  match isUnused s, isTcpListener s with
  | none, _ => none
  | some true, _ => some (kStatusClosed, s, k)
  | some false, none => none
  | some false, some port =>
    if port ≠ 0 then
      let a := acceptConnection s k
      if a.1 then connectionStatus a.2.1 a.2.2 else some (kStatusListening, a.2)
    else connectionStatus s k

/-- `SetNonBlocking`. -/
def setNonBlocking (fd : ℤ) (k : K) : Bool × K :=
  let flags := Posix.fcntlGetFl fd k
  if flags.1 < 0 then (false, flags.2)
  else if flags.1.toNat &&& oNonblock ≠ 0 then (true, flags.2)
  else Posix.fcntlSetFl fd (flags.1.toNat ||| oNonblock) flags.2

/-- `InitializeTcpListener` from the creation of the listener on.  When the
listener cannot be made non-blocking it is not closed. -/
def openListener (newTcpPort mappedTcpPort : UInt16) (s : HostSocketInfo) (k : K) :
    Bool × HostSocketInfo × K :=
  let fd := Posix.socket k
  let s := { s with listenerSocketFd := fd.1 }
  if haveFd fd.1 then
    let reuse := Posix.setReuse fd.1 fd.2
    if reuse.1 then
      let bound := Posix.bind fd.1 mappedTcpPort reuse.2
      if bound.1 then
        let nonBlocking := setNonBlocking fd.1 bound.2
        if nonBlocking.1 then
          let listening := Posix.listen fd.1 nonBlocking.2
          if listening.1 then
            (true, { s with tcpPort := newTcpPort, mappedTcpPort := mappedTcpPort }, listening.2)
          else (false, closeListenerSocket s listening.2)
        else (false, s, nonBlocking.2)
      else (false, closeListenerSocket s bound.2)
    else (false, closeListenerSocket s reuse.2)
  else (false, s, fd.2)

/-- `InitializeTcpListener`. -/
def initializeTcpListener (portMap : List (UInt16 × UInt16)) (newTcpPort : UInt16)
    (s : HostSocketInfo) (k : K) : Bool × HostSocketInfo × K :=
  let mappedTcpPort := portMapLookup portMap newTcpPort
  let c := closeConnectionSocket s k
  if haveFd s.listenerSocketFd then
    if s.tcpPort = newTcpPort then (true, c)
    else
      let c := closeListenerSocket c.1 c.2
      openListener newTcpPort mappedTcpPort c.1 c.2
  else openListener newTcpPort mappedTcpPort c.1 c.2

/-- `DisconnectConnectionSocket`. -/
def disconnectConnectionSocket (s : HostSocketInfo) (k : K) : Bool × HostSocketInfo × K :=
  if haveFd s.connectionSocketFd then
    let r := Posix.shutdownWr s.connectionSocketFd k
    (r.1, { s with disconnecting := true }, r.2)
  else (false, s, k)

/-- `Send`. -/
def send (buf : Ptr) (len : ℕ) (s : HostSocketInfo) (k : K) : ℤ × K :=
  if haveFd s.connectionSocketFd then Posix.send s.connectionSocketFd buf len k else (-1, k)

/-- `RecvInternal`, with the bytes that it puts into the buffer. -/
def recvInternal (len : ℕ) (peek : Bool) (s : HostSocketInfo) (k : K) :
    Option ((ℤ × List UInt8) × HostSocketInfo × K) :=
  if haveFd s.connectionSocketFd then
    if s.canReadFromConnection then
      let r := Posix.recv s.connectionSocketFd len peek k
      match r.1 with
      | .bytes [] => some ((0, []), { s with canReadFromConnection := false }, r.2)
      | .bytes bytes => some ((bytes.length, bytes), s, r.2)
      | .error .again | .error .wouldBlock | .error .intr => some ((-1, []), s, r.2)
      | .error .connReset | .error .connAborted | .error .notConn =>
        some ((-1, []), closeConnectionSocket s r.2)
      | .error .other => none
    else some ((-1, []), s, k)
  else some ((-1, []), s, k)

/-- `AvailableBytes`. -/
def availableBytes (s : HostSocketInfo) (k : K) : Option (ℤ × HostSocketInfo × K) :=
  (recvInternal 1000 true s k).map fun r =>
    (if 0 ≤ r.1.1 then r.1.1
      else if r.2.1.canReadFromConnection || r.2.1.canWriteToConnection then 0 else -1, r.2)

/-- `Peek`, which takes the byte out of the stream. -/
def peek (s : HostSocketInfo) (k : K) : Option (ℤ × HostSocketInfo × K) :=
  (recvInternal 1 false s k).map fun r =>
    (match r.1.2 with
      | [b] => b.toNat
      | _ => -1, r.2)

/-- `Recv`. -/
def recv (len : ℕ) : HostSocketInfo → K → Option ((ℤ × List UInt8) × HostSocketInfo × K) :=
  recvInternal len false

/-! ### What a call that receives does -/

/-- A connection that is taken to be readable. -/
def Readable (s : HostSocketInfo) : Prop :=
  haveFd s.connectionSocketFd = true ∧ s.canReadFromConnection = true

/-- **The ways in which `RecvInternal` returns.** -/
inductive RecvCase (len : ℕ) (peek : Bool) (s : HostSocketInfo) (k : K) :
    (ℤ × List UInt8) × HostSocketInfo × K → Prop where
  | skipped (h : ¬s.Readable) : RecvCase len peek s k ((-1, []), s, k)
  | ended (h : s.Readable) (eof : (Posix.recv s.connectionSocketFd len peek k).1 = .bytes []) :
      RecvCase len peek s k ((0, []), { s with canReadFromConnection := false },
        (Posix.recv s.connectionSocketFd len peek k).2)
  | got {b bs} (h : s.Readable)
      (some : (Posix.recv s.connectionSocketFd len peek k).1 = .bytes (b :: bs)) :
      RecvCase len peek s k (((b :: bs).length, b :: bs), s,
        (Posix.recv s.connectionSocketFd len peek k).2)
  | blocked {e} (h : s.Readable)
      (error : (Posix.recv s.connectionSocketFd len peek k).1 = .error e)
      (later : e = .again ∨ e = .wouldBlock ∨ e = .intr) :
      RecvCase len peek s k ((-1, []), s, (Posix.recv s.connectionSocketFd len peek k).2)
  | lost {e} (h : s.Readable)
      (error : (Posix.recv s.connectionSocketFd len peek k).1 = .error e)
      (broken : e = .connReset ∨ e = .connAborted ∨ e = .notConn) :
      RecvCase len peek s k ((-1, []),
        s.closeConnectionSocket (Posix.recv s.connectionSocketFd len peek k).2)

theorem recvInternal_cases {len : ℕ} {peek : Bool} {s : HostSocketInfo} {k : K}
    {r : (ℤ × List UInt8) × HostSocketInfo × K} (h : recvInternal len peek s k = some r) :
    RecvCase len peek s k r := by
  rw [recvInternal] at h
  by_cases hc : haveFd s.connectionSocketFd = true
  · by_cases hread : s.canReadFromConnection = true
    · rw [if_pos hc, if_pos hread] at h
      have hlive : s.Readable := ⟨hc, hread⟩
      cases hr : (Posix.recv s.connectionSocketFd len peek k).1 with
      | bytes bytes =>
        simp only [hr] at h
        cases bytes with
        | nil => exact Option.some.inj h ▸ .ended hlive hr
        | cons b bs => exact Option.some.inj h ▸ .got hlive hr
      | error e =>
        simp only [hr] at h
        cases e with
        | again => exact Option.some.inj h ▸ .blocked hlive hr (by decide)
        | wouldBlock => exact Option.some.inj h ▸ .blocked hlive hr (by decide)
        | intr => exact Option.some.inj h ▸ .blocked hlive hr (by decide)
        | connReset => exact Option.some.inj h ▸ .lost hlive hr (by decide)
        | connAborted => exact Option.some.inj h ▸ .lost hlive hr (by decide)
        | notConn => exact Option.some.inj h ▸ .lost hlive hr (by decide)
        | other => exact absurd h nofun
    · rw [if_pos hc, if_neg hread] at h
      exact Option.some.inj h ▸ .skipped fun hlive => hread hlive.2
  · rw [if_neg hc] at h
    exact Option.some.inj h ▸ .skipped fun hlive => hc hlive.1

/-- **The ways in which `IsConnectionHalfClosed` returns.** -/
inductive HalfClosedCase (s : HostSocketInfo) (k : K) : Bool × HostSocketInfo × K → Prop where
  | notOpen (h : haveFd s.connectionSocketFd = false) : HalfClosedCase s k (false, s, k)
  | known (h : haveFd s.connectionSocketFd = true) (known : s.canReadFromConnection = false) :
      HalfClosedCase s k (true, s, k)
  | byte {b} (h : s.Readable)
      (some : (Posix.recv s.connectionSocketFd 1 true k).1 = .bytes [b]) :
      HalfClosedCase s k (false, s, (Posix.recv s.connectionSocketFd 1 true k).2)
  | ended (h : s.Readable) (eof : (Posix.recv s.connectionSocketFd 1 true k).1 = .bytes []) :
      HalfClosedCase s k (true, { s with canReadFromConnection := false },
        (Posix.recv s.connectionSocketFd 1 true k).2)

theorem isConnectionHalfClosed_returns {s : HostSocketInfo} {k : K}
    {r : Bool × HostSocketInfo × K} (h : s.isConnectionHalfClosed k = some r) :
    HalfClosedCase s k r := by
  rw [isConnectionHalfClosed] at h
  cases hc : haveFd s.connectionSocketFd with
  | false =>
    rw [hc, if_neg Bool.false_ne_true] at h
    exact Option.some.inj h ▸ .notOpen hc
  | true =>
    rw [if_pos hc] at h
    cases hread : s.canReadFromConnection with
    | false =>
      rw [hread, if_neg Bool.false_ne_true] at h
      exact Option.some.inj h ▸ .known hc hread
    | true =>
      rw [if_pos hread] at h
      have hlive : s.Readable := ⟨hc, hread⟩
      dsimp only at h
      cases hr : (Posix.recv s.connectionSocketFd 1 true k).1 with
      | error e =>
        rw [hr] at h
        exact absurd h nofun
      | bytes bytes =>
        rw [hr] at h
        match bytes with
        | [] => exact Option.some.inj h ▸ .ended hlive hr
        | [b] => exact Option.some.inj h ▸ .byte hlive hr
        | _ :: _ :: _ => exact absurd h nofun

/-! ### What the calls do that open a file descriptor -/

/-- The socket with the connection that it accepted instead of its listener. -/
def withConnection (s : HostSocketInfo) (fd : ℤ) : HostSocketInfo :=
  { listenerSocketFd := -1, tcpPort := 0, mappedTcpPort := 0, connectionSocketFd := fd,
    canWriteToConnection := true, canReadFromConnection := true, accepted := s.accepted + 1,
    disconnecting := false }

/-- **What `AcceptConnection` does.** -/
inductive AcceptCase (s : HostSocketInfo) (k : K) : Bool × HostSocketInfo × K → Prop where
  | noListener (h : haveFd s.listenerSocketFd = false) : AcceptCase s k (false, s, k)
  | nothing (h : haveFd s.listenerSocketFd = true)
      (none : haveFd (Posix.accept s.listenerSocketFd k).1 = false) :
      AcceptCase s k (false, { s with connectionSocketFd := (Posix.accept s.listenerSocketFd k).1 },
        (Posix.accept s.listenerSocketFd k).2)
  | accepted (h : haveFd s.listenerSocketFd = true)
      (some : haveFd (Posix.accept s.listenerSocketFd k).1 = true) :
      AcceptCase s k (true, s.withConnection (Posix.accept s.listenerSocketFd k).1,
        Posix.close s.listenerSocketFd (Posix.accept s.listenerSocketFd k).2)

theorem acceptConnection_cases (s : HostSocketInfo) (k : K) :
    AcceptCase s k (s.acceptConnection k) := by
  cases hl : haveFd s.listenerSocketFd with
  | false =>
    have heq : s.acceptConnection k = (false, s, k) := by
      rw [acceptConnection, hl, if_neg Bool.false_ne_true]
    exact heq ▸ .noListener hl
  | true =>
    cases hfd : haveFd (Posix.accept s.listenerSocketFd k).1 with
    | false =>
      have heq : s.acceptConnection k =
          (false, { s with connectionSocketFd := (Posix.accept s.listenerSocketFd k).1 },
            (Posix.accept s.listenerSocketFd k).2) := by
        simp only [acceptConnection, hl, hfd, if_true, Bool.false_eq_true, if_false]
      exact heq ▸ .nothing hl hfd
    | true =>
      have heq : s.acceptConnection k =
          (true, s.withConnection (Posix.accept s.listenerSocketFd k).1,
            Posix.close s.listenerSocketFd (Posix.accept s.listenerSocketFd k).2) := by
        simp only [acceptConnection, closeListenerSocket, hl, hfd, if_true]
        rfl
      exact heq ▸ .accepted hl hfd

/-- `SetNonBlocking` fails for a listener that was created and bound. -/
def FcntlFails (mappedTcpPort : UInt16) (k : K) : Prop :=
  let fd := Posix.socket k
  let reuse := Posix.setReuse fd.1 fd.2
  let bound := Posix.bind fd.1 mappedTcpPort reuse.2
  haveFd fd.1 = true ∧ reuse.1 = true ∧ bound.1 = true ∧ (setNonBlocking fd.1 bound.2).1 = false

/-- The calls that set up a listener change the kernel as `R` allows. -/
structure SetupMoves (R : K → K → Prop) : Prop where
  setReuse : ∀ fd k, R k (Posix.setReuse fd k).2
  bind : ∀ fd port k, R k (Posix.bind fd port k).2
  fcntlGetFl : ∀ fd k, R k (Posix.fcntlGetFl fd k).2
  fcntlSetFl : ∀ fd flags k, R k (Posix.fcntlSetFl fd flags k).2
  listen : ∀ fd k, R k (Posix.listen fd k).2

theorem setupMoves_true : SetupMoves fun _ _ : K => True :=
  ⟨fun _ _ => trivial, fun _ _ _ => trivial, fun _ _ => trivial, fun _ _ _ => trivial,
    fun _ _ => trivial⟩

/-- **How `InitializeTcpListener` ends** once it has called `socket`: with a listener,
or with an error after which it cleans up, unless `fcntl` has failed. -/
inductive OpenCase (R : K → K → Prop) (port mapped : UInt16) (s : HostSocketInfo) (k : K) :
    Bool × HostSocketInfo × K → Prop where
  | noSocket (fails : haveFd (Posix.socket k).1 = false) : OpenCase R port mapped s k
      (false, { s with listenerSocketFd := (Posix.socket k).1 }, (Posix.socket k).2)
  | cleanedUp {k'} (h : haveFd (Posix.socket k).1 = true) (moved : R (Posix.socket k).2 k')
      (other : ¬FcntlFails mapped k) : OpenCase R port mapped s k
        (false, closeListenerSocket { s with listenerSocketFd := (Posix.socket k).1 } k')
  | left {k'} (h : haveFd (Posix.socket k).1 = true) (moved : R (Posix.socket k).2 k')
      (fails : FcntlFails mapped k) : OpenCase R port mapped s k
        (false, { s with listenerSocketFd := (Posix.socket k).1 }, k')
  | listening {k'} (h : haveFd (Posix.socket k).1 = true) (moved : R (Posix.socket k).2 k')
      (other : ¬FcntlFails mapped k) : OpenCase R port mapped s k
        (true, { s with
          listenerSocketFd := (Posix.socket k).1, tcpPort := port, mappedTcpPort := mapped }, k')

section Setup

variable {R : K → K → Prop} (trans : ∀ {a b c}, R a b → R b c → R a c) (hm : SetupMoves R)

include trans hm

theorem setNonBlocking_rel (fd : ℤ) (k : K) : R k (setNonBlocking fd k).2 := by
  simp only [setNonBlocking]
  split_ifs
  · exact hm.fcntlGetFl fd k
  · exact hm.fcntlGetFl fd k
  · exact trans (hm.fcntlGetFl fd k) (hm.fcntlSetFl _ _ _)

theorem openListener_cases (port mapped : UInt16) (s : HostSocketInfo) (k : K) :
    OpenCase R port mapped s k (s.openListener port mapped k) := by
  let fd := Posix.socket k
  let reuse := Posix.setReuse fd.1 fd.2
  let bound := Posix.bind fd.1 mapped reuse.2
  let nonBlocking := setNonBlocking fd.1 bound.2
  have h1 : R fd.2 reuse.2 := hm.setReuse _ _
  have h2 : R fd.2 bound.2 := trans h1 (hm.bind _ _ _)
  have h3 : R fd.2 nonBlocking.2 := trans h2 (setNonBlocking_rel (R := R) trans hm fd.1 bound.2)
  have h4 : R fd.2 (Posix.listen fd.1 nonBlocking.2).2 := trans h3 (hm.listen _ _)
  simp only [openListener]
  split_ifs with hfd hreuse hbound hnon hlisten
  · exact .listening hfd h4 fun hf => Bool.false_ne_true (hf.2.2.2.symm.trans hnon)
  · exact .cleanedUp hfd h4 fun hf => Bool.false_ne_true (hf.2.2.2.symm.trans hnon)
  · exact .left hfd h3 ⟨hfd, hreuse, hbound, Bool.eq_false_of_not_eq_true hnon⟩
  · exact .cleanedUp hfd h2 fun hf => hbound hf.2.2.1
  · exact .cleanedUp hfd h1 fun hf => hreuse hf.2.1
  · exact .noSocket (Bool.eq_false_of_not_eq_true hfd)

end Setup

/-- **What `InitializeTcpListener` does before it calls `socket`.** -/
theorem initializeTcpListener_cases (portMap : List (UInt16 × UInt16)) (port : UInt16)
    (s : HostSocketInfo) (k : K) :
    let c := s.closeConnectionSocket k
    let l := c.1.closeListenerSocket c.2
    let r := s.initializeTcpListener portMap port k
    let mapped := portMapLookup portMap port
    (haveFd s.listenerSocketFd = true ∧ s.tcpPort = port ∧ r = (true, c)) ∨
    (haveFd s.listenerSocketFd = true ∧ s.tcpPort ≠ port ∧
      r = openListener port mapped l.1 l.2) ∨
    (haveFd s.listenerSocketFd = false ∧ r = openListener port mapped c.1 c.2) := by
  simp only [initializeTcpListener]
  split_ifs with hl hport
  · exact .inl ⟨hl, hport, rfl⟩
  · exact .inr (.inl ⟨hl, hport, rfl⟩)
  · exact .inr (.inr ⟨Bool.eq_false_of_not_eq_true hl, rfl⟩)

/-- A new listener changes nothing of a connection. -/
theorem openListener_connection (port mapped : UInt16) (s : HostSocketInfo) (k : K) :
    let r := s.openListener port mapped k
    r.2.1.connectionSocketFd = s.connectionSocketFd ∧ r.2.1.accepted = s.accepted := by
  generalize hr : s.openListener port mapped k = r
  cases hr ▸ openListener_cases (fun _ _ => trivial) setupMoves_true port mapped s k with
  | noSocket _ => exact ⟨rfl, rfl⟩
  | cleanedUp _ _ _ => exact ⟨rfl, rfl⟩
  | left _ _ _ => exact ⟨rfl, rfl⟩
  | listening _ _ _ => exact ⟨rfl, rfl⟩

/-- **`InitializeTcpListener` closes the connection.** -/
theorem initializeTcpListener_connection (portMap : List (UInt16 × UInt16)) (port : UInt16)
    (s : HostSocketInfo) (k : K) :
    let r := s.initializeTcpListener portMap port k
    haveFd r.2.1.connectionSocketFd = false ∧ r.2.1.accepted = s.accepted := by
  intro r
  let c := s.closeConnectionSocket k
  let l := c.1.closeListenerSocket c.2
  rcases s.initializeTcpListener_cases portMap port k with
    ⟨-, -, hr⟩ | ⟨-, -, hr⟩ | ⟨-, hr⟩
  · rw [show r = _ from hr]
    exact ⟨rfl, rfl⟩
  · obtain ⟨hfd, hserial⟩ := openListener_connection port (portMapLookup portMap port) l.1 l.2
    rw [show r = _ from hr]
    exact ⟨congrArg haveFd hfd, hserial⟩
  · obtain ⟨hfd, hserial⟩ := openListener_connection port (portMapLookup portMap port) c.1 c.2
    rw [show r = _ from hr]
    exact ⟨congrArg haveFd hfd, hserial⟩

/-- The ports after a listener was opened, or could not be. -/
theorem openListener_ports (port mapped : UInt16) (s : HostSocketInfo) (k : K) :
    let r := s.openListener port mapped k
    (r.1 = true → r.2.1.tcpPort = port) ∧
      (r.1 = false → (r.2.1.tcpPort = s.tcpPort ∧ r.2.1.mappedTcpPort = s.mappedTcpPort) ∨
        r.2.1.tcpPort = 0) := by
  generalize hr : s.openListener port mapped k = r
  cases hr ▸ openListener_cases (fun _ _ => trivial) setupMoves_true port mapped s k with
  | noSocket _ => exact ⟨fun h => absurd h Bool.false_ne_true, fun _ => .inl ⟨rfl, rfl⟩⟩
  | cleanedUp _ _ _ => exact ⟨fun h => absurd h Bool.false_ne_true, fun _ => .inr rfl⟩
  | left _ _ _ => exact ⟨fun h => absurd h Bool.false_ne_true, fun _ => .inl ⟨rfl, rfl⟩⟩
  | listening _ _ _ => exact ⟨fun _ => rfl, fun h => absurd h.symm Bool.false_ne_true⟩

/-- **The ports after `InitializeTcpListener`.** -/
theorem initializeTcpListener_ports (portMap : List (UInt16 × UInt16)) (port : UInt16)
    (s : HostSocketInfo) (k : K) :
    let r := s.initializeTcpListener portMap port k
    (r.1 = true → r.2.1.tcpPort = port) ∧
      (r.1 = false → (r.2.1.tcpPort = s.tcpPort ∧ r.2.1.mappedTcpPort = s.mappedTcpPort) ∨
        r.2.1.tcpPort = 0) := by
  intro r
  let c := s.closeConnectionSocket k
  let l := c.1.closeListenerSocket c.2
  rcases s.initializeTcpListener_cases portMap port k with
    ⟨-, hport, hr⟩ | ⟨-, -, hr⟩ | ⟨-, hr⟩
  · rw [show r = _ from hr]
    exact ⟨fun _ => hport, fun h => absurd h.symm Bool.false_ne_true⟩
  · obtain ⟨hyes, hno⟩ := openListener_ports port (portMapLookup portMap port) l.1 l.2
    rw [show r = _ from hr]
    exact ⟨hyes, fun h => .inr ((hno h).elim And.left id)⟩
  · rw [show r = _ from hr]
    exact openListener_ports port (portMapLookup portMap port) c.1 c.2

end HostSocketInfo
end McuNet
