/-
# The Ethernet servers of the host

`extras/host/ethernet5500/ethernet_server.h`,
`extras/host/ethernet5500/ethernet_server.cpp` and `EthernetClient::stop`.

An `EthernetServer` has a port and nothing else.  What it does is a program over the
calls of the network and the table `_server_port`; peers act between any two calls.
The table is written when a server sets a socket to listen, and never cleared, so a
socket that is closed and set to listen by a `ServerSocket` keeps the entry of the
Ethernet server that had it before.

This module has the programs, and what is known at each point of them as long as the
table is right (`safe_available`).
-/

import McuNet.Core.Interleaving
import McuNet.Host.EthernetHost
import McuNet.Host.StreamKernel

namespace McuNet

/-- What an `EthernetServer` calls.  `listen` is `InitializeTcpListenerSocket` together
with the entry of the table when it succeeds. -/
inductive ServerOp where
  | findUnusedSocket
  | listen (sockNum : UInt8) (port : UInt16)
  | serverPort (sockNum : UInt8)
  | status (sockNum : UInt8)
  | acceptConnection (sockNum : UInt8)
  | available (sockNum : UInt8)
  | stop (sockNum : UInt8)
  deriving DecidableEq, Repr

namespace EthernetServer

/-- `begin`. -/
def begin (port : UInt16) : Program ServerOp ℤ Unit :=
  .call .findUnusedSocket fun sockNum =>
    if 0 ≤ sockNum then .call (.listen (UInt8.ofNat sockNum.toNat) port) fun _ => .done ()
    else .done ()

/-- The loop of `accept`, from some socket number on; whether one of them listens. -/
def acceptIn (port : UInt16) : List UInt8 → Bool → Program ServerOp ℤ Bool
  | [], listening => .done listening
  | n :: rest, listening =>
    .call (.serverPort n) fun serverPort =>
      if serverPort = port.toNat then
        .call (.status n) fun status =>
          if status = SnSR.listen.toNat then
            .call (.acceptConnection n) fun _ => acceptIn port rest true
          else if status = SnSR.closeWait.toNat then
            .call (.available n) fun available =>
              if available = 0 then .call (.stop n) fun _ => acceptIn port rest listening
              else acceptIn port rest listening
          else acceptIn port rest listening
      else acceptIn port rest listening

/-- The hardware sockets. -/
def sockNums : List UInt8 := (List.range maxSockNum.toNat).map UInt8.ofNat

/-- `accept`. -/
def accept (port : UInt16) : Program ServerOp ℤ Unit :=
  (acceptIn port sockNums false).bind fun listening =>
    if listening then .done () else begin port

/-- The loop of `available`, from some socket number on.  The client for a socket is
its number. -/
def availableIn (port : UInt16) : List UInt8 → Program ServerOp ℤ UInt8
  | [] => .done maxSockNum
  | n :: rest =>
    let serve : Program ServerOp ℤ UInt8 :=
      .call (.available n) fun available =>
        if available = 0 then availableIn port rest else .done n
    .call (.serverPort n) fun serverPort =>
      if serverPort = port.toNat then
        .call (.status n) fun status =>
          if status = SnSR.established.toNat then serve
          else
            .call (.status n) fun status =>
              if status = SnSR.closeWait.toNat then serve else availableIn port rest
      else availableIn port rest

/-- `available`. -/
def available (port : UInt16) : Program ServerOp ℤ UInt8 :=
  (accept port).bind fun _ => availableIn port sockNums

end EthernetServer

open EthernetHost

variable {K : Type*} [Posix K]

/-- One call. -/
def ServerOp.run (op : ServerOp) (w : EthernetHost K) : ℤ × EthernetHost K :=
  match op with
  | .findUnusedSocket => through HostNetwork.findUnusedSocket w
  | .listen n port =>
    let r := through (HostNetwork.initializeTcpListenerSocket n port) w
    if r.1 then (1, { r.2 with serverPort := Function.update r.2.serverPort n port }) else (0, r.2)
  | .serverPort n => ((w.serverPort n).toNat, w)
  | .status n =>
    let r := through (HostNetwork.socketStatus n) w
    (r.1.toNat, r.2)
  | .acceptConnection n =>
    let r := through (HostNetwork.acceptConnection n) w
    (if r.1 then 1 else 0, r.2)
  | .available n => through (HostNetwork.availableBytes n) w
  | .stop n =>
    let r := through (HostNetwork.closeSocket n) w
    (if r.1 then 1 else 0, r.2)

/-- One call, unless it ends the process. -/
def ServerOp.handle (op : ServerOp) (w : EthernetHost K) : Option (ℤ × EthernetHost K) :=
  let r := op.run w
  if r.2.network.aborted then none else some r

namespace EthernetHost

/-- The members of a socket and the kernel. -/
def socket (w : EthernetHost K) (n : UInt8) : HostSocketInfo × K :=
  (w.network.sockets n, w.network.kernel)

/-- The socket has a connection. -/
def IsOpen (w : EthernetHost K) (n : UInt8) : Prop :=
  haveFd (w.socket n).1.connectionSocketFd = true

/-- **The socket has a connection that was accepted on this port.** -/
structure AcceptedFor (w : EthernetHost K) (port : UInt16) (n : UInt8) : Prop where
  isOpen : w.IsOpen n
  port : w.acceptedOn n = port

/-- If it listens, it has its port. -/
def HasPort (w : EthernetHost K) (n : UInt8) : Prop :=
  haveFd (w.socket n).1.listenerSocketFd = true → (w.socket n).1.tcpPort ≠ 0

end EthernetHost

/-! ### One call -/

namespace ServerOp

open HostSocketInfo

variable {w : EthernetHost K} {n : UInt8} {r : ℤ × EthernetHost K}

omit [Posix K] in
/-- A call that goes on was passed on to the socket. -/
theorem done_of_live {α : Type*} (default : α) (hn : n < HostNetwork.kMaxSockets)
    {f : HostSocketInfo → K → Option (α × HostSocketInfo × K)} {v : HostNetwork K}
    (live : (HostNetwork.onSocket default n f v).2.aborted = false) :
    ∃ q, f (v.sockets n) v.kernel = some q ∧ HostNetwork.onSocket default n f v =
      (q.1, { v with kernel := q.2.2, sockets := Function.update v.sockets n q.2.1 }) := by
  generalize hr : HostNetwork.onSocket default n f v = r at live
  cases hr ▸ HostNetwork.onSocket_passed default n f v with
  | skipped skip =>
    rcases skip with aborted | above
    · exact absurd (aborted.symm.trans live) nofun
    · rw [UInt8.lt_iff_toNat_lt] at hn above
      omega
  | ended => exact absurd live nofun
  | done _ _ result => exact ⟨_, result, rfl⟩

theorem run_of_handle {op : ServerOp} (h : op.handle w = some r) :
    op.run w = r ∧ r.2.network.aborted = false := by
  unfold handle at h
  dsimp only at h
  split_ifs at h with habort
  obtain rfl := Option.some.inj h
  exact ⟨rfl, Bool.eq_false_of_not_eq_true habort⟩

omit [Posix K] in
/-- The socket after a call that was passed on to it and goes on. -/
theorem socket_of_through {α : Type*} (default : α) (hn : n < HostNetwork.kMaxSockets)
    {f : HostSocketInfo → K → Option (α × HostSocketInfo × K)}
    (live : (through (HostNetwork.onSocket default n f) w).2.network.aborted = false) :
    ∃ q, f (w.socket n).1 (w.socket n).2 = some q ∧
      (through (HostNetwork.onSocket default n f) w).1 = q.1 ∧
      (through (HostNetwork.onSocket default n f) w).2.socket n = q.2 := by
  obtain ⟨q, hq, hdone⟩ := done_of_live default hn live
  refine ⟨q, hq, ?_, ?_⟩
  · rw [through, hdone]
  · rw [through, socket, hdone]
    dsimp only
    rw [Function.update_self]

/-- **A status read.**  An open status is that of a connection, and a listener that is
left has its port. -/
theorem status_spec (hn : n < HostNetwork.kMaxSockets) (hr : (status n).handle w = some r) :
    ((r.1 = SnSR.established.toNat ∨ r.1 = SnSR.closeWait.toNat) → r.2.IsOpen n) ∧
      r.2.HasPort n := by
  obtain ⟨rfl, live⟩ := run_of_handle hr
  obtain ⟨q, hq, hvalue, hsocket⟩ := socket_of_through kStatusClosed hn live
  obtain ⟨hopen, hport⟩ := socketStatus_open hq
  have hstatus : (through (HostNetwork.socketStatus n) w).1 = q.1 := hvalue
  have hself : (through (HostNetwork.socketStatus n) w).2.socket n = q.2 := hsocket
  simp only [run, EthernetHost.IsOpen, HasPort, hstatus, hself]
  refine ⟨fun h => hopen ?_, hport⟩
  rcases h with h | h
  · exact .inl (UInt8.toNat_inj.1 (Int.ofNat_inj.1 h))
  · exact .inr (UInt8.toNat_inj.1 (Int.ofNat_inj.1 h))

section Stream

variable [StreamKernel K]

/-- The connection was reset, which the next `recv` finds. -/
def Lost (x : HostSocketInfo × K) : Prop := x.1.Readable ∧ (stream x).broken = true

/-- **The count of available bytes** for an open connection: none, or some that are there,
or the connection was reset. -/
theorem availableBytes_open {x : HostSocketInfo × K}
    (hc : haveFd x.1.connectionSocketFd = true) (hwrite : x.1.canWriteToConnection = true)
    {r : ℤ × HostSocketInfo × K} (hr : x.1.availableBytes x.2 = some r) :
    (r.1 = 0 ∧ haveFd r.2.1.connectionSocketFd = true) ∨
    (0 < r.1 ∧ haveFd r.2.1.connectionSocketFd = true ∧ (stream r.2).unread ≠ []) ∨
    (r.1 = -1 ∧ Lost x) := by
  obtain ⟨q, hq, hcase⟩ := availableBytes_stream x
  obtain rfl := Option.some.inj (hq.symm.trans hr)
  cases hcase with
  | some waits after =>
    have hlen := List.length_pos_iff.2 waits.2.2
    refine .inr (.inl ⟨?_, hc, ?_⟩)
    · rw [List.length_take]
      omega
    · exact fun hnil => waits.2.2 ((congrArg Incoming.unread after).symm.trans hnil)
  | none _ same _ zero => exact .inl ⟨zero hwrite, (congrArg haveFd same).trans hc⟩
  | lost hread broken => exact .inr (.inr ⟨rfl, hread, broken⟩)

/-- **`available` of a client** for a socket with a connection. -/
theorem available_spec (hn : n < HostNetwork.kMaxSockets) (hbound : w.Bound) (hopen : w.IsOpen n)
    (hr : (available n).handle w = some r) :
    (r.1 = 0 ∧ r.2.IsOpen n) ∨
    (r.1 ≠ 0 ∧ r.2.IsOpen n ∧ (stream (r.2.socket n)).unread ≠ []) ∨ Lost (w.socket n) := by
  obtain ⟨rfl, live⟩ := run_of_handle hr
  obtain ⟨q, hq, hvalue, hself⟩ := socket_of_through (-1 : ℤ) hn live
  have havailable : (through (HostNetwork.availableBytes n) w).1 = q.1 := hvalue
  have hsocket : (through (HostNetwork.availableBytes n) w).2.socket n = q.2 := hself
  simp only [run, EthernetHost.IsOpen, havailable, hsocket]
  rcases availableBytes_open hopen ((hbound n).writable hopen) hq with h | h | ⟨-, h⟩
  · exact .inl h
  · exact .inr (.inl ⟨h.1.ne', h.2⟩)
  · exact .inr (.inr h)

end Stream

/-! ### The table -/

section Table

variable [McuCore K]

/-- What the sockets' ports allow, every call keeps but `listen`, and `AcceptConnection`
unless the socket has its port. -/
theorem moves_of_handle {R : EthernetHost K → EthernetHost K → Prop} (hR : PortMoves R)
    {op : ServerOp} (hr : op.handle w = some r) (hlisten : ∀ n port, op ≠ .listen n port)
    (haccept : ∀ n, op = .acceptConnection n → w.HasPort n) : R w r.2 := by
  obtain ⟨rfl, -⟩ := run_of_handle hr
  cases op with
  | findUnusedSocket => exact hR.quietMoves.findUnusedSocket w
  | listen n port => exact absurd rfl (hlisten n port)
  | serverPort n => exact hR.refl w
  | status n => exact hR.quietMoves.socketStatus n w
  | acceptConnection n =>
    refine hR.through (portStep_onSocket _ n _ fun q hq => ?_)
    obtain rfl := Option.some.inj hq
    exact portStep_acceptConnection (haccept n rfl)
  | available n => exact (hR.quietMoves.ethernetClient n).available w
  | stop n => exact hR.quietMoves.closeSocket n w

/-- Only `listen` and `AcceptConnection` could make the table wrong. -/
theorem keepsBound_of_handle {op : ServerOp} (hr : op.handle w = some r)
    (hlisten : ∀ n port, op ≠ .listen n port)
    (haccept : ∀ n, op = .acceptConnection n → w.HasPort n) : KeepsBound w r.2 :=
  moves_of_handle portMoves_bound hr hlisten haccept

omit [McuCore K] in
/-- **A server notes what it sets a socket to listen for.** -/
theorem bound_listen {port : UInt16} (hr : (listen n port).handle w = some r) (hw : w.Bound) :
    r.2.Bound := by
  obtain ⟨rfl, -⟩ := run_of_handle hr
  simp only [run]
  generalize hset : through (HostNetwork.initializeTcpListenerSocket n port) w = q
  have hsame : q.2.serverPort = w.serverPort := hset ▸ rfl
  split_ifs with hq
  · rw [hsame]
    exact hw.listen hset (.inl ⟨hq, rfl⟩)
  · have hbound := hw.listen hset (.inr ⟨rfl, .inl (Bool.eq_false_of_not_eq_true hq)⟩)
    rw [Function.update_eq_self, ← hsame] at hbound
    exact hbound

end Table

end ServerOp

/-! ### The programs -/

namespace EthernetServer

open HostSocketInfo ServerOp Program

variable [StreamKernel K]

/-- Between two calls peers act, and nothing else. -/
def PeersAct (w w' : EthernetHost K) : Prop :=
  ∃ k, PeersSend w.network.kernel k ∧ w' = { w with network := { w.network with kernel := k } }

/-- The surroundings of a server for `port`.  No connection is reset between the status
that says that it is open and the count of its bytes; and `stop` is meant for connections
of this port. -/
def around (port : UInt16) : Surroundings ServerOp ℤ (EthernetHost K) where
  handle := ServerOp.handle
  outside := PeersAct
  refl w := ⟨w.network.kernel, fun _ => .refl _, rfl⟩
  trans := by
    rintro w _ _ ⟨k, hk, rfl⟩ ⟨k', hk', rfl⟩
    exact ⟨k', fun fd => (hk fd).trans (hk' fd), rfl⟩
  may op w := ∀ n, op = .available n → ¬Lost (w.socket n)
  promised op w := ∀ n, op = .stop n → w.AcceptedFor port n

/-- A server has found the table to have its port for the socket. -/
structure Serves (port : UInt16) (n : UInt8) (w : EthernetHost K) : Prop where
  bound : w.Bound
  entry : w.serverPort n = port

variable {port : UInt16} {n : UInt8} {w : EthernetHost K}

omit [Posix K] [StreamKernel K] in
/-- A connection of a socket that the table has for the port was accepted on it. -/
theorem Serves.acceptedFor (h : Serves port n w) (hport : port ≠ 0) (hopen : w.IsOpen n) :
    w.AcceptedFor port n where
  isOpen := hopen
  port := by
    have hentry : w.serverPort n ≠ 0 := h.entry.symm ▸ hport
    exact ((h.bound n).connected hentry hopen).trans h.entry

/-- What peers do changes no members. -/
theorem stable_of_sockets {P : EthernetHost K → Prop}
    (h : ∀ (w : EthernetHost K) k, P w → P { w with network := { w.network with kernel := k } }) :
    Safe.Stable (around (K := K) port) P := by
  rintro w _ hw ⟨k, -, rfl⟩
  exact h w k hw

theorem stable_bound : Safe.Stable (around (K := K) port) Bound :=
  stable_of_sockets fun _ _ h => h

theorem stable_serves : Safe.Stable (around (K := K) port) (Serves port n) :=
  stable_of_sockets fun _ _ h => ⟨h.bound, h.entry⟩

theorem stable_serves_open :
    Safe.Stable (around (K := K) port) fun w => Serves port n w ∧ w.IsOpen n :=
  stable_of_sockets fun _ _ h => ⟨⟨h.1.bound, h.1.entry⟩, h.2⟩

variable [McuCore K]

omit [StreamKernel K] in
/-- What a server has found stays so over a call that sets no socket to listen. -/
theorem Serves.handle (h : Serves port n w) {op : ServerOp} {r : ℤ × EthernetHost K}
    (hr : op.handle w = some r) (hlisten : ∀ n port, op ≠ .listen n port)
    (haccept : ∀ n, op ≠ .acceptConnection n) : Serves port n r.2 := by
  obtain ⟨hsame, hkept⟩ :=
    keepsBound_of_handle hr hlisten fun m hm => absurd hm (haccept m)
  exact ⟨hkept h.bound, hsame ▸ h.entry⟩

/-- **`begin` keeps the table right.** -/
theorem safe_begin (hw : w.Bound) : (begin port).Safe (around port) (fun _ w => w.Bound) w := by
  refine Safe.of_call stable_bound hw nofun fun t r ht _ hr => ?_
  have hfound := (keepsBound_of_handle hr nofun nofun).2 ht
  split_ifs
  · refine Safe.of_call stable_bound hfound nofun fun u q hu _ hq => ?_
    exact Safe.of_done stable_bound (bound_listen hq hu)
  · exact Safe.of_done stable_bound hfound

omit [McuCore K] in
/-- Reading the table: the rest of a loop is for a socket of this port, or goes on. -/
theorem safe_entry {α : Type*} {Q : α → EthernetHost K → Prop} {mine other : Program ServerOp ℤ α}
    (hw : w.Bound) (hmine : ∀ t, Serves port n t → mine.Safe (around port) Q t)
    (hother : ∀ t, t.Bound → other.Safe (around port) Q t) :
    (Program.call (ServerOp.serverPort n) fun serverPort : ℤ =>
      if serverPort = port.toNat then mine else other).Safe (around port) Q w := by
  refine Safe.of_call stable_bound hw nofun fun t r ht _ hr => ?_
  obtain ⟨rfl, -⟩ := run_of_handle hr
  split_ifs with hentry
  · exact hmine t ⟨ht, UInt16.toNat_inj.1 (Int.ofNat_inj.1 hentry)⟩
  · exact hother t ht

/-- **The loop of `accept`.** -/
theorem safe_acceptIn (hport : port ≠ 0) {l : List UInt8}
    (hl : ∀ n ∈ l, n < HostNetwork.kMaxSockets) (listening : Bool) (hw : w.Bound) :
    (acceptIn port l listening).Safe (around port) (fun _ w => w.Bound) w := by
  induction l generalizing listening w with
  | nil => exact Safe.of_done stable_bound hw
  | cons n rest ih =>
    have hn : n < HostNetwork.kMaxSockets := hl n List.mem_cons_self
    have hrest : ∀ (b : Bool) (t : EthernetHost K), t.Bound →
        (acceptIn port rest b).Safe (around port) (fun _ w => w.Bound) t :=
      fun b t ht => ih (fun m hm => hl m (List.mem_cons_of_mem _ hm)) b ht
    refine safe_entry hw (fun t ht => ?_) (hrest listening)
    -- the status read
    refine Safe.of_call stable_serves ht nofun fun t r ht _ hr => ?_
    obtain ⟨hopen, hlistener⟩ := status_spec hn hr
    have hserves : Serves port n r.2 := ht.handle hr nofun nofun
    split_ifs with hlisten hwait
    · -- a listener accepts
      have hstable : Safe.Stable (around (K := K) port) fun w => w.Bound ∧ w.HasPort n :=
        stable_of_sockets fun _ _ h => h
      refine Safe.of_call hstable ⟨hserves.bound, hlistener⟩ nofun fun t q ht _ hq => ?_
      have hkept := keepsBound_of_handle hq nofun fun m hm => by
        obtain rfl := ServerOp.acceptConnection.inj hm
        exact ht.2
      exact hrest true q.2 (hkept.2 ht.1)
    · -- the connection is half closed
      refine Safe.of_call stable_serves_open ⟨hserves, hopen (.inr hwait)⟩ nofun
        fun t q ht hmay hq => ?_
      have hserves : Serves port n q.2 := ht.1.handle hq nofun nofun
      split_ifs with hzero
      · have hopen : q.2.IsOpen n := by
          rcases available_spec hn ht.1.bound ht.2 hq with h | h | h
          · exact h.2
          · exact h.2.1
          · exact absurd h (hmay n rfl)
        refine Safe.of_call stable_serves_open ⟨hserves, hopen⟩ ?_ fun t p ht _ hp => ?_
        · rintro t ht m hm
          obtain rfl := ServerOp.stop.inj hm
          exact ht.1.acceptedFor hport ht.2
        · exact hrest listening p.2 (ht.1.handle hp nofun nofun).bound
      · exact hrest listening q.2 hserves.bound
    · exact hrest listening r.2 hserves.bound

theorem lt_of_mem_sockNums : ∀ n ∈ sockNums, n < HostNetwork.kMaxSockets := by
  decide +kernel

/-- **`accept` keeps the table right**, and stops only connections of its port. -/
theorem safe_accept (hport : port ≠ 0) (hw : w.Bound) :
    (accept port).Safe (around port) (fun _ w => w.Bound) w := by
  refine (safe_acceptIn hport lt_of_mem_sockNums false hw).bind fun listening t ht => ?_
  split_ifs
  · exact Safe.of_done stable_bound ht
  · exact safe_begin ht

/-- **The client that `available` returns** is for a connection of its port with an unread
byte, or for no socket. -/
def HandsOut (port : UInt16) (n : UInt8) (w : EthernetHost K) : Prop :=
  w.Bound ∧ (n < maxSockNum → w.AcceptedFor port n ∧ (stream (w.socket n)).unread ≠ [])

omit [McuCore K] in
theorem stable_handsOut : Safe.Stable (around (K := K) port) (HandsOut port n) := by
  rintro w _ ⟨hbound, hclient⟩ ⟨k, hk, rfl⟩
  refine ⟨hbound, fun hn => ?_⟩
  obtain ⟨haccepted, hunread⟩ := hclient hn
  have harrives := (hk (w.socket n).1.connectionSocketFd).unread
  exact ⟨⟨haccepted.isOpen, haccepted.port⟩, fun hnil => hunread (List.prefix_nil.1 (hnil ▸ harrives))⟩

/-- **The loop of `available`.** -/
theorem safe_availableIn (hport : port ≠ 0) {l : List UInt8}
    (hl : ∀ n ∈ l, n < HostNetwork.kMaxSockets) (hw : w.Bound) :
    (availableIn port l).Safe (around port) (HandsOut port) w := by
  induction l generalizing w with
  | nil => exact Safe.of_done stable_handsOut ⟨hw, fun h => absurd h (by decide)⟩
  | cons n rest ih =>
    have hn : n < HostNetwork.kMaxSockets := hl n List.mem_cons_self
    have hrest : ∀ t : EthernetHost K, t.Bound →
        (availableIn port rest).Safe (around port) (HandsOut port) t :=
      fun t ht => ih (fun m hm => hl m (List.mem_cons_of_mem _ hm)) ht
    -- an open connection is handed out if something is available
    have hserve : ∀ t : EthernetHost K, Serves port n t → t.IsOpen n →
        (Program.call (ServerOp.available n) fun available : ℤ =>
          if available = 0 then availableIn port rest else .done n).Safe (around port)
            (HandsOut port) t := by
      intro t ht hopen
      refine Safe.of_call stable_serves_open ⟨ht, hopen⟩ nofun fun t r ht hmay hr => ?_
      have hserves : Serves port n r.2 := ht.1.handle hr nofun nofun
      split_ifs with hzero
      · exact hrest r.2 hserves.bound
      · rcases available_spec hn ht.1.bound ht.2 hr with h | h | h
        · exact absurd h.1 hzero
        · exact Safe.of_done stable_handsOut
            ⟨hserves.bound, fun _ => ⟨hserves.acceptedFor hport h.2.1, h.2.2⟩⟩
        · exact absurd h (hmay n rfl)
    refine safe_entry hw (fun t ht => ?_) hrest
    refine Safe.of_call stable_serves ht nofun fun t r ht _ hr => ?_
    have hserves : Serves port n r.2 := ht.handle hr nofun nofun
    split_ifs with hestablished
    · exact hserve r.2 hserves ((status_spec hn hr).1 (.inl hestablished))
    · -- the second status read
      refine Safe.of_call stable_serves hserves nofun fun t q ht _ hq => ?_
      have hserves : Serves port n q.2 := ht.handle hq nofun nofun
      split_ifs with hwait
      · exact hserve q.2 hserves ((status_spec hn hq).1 (.inr hwait))
      · exact hrest q.2 hserves.bound

/-- **`available`.** -/
theorem safe_available (hport : port ≠ 0) (hw : w.Bound) :
    (available port).Safe (around port) (HandsOut port) w :=
  (safe_accept hport hw).bind fun _ _ ht => safe_availableIn hport lt_of_mem_sockNums ht

end EthernetServer
end McuNet
