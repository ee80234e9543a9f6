/-
# Ethernet servers and server sockets on one network

`extras/host/ethernet5500/ethernet_server.cpp`, `src/server_socket.cpp` and
`extras/host/ethernet5500/host_network.cpp`.

Any number of Ethernet servers and of server sockets share the eight hardware sockets of
a `HostNetwork`.  One function runs at a time: a call of a server socket, the `stop` of a
client, or a function of an Ethernet server, which is a task; peers act at any moment,
also between two calls of a task.

An Ethernet server takes the table `_server_port` for what its sockets listen for, but a
server socket that sets a socket to listen does not change its entry
(`handsOut_counterexample`).  As long as no server socket takes over a socket that has
an entry for another port, and no connection is reset just before its bytes are
counted, an Ethernet server hands out and stops connections of its own port only
(`handsOut_own`).
-/

import McuNet.Core.Run
import McuNet.Host.EthernetServer
import McuNet.Host.LocalKernel

namespace McuNet

/-- A function of an Ethernet server under way; its value is the client that it returns,
if it returns one. -/
structure Task where
  port : UInt16
  program : Program ServerOp ℤ (Option UInt8)

def Task.begin (port : UInt16) : Task :=
  ⟨port, (EthernetServer.begin port).bind fun _ => .done none⟩

def Task.available (port : UInt16) : Task :=
  ⟨port, (EthernetServer.available port).bind fun n => .done (some n)⟩

/-- Server sockets and Ethernet servers.  The latter have no members but their port. -/
structure Sharing (ι K L : Type*) where
  fleet : Fleet ι (EthernetHost K) L
  task : Option Task := none

/-- What a program does with them.  A function of an Ethernet server is called, proceeds
from call to call, and is finished. -/
inductive SharedOp (ι : Type*) where
  | begin (port : UInt16)
  | available (port : UInt16)
  | proceed
  | finish
  | stop (sockNum : UInt8)
  | call (i : ι) (c : PublicCall)

namespace Sharing

variable {ι K L : Type*}

/-- Nothing has run yet. -/
def start (ports : ι → UInt16) (listeners : ι → L) (portMap : List (UInt16 × UInt16)) (k : K) :
    Sharing ι K L where
  fleet := Fleet.start ports listeners { network := { kernel := k, tcpServerPortMap := portMap } }

/-- The client that `available` returns now, and the port of its server. -/
def returned (x : Sharing ι K L) : Option (UInt16 × UInt8) :=
  match x.task with
  | some ⟨port, .done (some n)⟩ => some (port, n)
  | _ => none

/-- The socket that `accept` is about to stop, and the port of the server. -/
def stopping (x : Sharing ι K L) : Option (UInt16 × UInt8) :=
  match x.task with
  | some ⟨port, .call (.stop n) _⟩ => some (port, n)
  | _ => none

/-- The network is another one. -/
def withNet (x : Sharing ι K L) (w : EthernetHost K) : Sharing ι K L :=
  { x with fleet := { x.fleet with net := w } }

variable [Posix K] [McuCore K] [DecidableEq ι] [ServerSocketListener L]

/-- One step.  The constructor of an Ethernet server checks its port; nothing returns
from a call that ends the process. -/
def exec (op : SharedOp ι) (x : Sharing ι K L) : Option (Unit × Sharing ι K L) :=
  match op, x.task with
  | .begin port, none =>
    if port = 0 then none else some ((), { x with task := some (Task.begin port) })
  | .available port, none =>
    if port = 0 then none else some ((), { x with task := some (Task.available port) })
  | .proceed, some ⟨port, .call op next⟩ =>
    (op.handle x.fleet.net).map fun r => ((), { x.withNet r.2 with task := some ⟨port, next r.1⟩ })
  | .finish, some ⟨_, .done _⟩ => some ((), { x with task := none })
  | .stop n, none => ((ServerOp.stop n).handle x.fleet.net).map fun r => ((), x.withNet r.2)
  | .call i c, none =>
    let f := x.fleet.call i c
    if f.net.network.aborted then none else some ((), { x with fleet := f })
  | _, _ => none

/-- The server socket does not set a hardware socket to listen that the table has for
another port.  An attempt that fails, or that is not made, is no matter. -/
def TakesNoOther (x : Sharing ι K L) (i : ι) (c : PublicCall) : Prop :=
  ∀ y, (x.fleet.server i).Sets c y → y.setToListen.1 = true →
    x.fleet.net.serverPort y.sockNum = 0 ∨ x.fleet.net.serverPort y.sockNum = y.tcpPort

variable [StreamKernel K]

/-- Peers act. -/
def PeersAct (x y : Sharing ι K L) : Prop :=
  ∃ w, EthernetServer.PeersAct x.fleet.net w ∧ y = x.withNet w

/-- No server socket takes over a socket of an Ethernet server, and no connection was
reset when the next call of a task counts its bytes. -/
def Keeps (x : Sharing ι K L) : SharedOp ι → Prop
  | .call i c => x.TakesNoOther i c
  | .proceed => ∀ port n next, x.task = some ⟨port, .call (.available n) next⟩ →
      ¬ServerOp.Lost (x.fleet.net.socket n)
  | _ => True

/-- The table is right, also when the task is done that is under way. -/
def Right (x : Sharing ι K L) : Prop :=
  match x.task with
  | none => x.fleet.net.Bound
  | some t => t.program.Safe (EthernetServer.around t.port)
      (fun a w => w.Bound ∧ ∀ n, a = some n → EthernetServer.HandsOut t.port n w) x.fleet.net

variable {x : Sharing ι K L}

section Task

omit [McuCore K] [DecidableEq ι] [ServerSocketListener L]

theorem right_of_idle (hidle : x.task = none) (h : x.fleet.net.Bound) : x.Right := by
  unfold Right
  rw [hidle]
  exact h

theorem Right.bound_of_idle (h : x.Right) (hidle : x.task = none) : x.fleet.net.Bound := by
  unfold Right at h
  rw [hidle] at h
  exact h

/-- A function of an Ethernet server begins with a table that is right. -/
theorem right_begin [McuCore K] {port : UInt16} (h : x.fleet.net.Bound) :
    Right { x with task := some (Task.begin port) } := by
  refine (EthernetServer.safe_begin h).bind fun _ t ht => ?_
  refine Program.Safe.of_done ?_ ⟨ht, nofun⟩
  exact EthernetServer.stable_of_sockets fun _ _ h => ⟨h.1, nofun⟩

theorem right_available [McuCore K] {port : UInt16} (hport : port ≠ 0) (h : x.fleet.net.Bound) :
    Right { x with task := some (Task.available port) } := by
  refine (EthernetServer.safe_available hport h).bind fun n t ht => ?_
  refine Program.Safe.of_done ?_ ⟨ht.1, fun m hm => Option.some.inj hm ▸ ht⟩
  rintro u v ⟨hbound, hclient⟩ huv
  refine ⟨@EthernetServer.stable_bound K _ _ port u v hbound huv, fun m hm => ?_⟩
  exact EthernetServer.stable_handsOut u v (hclient m hm) huv

theorem Right.peersAct {y : Sharing ι K L} (h : x.Right) (hy : x.PeersAct y) : y.Right := by
  obtain ⟨w, hw, rfl⟩ := hy
  cases htask : x.task with
  | none =>
    have hstable := @EthernetServer.stable_bound K _ _ 0 x.fleet.net w
    exact right_of_idle htask (hstable (h.bound_of_idle htask) hw)
  | some t =>
    unfold Right withNet at *
    rw [htask] at h ⊢
    exact h.outside hw

end Task

omit [StreamKernel K] in
/-- **A call of a server socket keeps the table right** when it takes over no socket. -/
theorem bound_call {i : ι} {c : PublicCall} (h : x.fleet.net.Bound) (hok : x.TakesNoOther i c) :
    (x.fleet.call i c).net.Bound := by
  refine (ServerSocket.run_moves_of EthernetHost.quietMoves_bound (x.fleet.server i) c ?_).2 h
  intro y hy
  -- the calls before it have left the table alone
  have htable : y.cleared.net.serverPort = x.fleet.net.serverPort := by
    cases hy with
    | pick _ _ _ _ => rfl
    | poll _ _ _ _ => rfl
  refine EthernetHost.keepsBound_listen fun hset => ?_
  rw [htable]
  exact hok y hy hset

/-- **The table stays right.** -/
theorem Right.exec {op : SharedOp ι} (h : x.Right) (hok : x.Keeps op) {r : Unit × Sharing ι K L}
    (hr : exec op x = some r) : r.2.Right := by
  unfold Sharing.exec at hr
  split at hr
  · rename_i port hidle
    split_ifs at hr
    exact Option.some.inj hr ▸ right_begin (h.bound_of_idle hidle)
  · rename_i port hidle
    split_ifs at hr with hport
    exact Option.some.inj hr ▸ right_available hport (h.bound_of_idle hidle)
  · -- the next call of the task
    rename_i port op next htask
    unfold Right at h
    rw [htask] at h
    obtain ⟨q, hq, rfl⟩ := Option.map_eq_some_iff.1 hr
    refine h.step ?_ hq
    rintro n rfl
    exact hok port n next htask
  · rename_i port a htask
    unfold Right at h
    rw [htask] at h
    exact Option.some.inj hr ▸ h.value.1
  · rename_i n hidle
    obtain ⟨q, hq, rfl⟩ := Option.map_eq_some_iff.1 hr
    have hkept := (ServerOp.keepsBound_of_handle hq nofun nofun).2
    exact right_of_idle hidle (hkept (h.bound_of_idle hidle))
  · rename_i i c hidle
    dsimp only at hr
    split_ifs at hr
    obtain rfl := Option.some.inj hr
    exact right_of_idle hidle (bound_call (h.bound_of_idle hidle) hok)
  · exact absurd hr nofun

/-- **Ethernet servers hand out connections of their own port.**  In every run of any
number of Ethernet servers and server sockets, in which no server socket sets a socket to
listen that the table `_server_port` has for another port, and no connection was reset
when an Ethernet server counts its bytes: a client that `available` returns for a socket
is for a connection that was accepted on the port of the server and has an unread byte,
and `accept` stops only connections that were accepted on it. -/
theorem handsOut_own {ports : ι → UInt16} {listeners : ι → L} {portMap : List (UInt16 × UInt16)}
    {k₀ : K} {log : List (SharedOp ι × Unit)}
    (h : Run exec PeersAct Keeps (start ports listeners portMap k₀) log x) :
    (∀ port n, x.returned = some (port, n) → n < maxSockNum →
      x.fleet.net.AcceptedFor port n ∧
        (HostSocketInfo.stream (x.fleet.net.socket n)).unread ≠ []) ∧
    ∀ port n, x.stopping = some (port, n) → x.fleet.net.AcceptedFor port n := by
  have hright : x.Right := by
    refine h.state_invariant (I := Right) ?_ ?_ ?_
    · intro n
      constructor
      · exact fun h0 => absurd rfl h0
      · exact fun h0 => absurd rfl h0
      · exact fun hc => absurd hc Bool.false_ne_true
    · exact fun y op r hy hok hr => hy.exec hok hr
    · exact fun y z hy hyz => hy.peersAct hyz
  unfold Right at hright
  constructor
  · intro port n hreturned hn
    unfold returned at hreturned
    split at hreturned
    · rename_i port' n' htask
      obtain ⟨rfl, rfl⟩ := Prod.mk.inj (Option.some.inj hreturned)
      rw [htask] at hright
      exact (hright.value.2 _ rfl).2 hn
    · exact absurd hreturned nofun
  · intro port n hstopping
    unfold stopping at hstopping
    split at hstopping
    · rename_i port' n' next htask
      obtain ⟨rfl, rfl⟩ := Prod.mk.inj (Option.some.inj hstopping)
      rw [htask] at hright
      exact hright.promise _ rfl
    · exact absurd hstopping nofun

/-! ### Runs on a small kernel -/

omit [Posix K] [McuCore K] [DecidableEq ι] [ServerSocketListener L] [StreamKernel K] in
/-- The next call does not count the bytes of a connection that was reset. -/
def losesNone (x : Sharing ι LocalKernel L) : Bool :=
  match x.task with
  | some ⟨_, .call (.available n) _⟩ => !(HostSocketInfo.stream (x.fleet.net.socket n)).broken
  | _ => true

omit [DecidableEq ι] [ServerSocketListener L] in
theorem keeps_of_losesNone {x : Sharing ι LocalKernel L} (h : losesNone x = true) :
    x.Keeps .proceed := by
  intro port n next htask hlost
  unfold losesNone at h
  rw [htask] at h
  simp [hlost.2] at h

/-- The task makes its next calls. -/
def proceeds : ℕ → Sharing ι LocalKernel L → Option (Sharing ι LocalKernel L)
  | 0, x => some x
  | m + 1, x => if losesNone x then (exec .proceed x).bind fun r => proceeds m r.2 else none

theorem run_proceeds {ok : Sharing ι LocalKernel L → SharedOp ι → Prop}
    (hok : ∀ x, losesNone x = true → ok x .proceed) {start x y : Sharing ι LocalKernel L}
    {log : List (SharedOp ι × Unit)} {m : ℕ} (h : Run exec PeersAct ok start log x)
    (hm : proceeds m x = some y) : ∃ log, Run exec PeersAct ok start log y := by
  induction m generalizing x log with
  | zero => exact Option.some.inj hm ▸ ⟨log, h⟩
  | succ m ih =>
    unfold proceeds at hm
    split_ifs at hm with hnone
    obtain ⟨r, hr, hnext⟩ := Option.bind_eq_some_iff.1 hm
    exact ih (h.call (hok x hnone) hr) hnext

/-- A peer has connected and sent a byte. -/
def connect (x : Sharing ι LocalKernel L) : Sharing ι LocalKernel L :=
  x.withNet { x.fleet.net with
    network := { x.fleet.net.network with
      kernel := { x.fleet.net.network.kernel with waiting := [{ unread := [72] }] } } }

omit [DecidableEq ι] [ServerSocketListener L] in
theorem peersAct_connect (x : Sharing ι LocalKernel L) : x.PeersAct x.connect := by
  refine ⟨_, ⟨{ x.fleet.net.network.kernel with waiting := _ }, ?_, rfl⟩, rfl⟩
  exact fun fd => .refl _

/-- A server socket for port 81, and Ethernet servers. -/
def unused : Sharing Unit LocalKernel Scripted := start (fun _ => 81) (fun _ => {}) [] {}

/-- The Ethernet server for port 80 listens, and the client of its socket is stopped.  The
server socket takes the socket, and a peer connects to port 81. -/
theorem handsOut_counterexample :
    ∃ log x, Run exec PeersAct (fun _ _ => True) unused log x ∧ x.returned = some (80, 0) ∧
      x.fleet.net.acceptedOn 0 = 81 := by
  let begun := (exec (.begin 80) unused).get rfl
  let listening := (proceeds 2 begun.2).get (by decide +kernel)
  let idle := (exec .finish listening).get (by decide +kernel)
  let stopped := (exec (.stop 0) idle.2).get (by decide +kernel)
  let taken := (exec (.call () .pickClosedSocket) stopped.2).get (by decide +kernel)
  let asked := (exec (.available 80) taken.2.connect).get (by decide +kernel)
  let served := (proceeds 14 asked.2).get (by decide +kernel)
  have hbegun : exec (.begin 80) unused = some begun := (Option.some_get _).symm
  have hlistening : proceeds 2 begun.2 = some listening := (Option.some_get _).symm
  have hidle : exec .finish listening = some idle := (Option.some_get _).symm
  have hstopped : exec (.stop 0) idle.2 = some stopped := (Option.some_get _).symm
  have htaken : exec (.call () .pickClosedSocket) stopped.2 = some taken := (Option.some_get _).symm
  have hasked : exec (.available 80) taken.2.connect = some asked := (Option.some_get _).symm
  have hserved : proceeds 14 asked.2 = some served := (Option.some_get _).symm
  have hproceeds := @run_proceeds Unit Scripted _ _ (fun _ _ => True) (fun _ _ => trivial)
  obtain ⟨_, h⟩ := hproceeds (Run.start.call trivial hbegun) hlistening
  have hconnect := ((h.call trivial hidle).call trivial hstopped).call trivial htaken
  obtain ⟨_, h⟩ := hproceeds ((hconnect.outside (peersAct_connect _)).call trivial hasked) hserved
  exact ⟨_, _, h, by decide +kernel, by decide +kernel⟩

/-- The Ethernet server for port 80 and the server socket for port 81 both listen, and a
peer connects to port 80. -/
theorem handsOut_own_port80 :
    ∃ log x, Run exec PeersAct Keeps unused log x ∧ x.returned = some (80, 0) ∧
      x.fleet.net.AcceptedFor 80 0 := by
  let begun := (exec (.begin 80) unused).get rfl
  let listening := (proceeds 2 begun.2).get (by decide +kernel)
  let idle := (exec .finish listening).get (by decide +kernel)
  let picked := (exec (.call () .pickClosedSocket) idle.2).get (by decide +kernel)
  let asked := (exec (.available 80) picked.2.connect).get (by decide +kernel)
  let served := (proceeds 14 asked.2).get (by decide +kernel)
  have hbegun : exec (.begin 80) unused = some begun := (Option.some_get _).symm
  have hlistening : proceeds 2 begun.2 = some listening := (Option.some_get _).symm
  have hidle : exec .finish listening = some idle := (Option.some_get _).symm
  have hpicked : exec (.call () .pickClosedSocket) idle.2 = some picked := (Option.some_get _).symm
  have hasked : exec (.available 80) picked.2.connect = some asked := (Option.some_get _).symm
  have hserved : proceeds 14 asked.2 = some served := (Option.some_get _).symm
  have hproceeds := @run_proceeds Unit Scripted _ _ Keeps fun _ => keeps_of_losesNone
  obtain ⟨_, h⟩ := hproceeds (Run.start.call (by trivial) hbegun) hlistening
  have hfree : idle.2.Keeps (.call () .pickClosedSocket) := by
    rintro _ ⟨⟩ -
    exact .inl (by decide +kernel)
  have hconnect := (h.call (by trivial) hidle).call hfree hpicked
  obtain ⟨log, h⟩ :=
    hproceeds ((hconnect.outside (peersAct_connect _)).call (by trivial) hasked) hserved
  have hreturned : served.returned = some (80, 0) := by decide +kernel
  exact ⟨log, served, h, hreturned, ((handsOut_own h).1 80 0 hreturned (by decide)).1⟩

end Sharing
end McuNet
