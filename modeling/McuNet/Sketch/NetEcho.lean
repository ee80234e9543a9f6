/-
# The echo server

`src/examples/NetEcho/NetEcho.ino`.

The sketch serves one port with a listener that writes back what it reads, at most 128
bytes in each `OnCanRead`; `loop` picks a hardware socket until it has one, and polls.
What `setup` does before is not about the socket (`McuNet.Device.IpDevice` has the part
of it that sets the addresses).

On any platform the sketch answers callback by callback: what its client takes in one is a
front of what it has read in it, and all of it unless the client took nothing in some
call (`echoes`).  Nothing is kept for a later callback, so what a client refuses is lost
for good.
-/

import McuNet.Server.Recording

namespace McuNet

/-- `EchoListener`, which has no members. -/
structure EchoListener where
  deriving DecidableEq, Repr

namespace EchoListener

/-- `sizeof(buffer)` in `OnCanRead`. -/
def bufferSize : ℕ := 128

/-- `OnCanRead`. -/
def onCanRead (l : EchoListener) : Program ConnectionOp Reply EchoListener :=
  .call (.readBuf bufferSize) fun read =>
    if 0 < read.value then
      .call (.writeBuf (bytesRead (read.value, read.bytes))) fun _ => .done l
    else .done l

instance : ServerSocketListener EchoListener where
  onConnect l := .done l
  onCanRead := onCanRead
  onDisconnect l := l

end EchoListener

namespace NetEcho

variable {W : Type*} [Platform W]

/-- `echo_socket` as `loop` finds it at first. -/
def echoSocket (w : W) : ServerSocket W EchoListener := { listener := {}, tcpPort := 80, net := w }

/-- `loop`. -/
def loop (x : ServerSocket W EchoListener) : ServerSocket W EchoListener :=
  (if x.hasSocket then x else x.pickClosedSocket.2).performIo

/-- Runs of the sketch with a number of passes of `loop`, each from a state that `ok`
allows, and what happens between them. -/
inductive Runs (outside : W → W → Prop) (ok : ServerSocket W EchoListener → Prop)
    (x : ServerSocket W EchoListener) : ℕ → ServerSocket W EchoListener → Prop where
  | start : Runs outside ok x 0 x
  | outside {n y w} (before : Runs outside ok x n y) (moves : outside y.net w) :
      Runs outside ok x n { y with net := w }
  | pass {n y} (before : Runs outside ok x n y) (meets : ok y) :
      Runs outside ok x (n + 1) (loop y)

/-! ### A callback -/

/-- A callback in which the listener does not call `close` ends with a flush. -/
theorem net_announce {L : Type*} (kind : Bool → Callback) (p : Program ConnectionOp Reply L)
    (x : ServerSocket W L) (hopen : (Serving.serve p x.sockNum x.net).2.closed = false) :
    (x.announce kind p).net =
      ((Serving.serve p x.sockNum x.net).2.conn.flush (Serving.serve p x.sockNum x.net).2.net).2 := by
  have hno : (x.serve kind p).1.disconnectData.disconnected = false :=
    (Serving.serve_disconnected p x.sockNum x.net).trans hopen
  simp only [ServerSocket.announce, ServerSocket.detectListenerInitiatedDisconnect]
  rw [if_neg (by rw [hno]; decide)]
  rfl

/-- The platform after `OnConnect` is as before. -/
theorem net_announceConnected (x : ServerSocket W EchoListener) :
    x.announceConnected.net = x.net := rfl

section CanRead

variable (n : UInt8) (w : W)

/-- The connection that is constructed for a callback. -/
abbrev newConn : WriteBufferedConnection :=
  (TcpServerConnection.new n : TcpServerConnection W).toWriteBufferedConnection

/-- What `OnCanRead` reads, and the platform then. -/
def readsFirst : (ℤ × List UInt8) × W :=
  (Platform.ethernetClient n).readBuf EchoListener.bufferSize w

/-- The callback after that. -/
theorem serve_onCanRead (l : EchoListener) :
    (Serving.serve (EchoListener.onCanRead l) n w).2 =
      if 0 < (readsFirst n w).1.1 then
        (Serving.call (.writeBuf (bytesRead (readsFirst n w).1))
          { conn := TcpServerConnection.new n, net := (readsFirst n w).2 }).2
      else { conn := TcpServerConnection.new n, net := (readsFirst n w).2 } := by
  have hrun : Serving.serve (EchoListener.onCanRead l) n w =
      Program.run Serving.call
        (if 0 < (readsFirst n w).1.1 then
          .call (.writeBuf (bytesRead (readsFirst n w).1)) fun _ => .done l
        else .done l)
        { conn := TcpServerConnection.new n, net := (readsFirst n w).2 } := rfl
  rw [hrun]
  split_ifs
  · rfl
  · rfl

/-- The listener does not close the connection. -/
theorem closed_onCanRead (l : EchoListener) :
    (Serving.serve (EchoListener.onCanRead l) n w).2.closed = false := by
  rw [serve_onCanRead]
  split_ifs
  · rfl
  · rfl

end CanRead

/-- **The platform after `OnCanRead`**: when something was read it was written to a new
connection, which was destroyed. -/
theorem net_announceCanRead (x : ServerSocket W EchoListener) :
    x.announceCanRead.net =
      if 0 < (readsFirst x.sockNum x.net).1.1 then
        (WriteBufferedConnection.writeAndDestroy (Platform.ethernetClient x.sockNum)
          (bytesRead (readsFirst x.sockNum x.net).1) (newConn (W := W) x.sockNum)
          (readsFirst x.sockNum x.net).2).2
      else (readsFirst x.sockNum x.net).2 := by
  have hserve := serve_onCanRead x.sockNum x.net x.listener
  refine (net_announce _ _ _ (closed_onCanRead _ _ _)).trans ?_
  show ((Serving.serve (EchoListener.onCanRead x.listener) x.sockNum x.net).2.conn.flush
    (Serving.serve (EchoListener.onCanRead x.listener) x.sockNum x.net).2.net).2 = _
  rw [hserve]
  split_ifs
  · rfl
  · rfl

/-! ### The traffic of a run -/

/-- What was read in one callback, and what the client took of it. -/
structure Exchange where
  heard : List UInt8
  told : List UInt8
  front : told <+: heard

/-- The traffic so far consists of these exchanges, which are whole as long as the client
took something in every call. -/
structure Echoes (v : Taped W) (exchanges : List Exchange) : Prop where
  inside : ∀ c ∈ v.calls, c.Inside
  heard : v.heard = exchanges.flatMap Exchange.heard
  told : v.told = exchanges.flatMap Exchange.told
  whole : (∀ c ∈ v.calls, c.wrote ≠ 0) → ∀ e ∈ exchanges, e.told = e.heard

omit [Platform W] in
/-- Nothing is added. -/
theorem Echoes.same {v v' : Taped W} {exchanges : List Exchange} (h : Echoes v exchanges)
    (hsame : Taped.SameTape v v') : Echoes v' exchanges where
  inside := hsame.2 ▸ h.inside
  heard := hsame.1.symm.trans h.heard
  told := (congrArg WriteCall.taken hsame.2.symm).trans h.told
  whole := hsame.2 ▸ h.whole

omit [Platform W] in
/-- Whole exchanges are an echo. -/
theorem Echoes.echo {v : Taped W} {exchanges : List Exchange} (h : Echoes v exchanges)
    (hall : ∀ c ∈ v.calls, c.wrote ≠ 0) : v.told = v.heard := by
  rw [h.told, h.heard]
  exact List.flatMap_congr fun e he => h.whole hall e he

/-- **A callback is one exchange**, or none if there is nothing to read. -/
theorem Echoes.announceCanRead (hc : ∀ n, (Platform.ethernetClient (W := W) n).Lawful)
    {x : ServerSocket (Taped W) EchoListener} {exchanges : List Exchange}
    (h : Echoes x.net exchanges) :
    ∃ more, more.length ≤ 1 ∧ Echoes x.announceCanRead.net (exchanges ++ more) := by
  let client : Client (Heard W) := Platform.ethernetClient x.sockNum
  have hlawful : client.Lawful := fun p n k => hc x.sockNum p n k.inner
  let read := readsFirst x.sockNum x.net
  have hread : read.2.calls = x.net.calls ∧ read.2.heard = x.net.heard ++ bytesRead read.1 :=
    ⟨rfl, rfl⟩
  rw [net_announceCanRead]
  split_ifs with hsome
  · let after : Taped W := (WriteBufferedConnection.writeAndDestroy client.recording (bytesRead read.1)
      (newConn (W := Taped W) x.sockNum) read.2).2
    have hheard : after.heard = x.net.heard ++ bytesRead read.1 :=
      (WriteBufferedConnection.writeAndDestroy_rel client.recording
        (R := fun v v' : Taped W => v'.heard = v.heard) (fun _ => rfl) (fun h h' => Eq.trans h' h)
        (fun _ _ _ => rfl) (fun _ => rfl) _ _ _).trans hread.2
    have hnew : (newConn (W := Taped W) x.sockNum).Carries read.2 (WriteCall.taken read.2.calls) :=
      WriteBufferedConnection.carries_new (k := read.2) x.sockNum h.inside
    obtain ⟨hin, told, hfront, htold, hwhole⟩ :=
      WriteBufferedConnection.handsOver hlawful hnew rfl
        (bytesRead read.1)
    refine ⟨[⟨bytesRead read.1, told, hfront⟩], le_rfl, hin, ?_, ?_, ?_⟩
    · rw [List.flatMap_append, ← h.heard, List.flatMap_singleton]
      exact hheard
    · rw [List.flatMap_append, ← h.told, List.flatMap_singleton]
      exact htold
    · intro hall e he
      rcases List.mem_append.1 he with he | he
      · refine h.whole (fun c hmem => hall c ?_) e he
        exact (WriteBufferedConnection.calls_writeAndDestroy _ _ _ _).subset hmem
      · rw [List.mem_singleton.1 he]
        exact hwhole hall
  · have hnone : bytesRead read.1 = [] := by
      rw [bytesRead, Int.toNat_of_nonpos (not_lt.1 hsome), List.take_zero]
    rw [hnone, List.append_nil] at hread
    exact ⟨[], Nat.zero_le _, by
      rw [List.append_nil]
      exact h.same ⟨hread.2.symm, hread.1.symm⟩⟩

/-- **A pass of `loop` is at most one exchange.** -/
theorem Echoes.pass (hc : ∀ n, (Platform.ethernetClient (W := W) n).Lawful)
    {x : ServerSocket (Taped W) EchoListener} {exchanges : List Exchange}
    (h : Echoes x.net exchanges) :
    ∃ more, more.length ≤ 1 ∧ Echoes (loop x).net (exchanges ++ more) := by
  let y := if x.hasSocket then x else x.pickClosedSocket.2
  have hy : Echoes y.net exchanges := by
    refine iteInduction (motive := fun y : ServerSocket (Taped W) EchoListener =>
      Echoes y.net exchanges) (fun _ => h) fun _ => ?_
    exact h.same (ServerSocket.control_pickClosedSocket Taped.control_sameTape x)
  have hnone : ∀ {v : Taped W}, Echoes v exchanges → Echoes v (exchanges ++ []) :=
    fun hv => (List.append_nil exchanges).symm ▸ hv
  show ∃ more, more.length ≤ 1 ∧ Echoes y.performIo.net (exchanges ++ more)
  cases y.performIo_poll.control Taped.control_sameTape with
  | quiet moved => exact ⟨[], Nat.zero_le _, hnone (hy.same moved)⟩
  | connected _ moved announced =>
    rw [announced, net_announceConnected]
    exact ⟨[], Nat.zero_le _, hnone (hy.same moved)⟩
  | canRead _ moved announced =>
    rw [announced]
    exact (hy.same moved).announceCanRead hc

/-- The platform at the end of `setup`, with nothing recorded. -/
def blank (w : W) : Taped W := ⟨⟨w, []⟩, []⟩

/-- **The sketch echoes.**  On every platform, whatever its sockets and peers do: after
any number of passes what was read falls into at most as many pieces, of each of which the
client has taken a front, in order and nothing else; and it has taken everything that was
read, unless it took nothing at all in some call. -/
theorem echoes (hc : ∀ n, (Platform.ethernetClient (W := W) n).Lawful) {w : W} {n : ℕ}
    {x : ServerSocket (Taped W) EchoListener}
    (h : Runs Taped.SameTape (fun _ => True) (echoSocket (blank w)) n x) :
    ∃ exchanges : List Exchange, exchanges.length ≤ n ∧
      x.net.heard = exchanges.flatMap Exchange.heard ∧
      x.net.told = exchanges.flatMap Exchange.told ∧
      ((∀ c ∈ x.net.calls, c.wrote ≠ 0) → x.net.told = x.net.heard) := by
  have hx : ∃ exchanges : List Exchange, exchanges.length ≤ n ∧ Echoes x.net exchanges := by
    induction h with
    | start => exact ⟨[], le_rfl, fun c hmem => absurd hmem List.not_mem_nil, rfl, rfl,
        fun _ e he => absurd he List.not_mem_nil⟩
    | outside _ moves ih =>
      obtain ⟨exchanges, hlen, hy⟩ := ih
      exact ⟨exchanges, hlen, hy.same moves⟩
    | pass _ _ ih =>
      obtain ⟨exchanges, hlen, hy⟩ := ih
      obtain ⟨more, hmore, hz⟩ := hy.pass hc
      refine ⟨exchanges ++ more, ?_, hz⟩
      rw [List.length_append]
      omega
  obtain ⟨exchanges, hlen, hy⟩ := hx
  exact ⟨exchanges, hlen, hy.heard, hy.told, hy.echo⟩

/-- A platform with one socket, to which a peer connects as soon as it listens; its client
takes two bytes at a time. -/
structure Greeted where
  status : UInt8 := SnSR.closed
  unread : List UInt8

instance : Platform Greeted where
  findUnusedSocket w := (0, w)
  socketIsTcpListener _ w := (0, w)
  socketIsInTcpConnectionLifecycle _ w := (false, w)
  socketStatus _ w := (w.status, w)
  initializeTcpListenerSocket _ _ w := (true, { w with status := SnSR.listen })
  disconnectSocket _ w := (true, w)
  closeSocket _ w := (true, { w with status := SnSR.closed })
  ethernetClient _ :=
    { (Client.mute : Client Greeted) with
      write := fun _ n w => (min n 2, w)
      available := fun w => (w.unread.length, w)
      readBuf := fun n w =>
        (((w.unread.take n).length, w.unread.take n), { w with unread := w.unread.drop n }) }
  millis w := (0, w)
  elapsedMillis _ w := (0, w)

/-- The peer sends three bytes, which come back in two calls of `write`. -/
theorem echoes_greeting :
    let listening := loop (echoSocket (blank ({ unread := [72, 105, 33] } : Greeted)))
    let connected : Taped Greeted :=
      { listening.net with inner := ⟨{ status := SnSR.established, unread := [72, 105, 33] }, []⟩ }
    let x := loop (loop { listening with net := connected })
    (∃ exchanges : List Exchange, exchanges.length ≤ 3 ∧
      x.net.heard = exchanges.flatMap Exchange.heard ∧
      x.net.told = exchanges.flatMap Exchange.told) ∧
    x.net.heard = [72, 105, 33] ∧ x.net.told = [72, 105, 33] ∧ x.net.calls.length = 2 := by
  intro listening connected x
  have hc : ∀ n, (Platform.ethernetClient (W := Greeted) n).Lawful :=
    fun _ _ size _ => Nat.min_le_left size 2
  have hrun : Runs Taped.SameTape (fun _ => True)
      (echoSocket (blank ({ unread := [72, 105, 33] } : Greeted))) 3 x :=
    .pass (.pass (.outside (.pass .start trivial) ⟨by decide, by decide⟩) trivial) trivial
  obtain ⟨exchanges, hlen, hheard, htold, -⟩ := echoes hc hrun
  exact ⟨⟨exchanges, hlen, hheard, htold⟩, by decide, by decide, by decide⟩

end NetEcho
end McuNet
