/-
# What `close` does to the buffer and to the client

`TcpServerConnection::close`, the write path of `WriteBufferedConnection` and its
destructor.

`close` flushes the buffer and calls `DisconnectSocket`, which sends a FIN.  It
does not tell the buffer: its `FlushInternal` looks at nothing but the number of
bytes and the write error.  A buffer is `Spent` when a flush would not call the
client, and the connection is `Dirty` when the client has been written to since
some earlier moment, or will be.

`FinTrace` notes how many calls the client's `write` had got whenever
`DisconnectSocket` was called, and `LeavesOpen` says what is assumed of the
socket.  `closes_call` is then all that `close` does.
-/

import McuNet.Connection.Chunks
import McuNet.Connection.TcpServer

namespace McuNet

namespace WriteBufferedConnection

variable {κ : Type*} {client : Client κ} {conn : WriteBufferedConnection} {k : Recorded κ} {m : ℕ}

/-- What is carried depends on the client's calls only. -/
theorem Carries.of_calls {k' : Recorded κ} {stream : List UInt8} (h : Carries conn k stream)
    (hk : k'.calls = k.calls) : Carries conn k' stream :=
  ⟨h.wellFormed, hk ▸ h.inside, hk ▸ h.carried, hk ▸ h.taken_le⟩

/-- A flush of some bytes calls the client. -/
theorem calls_lt_flushInternal (he : conn.writeError = 0) (h0 : 0 < conn.writeBufferSize)
    (k : Recorded κ) :
    k.calls.length < (flushInternal client.recording conn k).2.2.calls.length := by
  cases hp : conn.writeBufferSize with
  | zero => omega
  | succ passes =>
    rw [flushInternal, if_neg (not_not.2 he), hp]
    have hle := (@calls_flushLoop _ client conn passes 0 (passes + 1) k).length_le
    rwa [List.length_append, List.length_singleton] at hle

/-- The client was written to after its first `m` calls, or will be when the buffer
is flushed. -/
def Dirty (m : ℕ) (conn : WriteBufferedConnection) (k : Recorded κ) : Prop :=
  m < k.calls.length ∨ (m ≤ k.calls.length ∧ conn.writeError = 0 ∧ 0 < conn.writeBufferSize)

/-- **A byte that is written is handed over or left in the buffer.** -/
theorem dirty_write (h : conn.WellFormed) (hm : m ≤ k.calls.length) (he : conn.writeError = 0)
    (b : UInt8) :
    Dirty m (write client.recording b conn k).2.1 (write client.recording b conn k).2.2 := by
  by_cases hroom : conn.writeBufferSize < conn.writeBufferLimit
  · rw [h.write_room he hroom]
    have hlimit := h.limit_lt
    have hsize : (conn.copyIn [b]).writeBufferSize = conn.writeBufferSize + 1 :=
      Nat.mod_eq_of_lt (show conn.writeBufferSize + 1 < 2 ^ 8 by omega)
    exact .inr ⟨hm, he, hsize ▸ Nat.succ_pos _⟩
  · have hpos : 0 < conn.writeBufferSize := lt_of_lt_of_le h.limit_pos (not_lt.1 hroom)
    have hlt : k.calls.length < (flushInternal client.recording conn k).2.2.calls.length :=
      calls_lt_flushInternal he hpos k
    left
    rw [write, if_pos (not_lt.1 hroom)]
    split_ifs
    · exact lt_of_le_of_lt hm hlt
    · exact lt_of_le_of_lt hm hlt

/-- Bytes that are written leave it so. -/
theorem Dirty.write (h : conn.WellFormed) (hd : Dirty m conn k) (b : UInt8) :
    Dirty m (write client.recording b conn k).2.1 (write client.recording b conn k).2.2 := by
  rcases hd with hlt | ⟨hm, he, -⟩
  · have hcalls := write_rel (R := fun k k' : Recorded κ => k.calls <+: k'.calls)
      (fun _ => List.prefix_rfl) List.IsPrefix.trans client.recording_moves b conn k
    exact .inl (hlt.trans_le hcalls.length_le)
  · exact dirty_write h hm he b

/-- What is dirty stays so, byte after byte. -/
theorem Dirty.writeEach (hc : client.Lawful) (h : conn.WellFormed) (hd : Dirty m conn k)
    (xs : List UInt8) :
    Dirty m (writeEach client.recording xs conn k).2.1
      (writeEach client.recording xs conn k).2.2 := by
  induction xs generalizing conn k with
  | nil => exact hd
  | cons x xs ih => exact ih (h.after_write hc.recording x k) (hd.write h x)

/-- What is dirty stays so when a block is written. -/
theorem Dirty.writeBuf (hc : client.Lawful) (h : conn.WellFormed) (hd : Dirty m conn k)
    (xs : List UInt8) :
    Dirty m (writeBuf client.recording xs conn k).2.1 (writeBuf client.recording xs conn k).2.2 := by
  rw [(writeBuf_eq hc.recording h xs k).1]
  exact hd.writeEach hc h xs

/-- **So is a block of at least one byte.** -/
theorem dirty_writeBuf (hc : client.Lawful) (h : conn.WellFormed) (hm : m ≤ k.calls.length)
    (he : conn.writeError = 0) {xs : List UInt8} (hne : xs ≠ []) :
    Dirty m (writeBuf client.recording xs conn k).2.1 (writeBuf client.recording xs conn k).2.2 := by
  rw [(writeBuf_eq hc.recording h xs k).1]
  cases xs with
  | nil => exact absurd rfl hne
  | cons x xs => exact (dirty_write h hm he x).writeEach hc (h.after_write hc.recording x k) xs

/-- **After a flush the client has been written to.** -/
theorem Dirty.flush (hd : Dirty m conn k) : m < (flush client.recording conn k).2.calls.length := by
  rcases hd with hlt | ⟨hm, he, h0⟩
  · have hcalls := flush_rel (R := fun k k' : Recorded κ => k.calls <+: k'.calls)
      (fun _ => List.prefix_rfl) List.IsPrefix.trans client.recording_moves conn k
    exact hlt.trans_le hcalls.length_le
  · rw [WriteBufferedConnection.flush, if_neg h0.ne']
    exact lt_of_le_of_lt hm (calls_lt_flushInternal he h0 k)

/-- A buffer that is empty, or whose connection has an error, hands nothing over. -/
def Spent (conn : WriteBufferedConnection) : Prop :=
  conn.writeError ≠ 0 ∨ conn.writeBufferSize = 0

/-- A connection with nothing to flush, or with an error, flushes nothing. -/
theorem Spent.flush {κ : Type*} {client : Client κ} (h : conn.Spent) (k : κ) :
    flush client conn k = (conn, k) := by
  rcases h with he | h0
  · exact flush_stuck he k
  · rw [WriteBufferedConnection.flush, if_pos h0]

/-- After a flush the buffer is spent. -/
theorem spent_flush (hc : client.Lawful) (h : conn.WellFormed) (k : Recorded κ) :
    (flush client.recording conn k).1.Spent := by
  rw [WriteBufferedConnection.flush]
  split_ifs with h0
  · exact .inr h0
  · rcases flushInternal_ends hc.recording h (Nat.pos_of_ne_zero h0) k with
      ⟨-, hconn⟩ | ⟨-, e, he, hconn⟩
    · exact .inr (by rw [hconn])
    · exact .inl (by rwa [hconn])

end WriteBufferedConnection

/-- A platform and, as a ghost, how often the client's `write` had been called
whenever `DisconnectSocket` was. -/
structure FinTrace (W : Type*) where
  net : W
  fins : List ℕ := []

/-- A client on the platform of a trace. -/
def Client.traced {W : Type*} (client : Client W) : Client (FinTrace W) where
  write p n k := ((client.write p n k.net).1, { k with net := (client.write p n k.net).2 })
  getWriteError k := ((client.getWriteError k.net).1, { k with net := (client.getWriteError k.net).2 })
  available k := ((client.available k.net).1, { k with net := (client.available k.net).2 })
  read k := ((client.read k.net).1, { k with net := (client.read k.net).2 })
  readBuf n k := ((client.readBuf n k.net).1, { k with net := (client.readBuf n k.net).2 })
  peek k := ((client.peek k.net).1, { k with net := (client.peek k.net).2 })
  connected k := ((client.connected k.net).1, { k with net := (client.connected k.net).2 })

/-- The trace does not change what the client answers. -/
theorem Client.Lawful.traced {W : Type*} {client : Client W} (hc : client.Lawful) :
    client.traced.Lawful := fun p n k => hc p n k.net

/-- A platform whose client's `write` calls and `DisconnectSocket` calls are
recorded. -/
abbrev Traced (W : Type*) := Recorded (FinTrace W)

namespace Traced

variable {W : Type*}

/-- A call that is not recorded. -/
def pass {α : Type*} (f : W → α × W) (k : Traced W) : α × Traced W :=
  ((f k.inner.net).1, { k with inner := { k.inner with net := (f k.inner.net).2 } })

instance [Platform W] : Platform (Traced W) where
  findUnusedSocket := pass Platform.findUnusedSocket
  socketIsTcpListener n := pass (Platform.socketIsTcpListener n)
  socketIsInTcpConnectionLifecycle n := pass (Platform.socketIsInTcpConnectionLifecycle n)
  socketStatus n := pass (Platform.socketStatus n)
  initializeTcpListenerSocket n port := pass (Platform.initializeTcpListenerSocket n port)
  disconnectSocket n k :=
    let r := Platform.disconnectSocket n k.inner.net
    (r.1, { k with inner := ⟨r.2, k.inner.fins ++ [k.calls.length]⟩ })
  closeSocket n := pass (Platform.closeSocket n)
  ethernetClient n := (Platform.ethernetClient n).traced.recording
  millis := pass Platform.millis
  elapsedMillis t := pass (Platform.elapsedMillis t)

/-- What the calls of a client do to the trace. -/
structure Onward (gone : W → Prop) (k k' : Traced W) : Prop where
  calls : k.calls <+: k'.calls
  fins : k'.inner.fins = k.inner.fins
  gone : gone k.inner.net → gone k'.inner.net

variable {gone : W → Prop}

/-- What the other calls of `close` do to it. -/
structure Quiet (gone : W → Prop) (k k' : Traced W) : Prop where
  calls : k'.calls = k.calls
  fins : k'.inner.fins = k.inner.fins
  gone : gone k.inner.net → gone k'.inner.net

theorem Quiet.trans {a b c : Traced W} (h : Quiet gone a b) (h' : Quiet gone b c) :
    Quiet gone a c :=
  ⟨h'.calls.trans h.calls, h'.fins.trans h.fins, h'.gone ∘ h.gone⟩

theorem Onward.refl (k : Traced W) : Onward gone k k := ⟨List.prefix_rfl, rfl, id⟩

theorem Onward.trans {a b c : Traced W} (h : Onward gone a b) (h' : Onward gone b c) :
    Onward gone a c :=
  ⟨h.calls.trans h'.calls, h'.fins.trans h.fins, h'.gone ∘ h.gone⟩

end Traced

/-- From `DisconnectSocket` on the platform stays in `gone`, where the status of
the socket is not open. -/
structure LeavesOpen {W : Type*} [Platform W] (n : UInt8) (gone : W → Prop) : Prop where
  disconnectSocket : ∀ w, gone (Platform.disconnectSocket n w).2
  socketStatus : ∀ w, gone w → gone (Platform.socketStatus n w).2 ∧
    statusIsOpen (Platform.socketStatus n w).1 = false
  ethernetClient : (Platform.ethernetClient (W := W) n).Moves fun w w' => gone w → gone w'
  millis : ∀ w, gone w → gone (Platform.millis w).2

/-- **The methods of the client go on**: they add calls to the trace and no FIN, and leave a
connection that is gone gone. -/
theorem LeavesOpen.onward {W : Type*} [Platform W] {n : UInt8} {gone : W → Prop}
    (h : LeavesOpen n gone) :
    (Platform.ethernetClient (W := Traced W) n).Moves (Traced.Onward gone) where
  write p size _ := ⟨List.prefix_append _ _, rfl, h.ethernetClient.write p size _⟩
  getWriteError _ := ⟨List.prefix_rfl, rfl, h.ethernetClient.getWriteError _⟩
  available _ := ⟨List.prefix_rfl, rfl, h.ethernetClient.available _⟩
  read _ := ⟨List.prefix_rfl, rfl, h.ethernetClient.read _⟩
  readBuf size _ := ⟨List.prefix_rfl, rfl, h.ethernetClient.readBuf size _⟩
  peek _ := ⟨List.prefix_rfl, rfl, h.ethernetClient.peek _⟩
  connected _ := ⟨List.prefix_rfl, rfl, h.ethernetClient.connected _⟩

namespace LeavesOpen

variable {W : Type*} [Platform W] {n : UInt8} {gone : W → Prop}

/-- A status read is quiet. -/
theorem quiet_status (h : LeavesOpen n gone) (k : Traced W) :
    Traced.Quiet gone k (Platform.socketStatus n k).2 :=
  ⟨rfl, rfl, fun hk => (h.socketStatus k.inner.net hk).1⟩

/-- Recording the end of a connection is quiet. -/
theorem quiet_recordDisconnect (h : LeavesOpen n gone) (data : DisconnectData (Traced W))
    (k : Traced W) : Traced.Quiet gone k (data.recordDisconnect k).2 := by
  rw [DisconnectData.recordDisconnect]
  split_ifs
  · exact ⟨rfl, rfl, id⟩
  · exact ⟨rfl, rfl, h.millis k.inner.net⟩

end LeavesOpen

namespace Traced

variable {W : Type*} [Platform W] {n : UInt8} {gone : W → Prop}

/-- **What `close` does** to the buffer and the trace: nothing, or a flush, or a
flush and one `DisconnectSocket`; nothing once the connection is gone. -/
def Closes (n : UInt8) (gone : W → Prop) (conn conn' : WriteBufferedConnection)
    (k k' : Traced W) : Prop :=
  (conn' = conn ∧ Quiet gone k k') ∨
    ∃ k₁, Quiet gone k k₁ ∧ ¬gone k.inner.net ∧
      conn' = (conn.flush (Platform.ethernetClient n) k₁).1 ∧
      k'.calls = (conn.flush (Platform.ethernetClient n) k₁).2.calls ∧
      (k'.inner.fins = k.inner.fins ∨
        (k'.inner.fins = k.inner.fins ++ [k'.calls.length] ∧ gone k'.inner.net))

/-- What is quiet may follow a close. -/
theorem Closes.trans {conn conn' : WriteBufferedConnection} {k k' k'' : Traced W}
    (h : Closes n gone conn conn' k k') (h' : Quiet gone k' k'') : Closes n gone conn conn' k k'' := by
  rcases h with ⟨hconn, hq⟩ | ⟨k₁, hq, hgone, hconn, hcalls, hfins⟩
  · exact .inl ⟨hconn, hq.trans h'⟩
  · refine .inr ⟨k₁, hq, hgone, hconn, h'.calls.trans hcalls, ?_⟩
    rw [h'.fins, h'.calls]
    exact hfins.imp_right fun ⟨hf, hg⟩ => ⟨hf, h'.gone hg⟩

end Traced

namespace LeavesOpen

variable {W : Type*} [Platform W] {n : UInt8} {gone : W → Prop}

/-- **`StartDisconnect`** does nothing when the status is not open; when it is, it flushes, and
sends the FIN if the status is open after that too. -/
theorem closes_startDisconnect (h : LeavesOpen n gone) {conn : TcpServerConnection (Traced W)}
    (hn : conn.sockNum = n) (k : Traced W) :
    (conn.startDisconnect k).1.sockNum = n ∧
      Traced.Closes n gone conn.toWriteBufferedConnection
        (conn.startDisconnect k).1.toWriteBufferedConnection k (conn.startDisconnect k).2 := by
  subst hn
  have hstatus := h.quiet_status k
  let f := conn.flush (Platform.socketStatus conn.sockNum k).2
  have hflush : Traced.Onward gone _ f.2 :=
    WriteBufferedConnection.flush_rel Traced.Onward.refl Traced.Onward.trans h.onward
      conn.toWriteBufferedConnection (Platform.socketStatus conn.sockNum k).2
  have hagain := h.quiet_status f.2
  have hfins : f.2.inner.fins = k.inner.fins := hflush.fins.trans hstatus.fins
  by_cases hopen : (Platform.socketStatus conn.sockNum k).1 = SnSR.established ∨
      (Platform.socketStatus conn.sockNum k).1 = SnSR.closeWait
  · have hlive : ¬gone k.inner.net := fun hg =>
      Bool.false_ne_true ((h.socketStatus k.inner.net hg).2.symm.trans (statusIsOpen_iff.2 hopen))
    by_cases hstill : (Platform.socketStatus conn.sockNum f.2).1 = SnSR.established ∨
        (Platform.socketStatus conn.sockNum f.2).1 = SnSR.closeWait
    · let d := Platform.disconnectSocket conn.sockNum (Platform.socketStatus conn.sockNum f.2).2
      have hlast := h.quiet_status d.2
      have heq : conn.startDisconnect k = (f.1, (Platform.socketStatus conn.sockNum d.2).2) := by
        simp only [TcpServerConnection.startDisconnect]
        rw [if_pos hopen, if_pos hstill]
      rw [heq]
      refine ⟨rfl, .inr ⟨_, hstatus, hlive, rfl, rfl, .inr ⟨?_, ?_⟩⟩⟩
      · change f.2.inner.fins ++ [f.2.calls.length] = k.inner.fins ++ [f.2.calls.length]
        rw [hfins]
      · exact hlast.gone (h.disconnectSocket _)
    · have heq : conn.startDisconnect k = (f.1, (Platform.socketStatus conn.sockNum f.2).2) := by
        simp only [TcpServerConnection.startDisconnect]
        rw [if_pos hopen, if_neg hstill]
      rw [heq]
      exact ⟨rfl, .inr ⟨_, hstatus, hlive, rfl, hagain.calls, .inl (hagain.fins.trans hfins)⟩⟩
  · have heq : conn.startDisconnect k = (conn, (Platform.socketStatus conn.sockNum k).2) := by
      simp only [TcpServerConnection.startDisconnect]
      rw [if_neg hopen]
    rw [heq]
    exact ⟨rfl, .inl ⟨rfl, hstatus⟩⟩

/-- The same of `close`. -/
theorem closes_call (h : LeavesOpen n gone) {s : Serving (Traced W)} (hs : s.conn.sockNum = n) :
    (s.call .close).2.conn.sockNum = n ∧
      Traced.Closes n gone s.conn.toWriteBufferedConnection
        (s.call .close).2.conn.toWriteBufferedConnection s.net (s.call .close).2.net := by
  obtain ⟨hnum, hcloses⟩ := h.closes_startDisconnect hs s.net
  exact ⟨hnum, hcloses.trans (h.quiet_recordDisconnect _ _)⟩

end LeavesOpen

end McuNet
