/-
# What a write buffer does to the stream

`WriteBufferedConnection` promises its users a byte stream: what they write
arrives at the client, in order, once, up to a point.  The point moves when the
buffer is flushed, and it stops for good when a flush fails, because the buffer
is deliberately not compacted after a failure
(`src/write_buffered_connection.cpp`, the comment in `FlushInternal`).

`Writing` is a connection in use together with what was passed to it, what its
writes accepted and every call its client has got.  `Writing.Intact` is what
holds between any two calls, and `stream_integrity` says that it does, after any
calls, for any client that never reports more bytes than it was offered.
-/

import McuNet.Connection.WriteBuffered
import Mathlib.Data.List.Flatten

namespace McuNet

/-- One call of the client's `write` and its result. -/
structure WriteCall where
  buf : Ptr
  size : ℕ
  wrote : ℕ
  deriving DecidableEq, Repr

namespace WriteCall

/-- The client was given a range that is not empty and lies inside of the block
the pointer points into. -/
def Inside (c : WriteCall) : Prop := 0 < c.size ∧ c.buf.offset + c.size ≤ c.buf.block.length

/-- The bytes the client reported to have taken, call after call. -/
def taken (calls : List WriteCall) : List UInt8 := calls.flatMap fun c => c.buf.bytes c.wrote

theorem taken_append (l m : List WriteCall) : taken (l ++ m) = taken l ++ taken m := by
  simp [taken]

end WriteCall

/-- The state of a client and, as a ghost, the calls of its `write`. -/
structure Recorded (κ : Type*) where
  inner : κ
  calls : List WriteCall := []

/-- The client with its `write` calls recorded. -/
def Client.recording {κ : Type*} (client : Client κ) : Client (Recorded κ) where
  write p n k :=
    let r := client.write p n k.inner
    (r.1, ⟨r.2, k.calls ++ [⟨p, n, r.1⟩]⟩)
  getWriteError k := ((client.getWriteError k.inner).1, { k with inner := (client.getWriteError k.inner).2 })
  available k := ((client.available k.inner).1, { k with inner := (client.available k.inner).2 })
  read k := ((client.read k.inner).1, { k with inner := (client.read k.inner).2 })
  readBuf n k := ((client.readBuf n k.inner).1, { k with inner := (client.readBuf n k.inner).2 })
  peek k := ((client.peek k.inner).1, { k with inner := (client.peek k.inner).2 })
  connected k := ((client.connected k.inner).1, { k with inner := (client.connected k.inner).2 })

theorem Client.Lawful.recording {κ : Type*} {client : Client κ} (hc : client.Lawful) :
    client.recording.Lawful := fun p n k => hc p n k.inner

/-- What was recorded stays recorded. -/
theorem Client.recording_moves {κ : Type*} (client : Client κ) :
    client.recording.Moves fun k k' => k.calls <+: k'.calls where
  write _ _ _ := List.prefix_append _ _
  getWriteError _ := List.prefix_rfl
  available _ := List.prefix_rfl
  read _ := List.prefix_rfl
  readBuf _ _ := List.prefix_rfl
  peek _ := List.prefix_rfl
  connected _ := List.prefix_rfl

namespace WriteBufferedConnection

variable {κ : Type*} {client : Client κ}

/-- The call a pass of the flush loop makes is recorded after the earlier ones. -/
theorem calls_flushLoop (conn : WriteBufferedConnection) (passes buf size : ℕ) (k : Recorded κ) :
    k.calls ++ [⟨⟨conn.occupied, buf⟩, size, (client.write ⟨conn.occupied, buf⟩ size k.inner).1⟩]
      <+: (flushLoop client.recording (passes + 1) conn buf size k).2.2.calls := by
  simp only [flushLoop]
  split_ifs with hall hsome herr
  · exact List.prefix_rfl
  · have hrest := flushLoop_rel (R := fun k k' : Recorded κ => k.calls <+: k'.calls)
      (fun _ => List.prefix_rfl) List.IsPrefix.trans client.recording_moves conn passes
    exact hrest _ _ (client.recording.write ⟨conn.occupied, buf⟩ size k).2
  · exact List.prefix_rfl
  · exact List.prefix_rfl

/-- The call a pass of the flush loop makes is among those recorded in the end. -/
theorem mem_calls_flushLoop (conn : WriteBufferedConnection) (passes buf size : ℕ)
    (k : Recorded κ) :
    ⟨⟨conn.occupied, buf⟩, size, (client.write ⟨conn.occupied, buf⟩ size k.inner).1⟩ ∈
      (flushLoop client.recording (passes + 1) conn buf size k).2.2.calls :=
  (calls_flushLoop conn passes buf size k).subset
    (List.mem_append_right _ (List.mem_singleton_self _))

/-- **What a flush loop hands to the client.**  Every call gets a range inside
the occupied part; together the client takes a prefix of what was left to flush,
and all of it if the loop succeeds. -/
theorem flushLoop_calls (hc : client.Lawful) {conn : WriteBufferedConnection}
    (h : conn.WellFormed) (passes : ℕ) :
    ∀ (buf size : ℕ) (k : Recorded κ), 0 < size → buf + size = conn.occupied.length →
      ∃ new, (flushLoop client.recording passes conn buf size k).2.2.calls = k.calls ++ new ∧
        (∀ c ∈ new, c.Inside) ∧ WriteCall.taken new <+: conn.occupied.drop buf ∧
        ((flushLoop client.recording passes conn buf size k).1 = some true →
          WriteCall.taken new = conn.occupied.drop buf) := by
  have hocc : conn.occupied.length < 2 ^ 8 :=
    h.length_occupied ▸ lt_of_le_of_lt h.size_le h.limit_lt
  induction passes with
  | zero => intro buf size k _ _; exact ⟨[], by simp [flushLoop, WriteCall.taken]⟩
  | succ passes ih =>
    intro buf size k h0 hsize
    let c : WriteCall :=
      ⟨⟨conn.occupied, buf⟩, size, (client.write ⟨conn.occupied, buf⟩ size k.inner).1⟩
    have hin : c.Inside := ⟨h0, hsize.le⟩
    have hone : WriteCall.taken [c] = (conn.occupied.drop buf).take c.wrote := by
      simp [WriteCall.taken, Ptr.bytes, c]
    have hdrop : (conn.occupied.drop buf).length = size := by rw [List.length_drop]; omega
    rcases write_cases hc.recording conn buf size k with
      hall | ⟨hpos, hlt⟩ | hnone
    · rw [flushLoop_all passes hall]
      have htaken : WriteCall.taken [c] = conn.occupied.drop buf := by
        rw [hone, List.take_of_length_le (by rw [hdrop]; exact hall.ge)]
      exact ⟨[c], rfl, by simpa using hin, by rw [htaken], fun _ => htaken⟩
    · rw [flushLoop_some passes hpos hlt (by omega)]
      obtain ⟨new, hcalls, hnew, hle, hok⟩ := ih (buf + c.wrote) (size - c.wrote)
        ⟨(client.write ⟨conn.occupied, buf⟩ size k.inner).2, k.calls ++ [c]⟩
        (Nat.sub_pos_of_lt hlt) (by have : c.wrote < size := hlt; omega)
      have hjoin : WriteCall.taken [c] ++ conn.occupied.drop (buf + c.wrote) =
          conn.occupied.drop buf := by rw [hone, ← List.drop_drop, List.take_append_drop]
      refine ⟨c :: new, by rw [List.append_cons]; exact hcalls,
        List.forall_mem_cons.2 ⟨hin, hnew⟩, ?_, fun h' => ?_⟩
      · rw [← List.singleton_append, WriteCall.taken_append, ← hjoin]
        exact (List.prefix_append_right_inj _).2 hle
      · rw [← List.singleton_append, WriteCall.taken_append, hok h', hjoin]
    · obtain ⟨e, -, he⟩ := flushLoop_none passes hnone h0
      rw [he]
      refine ⟨[c], rfl, by simpa using hin, ?_, fun h' => by simp at h'⟩
      rw [hone, show c.wrote = 0 from hnone]
      exact List.nil_prefix

/-- A connection and its client carry a stream: the buffer is well formed, every
range the client got was inside the occupied part, and the client has taken the
stream up to what is still in the buffer; after an error, up to somewhere. -/
structure Carries (conn : WriteBufferedConnection) (k : Recorded κ) (stream : List UInt8) :
    Prop where
  wellFormed : conn.WellFormed
  inside : ∀ c ∈ k.calls, c.Inside
  carried : conn.writeError = 0 → WriteCall.taken k.calls ++ conn.occupied = stream
  taken_le : WriteCall.taken k.calls <+: stream

namespace Carries

variable {conn : WriteBufferedConnection} {k : Recorded κ} {stream : List UInt8}

/-- After an error nothing more is carried, so the stream may go on without it. -/
theorem extend (h : Carries conn k stream) (he : conn.writeError ≠ 0) (more : List UInt8) :
    Carries conn k (stream ++ more) :=
  ⟨h.wellFormed, h.inside, fun h0 => absurd h0 he, h.taken_le.trans (List.prefix_append _ _)⟩

/-- Bytes that fit into the buffer are carried. -/
theorem copyIn (h : Carries conn k stream) (he : conn.writeError = 0) {bytes : List UInt8}
    (hfit : conn.writeBufferSize + bytes.length ≤ conn.writeBufferLimit) :
    Carries (conn.copyIn bytes) k (stream ++ bytes) where
  wellFormed := h.wellFormed.copyIn hfit
  inside := h.inside
  carried _ := by rw [h.wellFormed.occupied_copyIn hfit, ← List.append_assoc, h.carried he]
  taken_le := h.taken_le.trans (List.prefix_append _ _)

/-- **A flush carries the same stream**, whether it succeeds or not. -/
theorem flushInternal (hc : client.Lawful) (h : Carries conn k stream)
    (h0 : 0 < conn.writeBufferSize) :
    Carries (flushInternal client.recording conn k).2.1 (flushInternal client.recording conn k).2.2
      stream := by
  by_cases herr : conn.writeError = 0
  · obtain ⟨new, hcalls, hnew, hle, hok⟩ := flushLoop_calls hc h.wellFormed conn.writeBufferSize 0
      conn.writeBufferSize k h0 (by rw [h.wellFormed.length_occupied, Nat.zero_add])
    have hends := flushInternal_ends hc.recording h.wellFormed h0 k
    have heq : WriteBufferedConnection.flushInternal client.recording conn k =
        flushLoop client.recording conn.writeBufferSize conn 0 conn.writeBufferSize k := by
      rw [WriteBufferedConnection.flushInternal, if_neg (not_not.2 herr)]
    rw [← heq] at hcalls hok
    have hin : ∀ c ∈ (WriteBufferedConnection.flushInternal client.recording conn k).2.2.calls,
        c.Inside := by
      rw [hcalls]
      exact List.forall_mem_append.2 ⟨h.inside, hnew⟩
    have htaken : WriteCall.taken k.calls ++ WriteCall.taken new <+: stream := by
      rw [← h.carried herr]
      exact (List.prefix_append_right_inj _).2 (by simpa using hle)
    rcases hends with ⟨htrue, hconn⟩ | ⟨hfalse, e, he, hconn⟩
    · rw [hconn]
      refine ⟨h.wellFormed.empty, hin, fun _ => ?_, by rwa [hcalls, WriteCall.taken_append]⟩
      rw [hcalls, WriteCall.taken_append, hok htrue, ← h.carried herr]
      simp [occupied]
    · rw [hconn]
      exact ⟨h.wellFormed.setError e, hin, fun h0 => absurd h0 he,
        by rwa [hcalls, WriteCall.taken_append]⟩
  · have heq : WriteBufferedConnection.flushInternal client.recording conn k =
        (some false, conn, k) := by
      rw [WriteBufferedConnection.flushInternal, if_pos herr]
    rw [heq]
    exact h

/-- **The block write loop carries the block**: all of it when it succeeds, and
otherwise what the client took is still a prefix. -/
theorem writeLoop (hc : client.Lawful) (passes : ℕ) :
    ∀ {buf : List UInt8} {conn : WriteBufferedConnection} {k : Recorded κ} {stream : List UInt8},
      Carries conn k stream → conn.writeError = 0 →
      (writeLoop client.recording passes buf conn k).1.isSome = true →
        Carries (writeLoop client.recording passes buf conn k).2.1
            (writeLoop client.recording passes buf conn k).2.2 (stream ++ buf) ∧
          ((writeLoop client.recording passes buf conn k).1 = some true ↔
            (writeLoop client.recording passes buf conn k).2.1.writeError = 0) := by
  induction passes with
  | zero =>
    intro buf conn k stream h he hsome
    cases buf with
    | nil => exact ⟨by simpa [WriteBufferedConnection.writeLoop] using h, by
        simpa [WriteBufferedConnection.writeLoop] using he⟩
    | cons b bs => simp [WriteBufferedConnection.writeLoop] at hsome
  | succ passes ih =>
    intro buf conn k stream h he hsome
    cases buf with
    | nil => exact ⟨by simpa [WriteBufferedConnection.writeLoop] using h, by
        simpa [WriteBufferedConnection.writeLoop] using he⟩
    | cons b bs =>
      by_cases hroom : conn.writeBufferSize < conn.writeBufferLimit
      · obtain ⟨xs, ys, hblock, -, hfit, hloop⟩ := writeLoop_room (κ := Recorded κ) hroom b bs
        rw [hloop] at hsome ⊢
        obtain ⟨hend, hiff⟩ := ih (h.copyIn he hfit) he hsome
        rw [List.append_assoc, hblock] at hend
        exact ⟨hend, hiff⟩
      · have hfull := not_lt.1 hroom
        have hpos := lt_of_lt_of_le h.wellFormed.limit_pos hfull
        have hflush := h.flushInternal hc hpos
        rw [writeLoop_full hfull] at hsome ⊢
        rcases flushInternal_ends hc.recording h.wellFormed hpos k with
          ⟨ht, hconn⟩ | ⟨hf, e, hne, hconn⟩
        · rw [if_pos ht] at hsome ⊢
          exact ih hflush (by rw [hconn]; exact he) hsome
        · have hnt : (WriteBufferedConnection.flushInternal client.recording conn k).1 ≠ some true := by
            rw [hf]; decide
          rw [if_neg hnt] at hsome ⊢
          have hne' : (WriteBufferedConnection.flushInternal client.recording conn k).2.1.writeError
              ≠ 0 := by rw [hconn]; exact hne
          exact ⟨hflush.extend hne' _, fun h' => absurd h' hnt, fun h' => absurd h' hne'⟩

/-- A byte that fits is carried. -/
theorem push (h : Carries conn k stream) (he : conn.writeError = 0)
    (hroom : conn.writeBufferSize < conn.writeBufferLimit) (b : UInt8) :
    Carries (conn.push b) k (stream ++ [b]) := by
  rw [h.wellFormed.push_eq_copyIn hroom b]
  exact h.copyIn he hroom

/-- **`write(uint8_t)` carries the byte**, or fails with an error recorded. -/
theorem write (hc : client.Lawful) (h : Carries conn k stream) (b : UInt8) :
    Carries (write client.recording b conn k).2.1 (write client.recording b conn k).2.2
        (stream ++ [b]) ∧
      ((write client.recording b conn k).2.1.writeError = 0 →
        conn.writeError = 0 ∧ (write client.recording b conn k).1 = 1) := by
  have hlimit := h.wellFormed.limit_pos
  simp only [WriteBufferedConnection.write]
  by_cases hfull : conn.writeBufferLimit ≤ conn.writeBufferSize
  · simp only [hfull, if_true]
    have hflush := h.flushInternal hc (by omega)
    rcases flushInternal_ends hc.recording h.wellFormed (by omega) k with
      ⟨ht, hconn⟩ | ⟨hf, e, hne, hconn⟩
    · rw [if_pos ht]
      rw [hconn] at hflush ⊢
      by_cases he : conn.writeError = 0
      · exact ⟨hflush.push he hlimit b, fun _ => ⟨he, rfl⟩⟩
      · simp [WriteBufferedConnection.flushInternal, he] at ht
    · have hnt : (WriteBufferedConnection.flushInternal client.recording conn k).1 ≠ some true := by
        rw [hf]; decide
      rw [if_neg hnt]
      rw [hconn] at hflush ⊢
      exact ⟨hflush.extend hne _, fun h' => absurd h' hne⟩
  · simp only [hfull, if_false, Option.some.injEq, decide_eq_true_eq]
    by_cases he : conn.writeError = 0
    · rw [if_pos he]
      exact ⟨h.push he (by omega) b, fun _ => ⟨he, rfl⟩⟩
    · rw [if_neg he]
      exact ⟨h.extend he _, fun h' => absurd h' he⟩

/-- **`write(const uint8_t*, size_t)` carries the block**, or fails with an error
recorded. -/
theorem writeBuf (hc : client.Lawful) (h : Carries conn k stream) (buf : List UInt8) :
    Carries (writeBuf client.recording buf conn k).2.1 (writeBuf client.recording buf conn k).2.2
        (stream ++ buf) ∧
      ((writeBuf client.recording buf conn k).2.1.writeError = 0 →
        conn.writeError = 0 ∧ (writeBuf client.recording buf conn k).1 = buf.length) := by
  simp only [WriteBufferedConnection.writeBuf]
  by_cases he : conn.writeError = 0
  · rw [if_neg (not_not.2 he)]
    have hsome := writeLoop_isSome hc.recording (2 * buf.length) buf conn k h.wellFormed
      (Nat.le_add_right _ _)
    obtain ⟨hloop, hok⟩ := h.writeLoop hc (2 * buf.length) he hsome
    exact ⟨hloop, fun h' => ⟨he, if_pos (hok.2 h')⟩⟩
  · rw [if_pos he]
    exact ⟨h.extend he _, fun h' => absurd h' he⟩

/-- **`flush` carries the same stream.** -/
theorem flush (hc : client.Lawful) (h : Carries conn k stream) :
    Carries (flush client.recording conn k).1 (flush client.recording conn k).2 stream ∧
      ((flush client.recording conn k).1.writeError = 0 → conn.writeError = 0) := by
  simp only [WriteBufferedConnection.flush]
  split_ifs with h0
  · exact ⟨h, id⟩
  · refine ⟨h.flushInternal hc (by omega), fun h' => ?_⟩
    rcases flushInternal_ends hc.recording h.wellFormed (by omega) k with
      ⟨_, hconn⟩ | ⟨_, e, hne, hconn⟩
    · rwa [hconn] at h'
    · rw [hconn] at h'
      exact absurd h' hne

end Carries

/-! ### After an error -/

section Stuck

variable {conn : WriteBufferedConnection} (he : conn.writeError ≠ 0) (k : κ)

include he

theorem flushInternal_stuck : flushInternal client conn k = (some false, conn, k) := by
  rw [flushInternal, if_pos he]

/-- After an error no call does anything. -/
theorem write_stuck (b : UInt8) : write client b conn k = (0, conn, k) := by
  simp only [write, flushInternal_stuck he]
  split_ifs <;> simp_all

theorem writeBuf_stuck (buf : List UInt8) : writeBuf client buf conn k = (0, conn, k) := by
  rw [writeBuf, if_pos he]

theorem flush_stuck : flush client conn k = (conn, k) := by
  rw [flush, flushInternal_stuck he, ite_self]

end Stuck

end WriteBufferedConnection

/-- One call of a user of the connection. -/
inductive WriteOp where
  | byte (b : UInt8)
  | block (buf : List UInt8)
  | flush
  deriving DecidableEq, Repr

/-- The bytes passed to a call. -/
def WriteOp.bytes : WriteOp → List UInt8
  | .byte b => [b]
  | .block buf => buf
  | .flush => []

/-- A connection in use.  `passed` is everything its writes were given,
`accepted` what the successful ones were given, `results` what they returned. -/
structure Writing (κ : Type*) where
  conn : WriteBufferedConnection
  sink : Recorded κ
  passed : List UInt8 := []
  accepted : List UInt8 := []
  results : List ℕ := []

namespace Writing

variable {κ : Type*}

/-- Account for a write of `bytes` that returned `n`. -/
def account (s : Writing κ) (bytes : List UInt8) (r : ℕ × WriteBufferedConnection × Recorded κ) :
    Writing κ where
  conn := r.2.1
  sink := r.2.2
  passed := s.passed ++ bytes
  accepted := s.accepted ++ if r.1 = bytes.length then bytes else []
  results := s.results ++ [r.1]

/-- One call. -/
def step (client : Client κ) (s : Writing κ) : WriteOp → Writing κ
  | .byte b => s.account [b] (s.conn.write client.recording b s.sink)
  | .block buf => s.account buf (s.conn.writeBuf client.recording buf s.sink)
  | .flush =>
    let r := s.conn.flush client.recording s.sink
    { s with conn := r.1, sink := r.2 }

/-- Calls one after the other. -/
def run (client : Client κ) (s : Writing κ) (ops : List WriteOp) : Writing κ :=
  ops.foldl (step client) s

/-- What was passed in by a run are the bytes of its calls. -/
theorem passed_run (client : Client κ) (s : Writing κ) (ops : List WriteOp) :
    (s.run client ops).passed = s.passed ++ ops.flatMap WriteOp.bytes := by
  induction ops generalizing s with
  | nil => exact (List.append_nil _).symm
  | cons op ops ih =>
    have hstep : (s.step client op).passed = s.passed ++ op.bytes := by
      cases op with
      | byte b => rfl
      | block buf => rfl
      | flush => exact (List.append_nil _).symm
    rw [List.flatMap_cons, ← List.append_assoc, ← hstep]
    exact ih (s.step client op)

/-- The destructor flushes. -/
def destroy (client : Client κ) (s : Writing κ) : Writing κ := s.step client .flush

/-- A new connection with the given buffer and limit. -/
def start (buffer : List UInt8) (limit : ℕ) (k : κ) : Writing κ where
  conn := { writeBuffer := buffer, writeBufferLimit := limit }
  sink := { inner := k }

/-- The bytes the client has taken so far. -/
def taken (s : Writing κ) : List UInt8 := WriteCall.taken s.sink.calls

/-- What holds between two calls: the connection and its client carry everything
that was passed in, and without an error everything was accepted. -/
structure Intact (s : Writing κ) : Prop where
  carries : s.conn.Carries s.sink s.passed
  accepted_eq : s.conn.writeError = 0 → s.accepted = s.passed

variable {client : Client κ}

/-- **Every call keeps the stream.** -/
theorem Intact.step (hc : client.Lawful) {s : Writing κ} (h : s.Intact) (op : WriteOp) :
    (s.step client op).Intact := by
  cases op with
  | byte b =>
    obtain ⟨hcarries, hok⟩ := h.carries.write hc b
    refine ⟨hcarries, fun h' => ?_⟩
    obtain ⟨h0, hone⟩ := hok h'
    simp only [Writing.step, account, h.accepted_eq h0]
    rw [if_pos (by simpa using hone)]
  | block buf =>
    obtain ⟨hcarries, hok⟩ := h.carries.writeBuf hc buf
    refine ⟨hcarries, fun h' => ?_⟩
    obtain ⟨h0, hlen⟩ := hok h'
    simp only [Writing.step, account, h.accepted_eq h0]
    rw [if_pos hlen]
  | flush =>
    obtain ⟨hcarries, hok⟩ := h.carries.flush hc
    exact ⟨hcarries, fun h' => h.accepted_eq (hok h')⟩

/-- **A run of calls keeps the stream.** -/
theorem Intact.run (hc : client.Lawful) {s : Writing κ} (h : s.Intact) (ops : List WriteOp) :
    (s.run client ops).Intact := by
  induction ops generalizing s with
  | nil => exact h
  | cons op ops ih => exact ih (h.step hc op)

/-- A new connection is intact. -/
theorem intact_start {buffer : List UInt8} {limit : ℕ} (h0 : 0 < limit) (h8 : limit < 2 ^ 8)
    (hb : limit ≤ buffer.length) (k : κ) : (start buffer limit k).Intact where
  carries := ⟨⟨h0, h8, hb, Nat.zero_le _⟩, by simp [start], by simp [start, WriteCall.taken,
    WriteBufferedConnection.occupied], by simp [start, WriteCall.taken]⟩
  accepted_eq _ := rfl

/-- After an error nothing happens any more: the client is not called, every
write returns `0`, and the error stays. -/
theorem run_stuck (client : Client κ) {s : Writing κ} (he : s.conn.writeError ≠ 0)
    (ops : List WriteOp) :
    (s.run client ops).conn = s.conn ∧ (s.run client ops).sink = s.sink ∧
      ∃ n, (s.run client ops).results = s.results ++ List.replicate n 0 := by
  induction ops generalizing s with
  | nil => exact ⟨rfl, rfl, 0, by simp [run]⟩
  | cons op ops ih =>
    have hstep : (s.step client op).conn = s.conn ∧ (s.step client op).sink = s.sink ∧
        ∃ n, (s.step client op).results = s.results ++ List.replicate n 0 := by
      cases op with
      | byte b =>
        rw [step, WriteBufferedConnection.write_stuck he]
        exact ⟨rfl, rfl, 1, rfl⟩
      | block buf =>
        rw [step, WriteBufferedConnection.writeBuf_stuck he]
        exact ⟨rfl, rfl, 1, rfl⟩
      | flush =>
        rw [step, WriteBufferedConnection.flush_stuck he]
        exact ⟨rfl, rfl, 0, by simp⟩
    obtain ⟨hconn, hsink, n, hn⟩ := hstep
    have he' : (s.step client op).conn.writeError ≠ 0 := by rw [hconn]; exact he
    obtain ⟨hconn', hsink', m, hm⟩ := ih he'
    refine ⟨hconn'.trans hconn, hsink'.trans hsink, n + m, ?_⟩
    rw [List.replicate_add, ← List.append_assoc, ← hn]
    exact hm

/-- The loops behind the next call end: the one of a flush, when there is
something to flush, and the one of a block write, whatever the block. -/
def Returns (client : Client κ) (s : Writing κ) : Prop :=
  (0 < s.conn.writeBufferSize →
    (s.conn.flushInternal client.recording s.sink).1.isSome = true) ∧
  ∀ buf : List UInt8, (WriteBufferedConnection.writeLoop client.recording (2 * buf.length) buf
    s.conn s.sink).1.isSome = true

theorem Intact.returns (hc : client.Lawful) {s : Writing κ} (h : s.Intact) : s.Returns client := by
  refine ⟨fun h0 => ?_, fun buf => ?_⟩
  · rcases WriteBufferedConnection.flushInternal_ends hc.recording h.carries.wellFormed h0 s.sink
      with ⟨ht, _⟩ | ⟨hf, _⟩
    · rw [ht]; rfl
    · rw [hf]; rfl
  · exact WriteBufferedConnection.writeLoop_isSome hc.recording _ buf s.conn s.sink
      h.carries.wellFormed (Nat.le_add_right _ _)

/-- **Write stream integrity.**  For every limit from 1 to 255, every sequence of
writes and flushes, at every point of it and after the destructor, and every
client that reports at most as many bytes as it was offered:

* the counter stays within the limit, the client is only given ranges inside the
  occupied part of the buffer, and every call ends;
* while no error is recorded, what the client has taken and what is still in the
  buffer are together exactly what the successful writes were given;
* what the client has taken is a prefix of what was passed in, which are the bytes of
  the calls one after the other;
* once an error is recorded it stays, all writes return `0`, and the client is not
  called again, not even by the destructor. -/
theorem stream_integrity (hc : client.Lawful) {buffer : List UInt8} {limit : ℕ}
    (h0 : 0 < limit) (h8 : limit ≤ 255) (hb : limit ≤ buffer.length) (k : κ)
    (ops : List WriteOp) :
    let s := (start buffer limit k).run client ops
    (s.conn.writeBufferSize ≤ s.conn.writeBufferLimit ∧
      (s.destroy client).conn.writeBufferSize ≤ (s.destroy client).conn.writeBufferLimit ∧
      (∀ c ∈ (s.destroy client).sink.calls, c.Inside) ∧ s.Returns client) ∧
    ((s.conn.writeError = 0 → s.taken ++ s.conn.occupied = s.accepted) ∧
      ((s.destroy client).conn.writeError = 0 →
        (s.destroy client).taken ++ (s.destroy client).conn.occupied = s.accepted)) ∧
    (s.passed = ops.flatMap WriteOp.bytes ∧ (s.destroy client).taken <+: s.passed) ∧
    (s.conn.writeError ≠ 0 → ∀ more,
      ((s.run client more).destroy client).sink = s.sink ∧
      ((s.run client more).destroy client).conn.writeError = s.conn.writeError ∧
      (∃ n, (s.run client more).results = s.results ++ List.replicate n 0) ∧
      s.taken <+: s.passed) := by
  intro s
  have hs : s.Intact := (intact_start h0 (by omega) hb k).run hc ops
  have hd : (s.destroy client).Intact := hs.step hc .flush
  have hstream : ∀ {t : Writing κ}, t.Intact → t.conn.writeError = 0 →
      t.taken ++ t.conn.occupied = t.accepted :=
    fun ht h' => (ht.carries.carried h').trans (ht.accepted_eq h').symm
  refine ⟨⟨hs.carries.wellFormed.size_le, hd.carries.wellFormed.size_le, hd.carries.inside,
    hs.returns hc⟩, ⟨hstream hs, hstream hd⟩, ⟨passed_run client _ ops, hd.carries.taken_le⟩,
    fun he more => ?_⟩
  obtain ⟨hconn, hsink, hresults⟩ := run_stuck client he more
  have he' : (s.run client more).conn.writeError ≠ 0 := by rw [hconn]; exact he
  obtain ⟨hconn', hsink', -⟩ := run_stuck client he' [.flush]
  exact ⟨hsink'.trans hsink, by rw [show ((s.run client more).destroy client).conn = s.conn from
    hconn'.trans hconn], hresults, hs.carries.taken_le⟩

/-- A client that takes two bytes at a time and fails after ten: the hypotheses
of `stream_integrity` are met, also by runs that end in an error. -/
def twoAtATime : Client ℕ where
  write _ n k := (min (min n 2) (10 - k), k + min (min n 2) (10 - k))
  getWriteError k := (5, k)
  available k := (0, k)
  read k := (-1, k)
  readBuf _ k := ((-1, []), k)
  peek k := (-1, k)
  connected k := (1, k)

theorem stream_integrity_twoAtATime :
    let s := (start (List.replicate 4 0) 4 0).run twoAtATime [.block [1, 2, 3, 4, 5, 6], .byte 7]
    (s.destroy twoAtATime).taken <+: s.passed := by
  have hc : twoAtATime.Lawful := fun _ n k => by simp only [twoAtATime]; omega
  exact (stream_integrity hc (by decide) (by decide) (by decide) 0 _).2.2.1.2

end Writing
end McuNet
