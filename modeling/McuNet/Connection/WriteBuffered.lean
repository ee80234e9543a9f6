/-
# The write buffer of a connection

`src/write_buffered_connection.h` and `src/write_buffered_connection.cpp`.

A `WriteBufferedConnection` collects the bytes written to it in a buffer of at
most 255 bytes and hands them to a `Client` when the buffer is full, when
`flush` is called and when it is destroyed.  The client may take fewer bytes
than it is offered; `FlushInternal` offers the rest again until the client takes
none.

The two loops of the source take a number of passes here and give up with `none`
when it is used up.  The flush loop needs no more passes than there are bytes to
flush, and the block write loop two for each byte, as long as the client keeps
its contract (`flushLoop_isSome`, `writeLoop_isSome`); a client that reports
more bytes than it was offered sends the flush loop outside of the buffer, with
`buf` and `size` wrapping around as `size_t` does.
-/

import McuNet.Platform.Interface
import Mathlib.Tactic.Cases

namespace McuNet

/-- An integer converted to `size_t`. -/
def sizeT (n : ℤ) : ℕ := (n % 2 ^ 64).toNat

/-- `write_buffer_` is the memory behind the pointer, of which the first
`write_buffer_size_` bytes are waiting to be written.  `writeError` is the field
of the base class `Print` behind `getWriteError` and `setWriteError`. -/
structure WriteBufferedConnection where
  writeBuffer : List UInt8
  writeBufferLimit : ℕ
  writeBufferSize : ℕ := 0
  writeError : ℤ := 0
  deriving DecidableEq, Repr

namespace WriteBufferedConnection

variable {κ : Type*}

/-- `kBlockedFlush`: the write error of a flush that made no progress. -/
def kBlockedFlush : ℤ := 1234

/-- The occupied part of the buffer. -/
def occupied (conn : WriteBufferedConnection) : List UInt8 :=
  conn.writeBuffer.take conn.writeBufferSize

/-- `write_buffer_[write_buffer_size_++] = b`. -/
def push (conn : WriteBufferedConnection) (b : UInt8) : WriteBufferedConnection :=
  { conn with
    writeBuffer := conn.writeBuffer.set conn.writeBufferSize b
    writeBufferSize := (conn.writeBufferSize + 1) % 2 ^ 8 }

/-- `memcpy(write_buffer_ + write_buffer_size_, buf, room)` and
`write_buffer_size_ += room`, for the `room` bytes `bytes`. -/
def copyIn (conn : WriteBufferedConnection) (bytes : List UInt8) : WriteBufferedConnection :=
  { conn with
    writeBuffer := conn.writeBuffer.take conn.writeBufferSize ++ bytes ++
      conn.writeBuffer.drop (conn.writeBufferSize + bytes.length)
    writeBufferSize := (conn.writeBufferSize + bytes.length) % 2 ^ 8 }

/-- The loop of `FlushInternal`, with `buf` as an offset into `write_buffer_`. -/
def flushLoop (client : Client κ) :
    ℕ → WriteBufferedConnection → ℕ → ℕ → κ → Option Bool × WriteBufferedConnection × κ
  | 0, conn, _, _, k => (none, conn, k)
  | passes + 1, conn, buf, size, k =>
    let r := client.write ⟨conn.occupied, buf⟩ size k
    let wrote := r.1
    if wrote = size then (some true, { conn with writeBufferSize := 0 }, r.2)
    else if 0 < wrote then
      flushLoop client passes conn (sizeT (buf + wrote)) (sizeT (size - wrote)) r.2
    else
      let e := client.getWriteError r.2
      if e.1 ≠ 0 then (some false, { conn with writeError := e.1 }, e.2)
      else (some false, { conn with writeError := kBlockedFlush }, e.2)

/-- `FlushInternal`, which flushes a buffer that is not empty; `none` when the
loop is still going after as many passes as there are bytes. -/
def flushInternal (client : Client κ) (conn : WriteBufferedConnection) (k : κ) :
    Option Bool × WriteBufferedConnection × κ :=
  if conn.writeError ≠ 0 then (some false, conn, k)
  else flushLoop client conn.writeBufferSize conn 0 conn.writeBufferSize k

/-- `flush`, which drops the answer of `FlushInternal`.  It drops a `none` too: where the
loop of the source goes on for ever this definition returns with what it has, so a result
about a client that may break its contract has to say what it assumes of the answers. -/
def flush (client : Client κ) (conn : WriteBufferedConnection) (k : κ) :
    WriteBufferedConnection × κ :=
  if conn.writeBufferSize = 0 then (conn, k) else (flushInternal client conn k).2

/-- `write(uint8_t)`. -/
def write (client : Client κ) (b : UInt8) (conn : WriteBufferedConnection) (k : κ) :
    ℕ × WriteBufferedConnection × κ :=
  let r :=
    if conn.writeBufferLimit ≤ conn.writeBufferSize then flushInternal client conn k
    else (some (decide (conn.writeError = 0)), conn, k)
  if r.1 = some true then (1, r.2.1.push b, r.2.2) else (0, r.2)

/-- The loop of `write(const uint8_t*, size_t)`, over the bytes not yet copied.
The pass that flushes leaves `room` at zero and copies nothing; the next pass
finds the buffer empty. -/
def writeLoop (client : Client κ) :
    ℕ → List UInt8 → WriteBufferedConnection → κ → Option Bool × WriteBufferedConnection × κ
  | _, [], conn, k => (some true, conn, k)
  | 0, _ :: _, conn, k => (none, conn, k)
  | passes + 1, b :: bs, conn, k =>
    if conn.writeBufferLimit - conn.writeBufferSize = 0 then
      let r := flushInternal client conn k
      if r.1 = some true then writeLoop client passes (b :: bs) r.2.1 r.2.2 else r
    else
      let room := min (conn.writeBufferLimit - conn.writeBufferSize) (b :: bs).length
      writeLoop client passes ((b :: bs).drop room) (conn.copyIn ((b :: bs).take room)) k

/-- `write(const uint8_t*, size_t)`. -/
def writeBuf (client : Client κ) (buf : List UInt8) (conn : WriteBufferedConnection) (k : κ) :
    ℕ × WriteBufferedConnection × κ :=
  if conn.writeError ≠ 0 then (0, conn, k)
  else
    let r := writeLoop client (2 * buf.length) buf conn k
    (if r.1 = some true then buf.length else 0, r.2)

/-- `availableForWrite`. -/
def availableForWrite (conn : WriteBufferedConnection) : ℤ :=
  if conn.writeError = 0 then conn.writeBufferLimit - conn.writeBufferSize else -1

/-! ### The buffer between two calls -/

/-- What the constructor is given and every call keeps: a buffer of 1 to 255
bytes, of which at most all are occupied. -/
structure WellFormed (conn : WriteBufferedConnection) : Prop where
  limit_pos : 0 < conn.writeBufferLimit
  limit_lt : conn.writeBufferLimit < 2 ^ 8
  limit_le : conn.writeBufferLimit ≤ conn.writeBuffer.length
  size_le : conn.writeBufferSize ≤ conn.writeBufferLimit

namespace WellFormed

variable {conn : WriteBufferedConnection}

/-- The occupied part has the length the counter says. -/
theorem length_occupied (h : conn.WellFormed) : conn.occupied.length = conn.writeBufferSize := by
  have := h.limit_le
  have := h.size_le
  rw [occupied, List.length_take]
  omega

/-- A failed flush only records an error. -/
theorem setError (h : conn.WellFormed) (e : ℤ) :
    WellFormed { conn with writeError := e } :=
  ⟨h.limit_pos, h.limit_lt, h.limit_le, h.size_le⟩

/-- A flushed buffer is empty. -/
theorem empty (h : conn.WellFormed) : WellFormed { conn with writeBufferSize := 0 } :=
  ⟨h.limit_pos, h.limit_lt, h.limit_le, Nat.zero_le _⟩

/-- Bytes that fit are appended to the occupied part, and the 8-bit counter does
not wrap. -/
theorem occupied_copyIn (h : conn.WellFormed) {bytes : List UInt8}
    (hfit : conn.writeBufferSize + bytes.length ≤ conn.writeBufferLimit) :
    (conn.copyIn bytes).occupied = conn.occupied ++ bytes := by
  have hlt : conn.writeBufferSize + bytes.length < 2 ^ 8 := lt_of_le_of_lt hfit h.limit_lt
  have hlen : (conn.writeBuffer.take conn.writeBufferSize ++ bytes).length =
      conn.writeBufferSize + bytes.length := by
    rw [List.length_append, ← occupied, h.length_occupied]
  rw [occupied, copyIn]
  simp only [Nat.mod_eq_of_lt hlt]
  rw [← hlen, List.take_left, occupied]

theorem copyIn (h : conn.WellFormed) {bytes : List UInt8}
    (hfit : conn.writeBufferSize + bytes.length ≤ conn.writeBufferLimit) :
    (conn.copyIn bytes).WellFormed := by
  have hlt : conn.writeBufferSize + bytes.length < 2 ^ 8 := lt_of_le_of_lt hfit h.limit_lt
  have hlim := h.limit_le
  refine ⟨h.limit_pos, h.limit_lt, ?_, ?_⟩
  · simp only [WriteBufferedConnection.copyIn, List.length_append, List.length_take,
      List.length_drop]
    omega
  · change (conn.writeBufferSize + bytes.length) % 2 ^ 8 ≤ conn.writeBufferLimit
    rwa [Nat.mod_eq_of_lt hlt]

/-- One byte is pushed as a block of length one is copied. -/
theorem push_eq_copyIn (h : conn.WellFormed)
    (hroom : conn.writeBufferSize < conn.writeBufferLimit) (b : UInt8) :
    conn.push b = conn.copyIn [b] := by
  have hlt : conn.writeBufferSize < conn.writeBuffer.length := lt_of_lt_of_le hroom h.limit_le
  simp [push, WriteBufferedConnection.copyIn, List.set_eq_take_append_cons_drop, hlt]

end WellFormed

/-! ### The loops end -/

variable {client : Client κ}

theorem sizeT_natCast {n : ℕ} (h : n < 2 ^ 64) : sizeT n = n := by
  unfold sizeT
  omega

/-- The remaining size after a partial write that the contract allows. -/
theorem sizeT_sub {size wrote : ℕ} (h : wrote ≤ size) (hs : size < 2 ^ 64) :
    sizeT ((size : ℤ) - wrote) = size - wrote := by
  unfold sizeT
  omega

section Passes

variable {conn : WriteBufferedConnection} {buf size : ℕ} {k : κ}

/-- The pass of the flush loop in which the client takes everything. -/
theorem flushLoop_all (passes : ℕ) (h : (client.write ⟨conn.occupied, buf⟩ size k).1 = size) :
    flushLoop client (passes + 1) conn buf size k =
      (some true, { conn with writeBufferSize := 0 },
        (client.write ⟨conn.occupied, buf⟩ size k).2) := by
  rw [flushLoop]
  exact if_pos h

/-- A pass in which the client takes some of the bytes: the loop goes on with the
rest, inside the buffer. -/
theorem flushLoop_some (passes : ℕ) (h0 : 0 < (client.write ⟨conn.occupied, buf⟩ size k).1)
    (h : (client.write ⟨conn.occupied, buf⟩ size k).1 < size) (hs : buf + size < 2 ^ 64) :
    flushLoop client (passes + 1) conn buf size k =
      flushLoop client passes conn (buf + (client.write ⟨conn.occupied, buf⟩ size k).1)
        (size - (client.write ⟨conn.occupied, buf⟩ size k).1)
        (client.write ⟨conn.occupied, buf⟩ size k).2 := by
  rw [flushLoop]
  simp only [h.ne, h0, if_true, if_false]
  rw [sizeT_sub h.le (by omega), ← Nat.cast_add, sizeT_natCast (by omega)]

/-- The pass in which the client takes nothing: an error is recorded. -/
theorem flushLoop_none (passes : ℕ) (h : (client.write ⟨conn.occupied, buf⟩ size k).1 = 0)
    (hs : 0 < size) :
    ∃ e, e ≠ 0 ∧ flushLoop client (passes + 1) conn buf size k =
      (some false, { conn with writeError := e },
        (client.getWriteError (client.write ⟨conn.occupied, buf⟩ size k).2).2) := by
  rw [flushLoop]
  simp only [h, hs.ne, lt_irrefl, if_false]
  split_ifs with herr
  · exact ⟨_, herr, rfl⟩
  · exact ⟨kBlockedFlush, by decide, rfl⟩

/-- With a lawful client a pass is one of these three. -/
theorem write_cases (hc : client.Lawful) (conn : WriteBufferedConnection) (buf size : ℕ) (k : κ) :
    (client.write ⟨conn.occupied, buf⟩ size k).1 = size ∨
    (0 < (client.write ⟨conn.occupied, buf⟩ size k).1 ∧
      (client.write ⟨conn.occupied, buf⟩ size k).1 < size) ∨
    (client.write ⟨conn.occupied, buf⟩ size k).1 = 0 := by
  have := hc ⟨conn.occupied, buf⟩ size k
  omega

end Passes

/-- **The flush loop ends.**  With a lawful client each pass but the last one
writes at least one byte, so there are no more passes than bytes. -/
theorem flushLoop_isSome (hc : client.Lawful) (conn : WriteBufferedConnection) :
    ∀ (passes buf size : ℕ) (k : κ), 0 < size → size ≤ passes → buf + size < 2 ^ 64 →
      (flushLoop client passes conn buf size k).1.isSome = true := by
  intro passes
  induction passes with
  | zero => intro buf size k h0 h; omega
  | succ passes ih =>
    intro buf size k h0 h h64
    rcases write_cases hc conn buf size k with
      hall | ⟨hpos, hlt⟩ | hnone
    · rw [flushLoop_all passes hall]; rfl
    · rw [flushLoop_some passes hpos hlt h64]
      exact ih _ _ _ (by omega) (by omega) (by omega)
    · obtain ⟨e, -, he⟩ := flushLoop_none passes hnone h0
      rw [he]; rfl

/-- What a flush that ended made of the connection: a successful one emptied the
buffer, a failed one left an error, and neither changed anything else. -/
def FlushEnds (conn : WriteBufferedConnection) : Option Bool → WriteBufferedConnection → Prop
  | some true, conn' => conn' = { conn with writeBufferSize := 0 }
  | some false, conn' => ∃ e, e ≠ 0 ∧ conn' = { conn with writeError := e }
  | none, conn' => conn' = conn

theorem flushLoop_ends (conn : WriteBufferedConnection) (passes : ℕ) :
    ∀ (buf size : ℕ) (k : κ), FlushEnds conn (flushLoop client passes conn buf size k).1
      (flushLoop client passes conn buf size k).2.1 := by
  induction passes with
  | zero => intro buf size k; rfl
  | succ passes ih =>
    intro buf size k
    simp only [flushLoop]
    split_ifs with hall hsome herr
    · rfl
    · exact ih _ _ _
    · exact ⟨_, herr, rfl⟩
    · exact ⟨kBlockedFlush, by decide, rfl⟩

/-- **A flush succeeds with an empty buffer or fails with an error**, whatever
the client does within its contract. -/
theorem flushInternal_ends (hc : client.Lawful) {conn : WriteBufferedConnection}
    (h : conn.WellFormed) (h0 : 0 < conn.writeBufferSize) (k : κ) :
    ((flushInternal client conn k).1 = some true ∧
      (flushInternal client conn k).2.1 = { conn with writeBufferSize := 0 }) ∨
    ((flushInternal client conn k).1 = some false ∧ ∃ e, e ≠ 0 ∧
      (flushInternal client conn k).2.1 = { conn with writeError := e }) := by
  rw [flushInternal]
  split_ifs with herr
  · exact .inr ⟨rfl, conn.writeError, herr, rfl⟩
  · have hsize : conn.writeBufferSize < 2 ^ 8 := lt_of_le_of_lt h.size_le h.limit_lt
    have hsome := flushLoop_isSome hc conn _ 0 _ k h0 le_rfl (by omega)
    have hend : FlushEnds conn (flushLoop client _ conn 0 conn.writeBufferSize k).1 _ :=
      flushLoop_ends conn conn.writeBufferSize 0 conn.writeBufferSize k
    obtain ⟨ok, hok⟩ := Option.isSome_iff_exists.1 hsome
    rw [hok] at hend
    cases ok with
    | true => exact .inl ⟨hok, hend⟩
    | false => exact .inr ⟨hok, hend⟩

/-! ### The block write loop -/

/-- A pass that finds the buffer full flushes it. -/
theorem writeLoop_full (hfull : conn.writeBufferLimit ≤ conn.writeBufferSize) (passes : ℕ)
    (b : UInt8) (bs : List UInt8) (k : κ) :
    writeLoop client (passes + 1) (b :: bs) conn k =
      if (flushInternal client conn k).1 = some true then
        writeLoop client passes (b :: bs) (flushInternal client conn k).2.1
          (flushInternal client conn k).2.2
      else flushInternal client conn k := by
  rw [writeLoop, if_pos (Nat.sub_eq_zero_of_le hfull)]

/-- **A pass that finds room** copies a front of the block that fits, of at least one
byte. -/
theorem writeLoop_room (hroom : conn.writeBufferSize < conn.writeBufferLimit) (b : UInt8)
    (bs : List UInt8) :
    ∃ xs ys, xs ++ ys = b :: bs ∧ xs ≠ [] ∧
      conn.writeBufferSize + xs.length ≤ conn.writeBufferLimit ∧
      ∀ (client : Client κ) (passes : ℕ) (k : κ), writeLoop client (passes + 1) (b :: bs) conn k =
        writeLoop client passes ys (conn.copyIn xs) k := by
  let room := min (conn.writeBufferLimit - conn.writeBufferSize) (b :: bs).length
  have hpos : 0 < (b :: bs).length := Nat.succ_pos _
  have hlen : ((b :: bs).take room).length = room := List.length_take_of_le (Nat.min_le_right _ _)
  refine ⟨(b :: bs).take room, (b :: bs).drop room, List.take_append_drop _ _, ?_, ?_, ?_⟩
  · rw [← List.length_pos_iff]
    omega
  · omega
  · intro client passes k
    rw [writeLoop, if_neg (Nat.sub_ne_zero_of_lt hroom)]

/-- **The block write loop ends** within two passes for each byte: a pass that
flushes is followed by one that copies. -/
theorem writeLoop_isSome (hc : client.Lawful) (passes : ℕ) :
    ∀ (buf : List UInt8) (conn : WriteBufferedConnection) (k : κ), conn.WellFormed →
      2 * buf.length ≤ passes + (if conn.writeBufferSize < conn.writeBufferLimit then 1 else 0) →
        (writeLoop client passes buf conn k).1.isSome = true := by
  induction passes with
  | zero =>
    intro buf conn k _ hlen
    cases buf with
    | nil => rfl
    | cons b bs => rw [List.length_cons] at hlen; split_ifs at hlen <;> omega
  | succ passes ih =>
    intro buf conn k h hlen
    cases buf with
    | nil => rfl
    | cons b bs =>
      by_cases hroom : conn.writeBufferSize < conn.writeBufferLimit
      · obtain ⟨xs, ys, hblock, hne, hfit, hloop⟩ := writeLoop_room (κ := κ) hroom b bs
        have hpos : 0 < xs.length := List.length_pos_iff.2 hne
        rw [if_pos hroom, ← hblock, List.length_append] at hlen
        rw [hloop]
        exact ih ys _ k (h.copyIn hfit) (by omega)
      · rw [if_neg hroom] at hlen
        have hfull := not_lt.1 hroom
        rw [writeLoop_full hfull]
        rcases flushInternal_ends hc h (lt_of_lt_of_le h.limit_pos hfull) k with
          ⟨htrue, hconn⟩ | ⟨hfalse, -⟩
        · rw [if_pos htrue, hconn]
          refine ih _ _ _ h.empty ?_
          rw [if_pos (show 0 < conn.writeBufferLimit from h.limit_pos)]
          omega
        · rw [if_neg (by rw [hfalse]; decide), hfalse]
          rfl

/-! ### What the calls do to the client's state -/

section Moves

variable {R : κ → κ → Prop} (refl : ∀ k, R k k) (trans : ∀ {a b c}, R a b → R b c → R a c)
  (hm : client.Moves R)

include refl trans hm

theorem flushLoop_rel (conn : WriteBufferedConnection) (passes : ℕ) :
    ∀ (buf size : ℕ) (k : κ), R k (flushLoop client passes conn buf size k).2.2 := by
  induction passes with
  | zero => intro buf size k; exact refl k
  | succ passes ih =>
    intro buf size k
    have hw := hm.write ⟨conn.occupied, buf⟩ size k
    simp only [flushLoop]
    split_ifs with hall hsome herr
    · exact hw
    · exact trans hw (ih _ _ _)
    · exact trans hw (hm.getWriteError _)
    · exact trans hw (hm.getWriteError _)

theorem flushInternal_rel (conn : WriteBufferedConnection) (k : κ) :
    R k (flushInternal client conn k).2.2 := by
  rw [flushInternal]
  split_ifs with herr
  · exact refl k
  · exact flushLoop_rel refl trans hm conn _ _ _ k

theorem flush_rel (conn : WriteBufferedConnection) (k : κ) : R k (flush client conn k).2 := by
  rw [flush]
  split_ifs with h0
  · exact refl k
  · exact flushInternal_rel refl trans hm conn k

theorem write_rel (b : UInt8) (conn : WriteBufferedConnection) (k : κ) :
    R k (write client b conn k).2.2 := by
  have hflush := flushInternal_rel refl trans hm conn k
  simp only [write]
  split_ifs with hfull hok hok
  · exact hflush
  · exact hflush
  · exact refl k
  · exact refl k

theorem writeLoop_rel (passes : ℕ) :
    ∀ (buf : List UInt8) (conn : WriteBufferedConnection) (k : κ),
      R k (writeLoop client passes buf conn k).2.2 := by
  induction passes with
  | zero => intro buf conn k; cases buf <;> exact refl k
  | succ passes ih =>
    intro buf conn k
    cases buf with
    | nil => exact refl k
    | cons b bs =>
      have hflush := flushInternal_rel refl trans hm conn k
      simp only [writeLoop]
      split_ifs with hfull hok
      · exact trans hflush (ih _ _ _)
      · exact hflush
      · exact ih _ _ _

theorem writeBuf_rel (buf : List UInt8) (conn : WriteBufferedConnection) (k : κ) :
    R k (writeBuf client buf conn k).2.2 := by
  rw [writeBuf]
  split_ifs with herr
  · exact refl k
  · exact writeLoop_rel refl trans hm _ _ _ _

end Moves

end WriteBufferedConnection

end McuNet
