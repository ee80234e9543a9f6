/-
# Writing a block and writing its bytes

`WriteBufferedConnection::write(uint8_t)` and
`WriteBufferedConnection::write(const uint8_t*, size_t)`.

The block write copies as much as fits, flushes when there is no room left and
goes on; the byte write flushes when the buffer is full and there is a byte to
write.  They flush at the same points: for every client the block leaves behind
what its bytes do, written one after the other, and makes the same calls on the
way (`writeBuf_eq_writeEach`).  So it does not matter how a stream is cut into
blocks (`writeBuf_append`).
-/

import McuNet.Connection.Stream

namespace McuNet
namespace WriteBufferedConnection

variable {κ : Type*} {client : Client κ} {conn : WriteBufferedConnection} {k : κ}

/-- A call of `write(uint8_t)` for each byte; first, how many were accepted. -/
def writeEach (client : Client κ) :
    List UInt8 → WriteBufferedConnection → κ → ℕ × WriteBufferedConnection × κ
  | [], conn, k => (0, conn, k)
  | b :: bs, conn, k =>
    let r := write client b conn k
    let s := writeEach client bs r.2.1 r.2.2
    (r.1 + s.1, s.2)

/-- The bytes of two blocks are written one block after the other. -/
theorem writeEach_append (xs ys : List UInt8) (conn : WriteBufferedConnection) (k : κ) :
    let r := writeEach client xs conn k
    let s := writeEach client ys r.2.1 r.2.2
    writeEach client (xs ++ ys) conn k = (r.1 + s.1, s.2) := by
  induction xs generalizing conn k with
  | nil => simp only [writeEach, List.nil_append, Nat.zero_add]
  | cons x xs ih => simp only [writeEach, List.cons_append, ih, Nat.add_assoc]

/-- After an error no byte is accepted and nothing happens. -/
theorem writeEach_stuck (he : conn.writeError ≠ 0) (k : κ) (xs : List UInt8) :
    writeEach client xs conn k = (0, conn, k) := by
  induction xs with
  | nil => rfl
  | cons x xs ih =>
    simp only [writeEach, write_stuck he, ih, Nat.add_zero]

/-! ### The buffer -/

/-- Two blocks that fit are copied as one. -/
theorem WellFormed.copyIn_copyIn (h : conn.WellFormed) {xs ys : List UInt8}
    (hfit : conn.writeBufferSize + (xs ++ ys).length ≤ conn.writeBufferLimit) :
    (conn.copyIn xs).copyIn ys = conn.copyIn (xs ++ ys) := by
  rw [List.length_append] at hfit
  have hlimit := h.limit_lt
  have hbuffer := h.limit_le
  have hsize : (conn.writeBufferSize + xs.length) % 2 ^ 8 = conn.writeBufferSize + xs.length :=
    Nat.mod_eq_of_lt (by omega)
  have hfront : (conn.writeBuffer.take conn.writeBufferSize ++ xs).length =
      conn.writeBufferSize + xs.length := by
    rw [List.length_append, List.length_take]
    omega
  have htake : (conn.writeBuffer.take conn.writeBufferSize ++ xs ++
      conn.writeBuffer.drop (conn.writeBufferSize + xs.length)).take
        (conn.writeBufferSize + xs.length) = conn.writeBuffer.take conn.writeBufferSize ++ xs := by
    rw [← hfront, List.take_left]
  have hdrop : (conn.writeBuffer.take conn.writeBufferSize ++ xs ++
      conn.writeBuffer.drop (conn.writeBufferSize + xs.length)).drop
        (conn.writeBufferSize + xs.length + ys.length) =
      conn.writeBuffer.drop (conn.writeBufferSize + (xs ++ ys).length) := by
    rw [← List.drop_drop, ← hfront, List.drop_left, List.drop_drop, hfront, List.length_append,
      Nat.add_assoc]
  rw [WriteBufferedConnection.copyIn, WriteBufferedConnection.copyIn]
  simp only [hsize, htake, hdrop]
  rw [WriteBufferedConnection.copyIn, List.append_assoc _ xs ys, List.length_append,
    ← Nat.add_assoc]

/-- An empty block changes nothing. -/
theorem WellFormed.copyIn_nil (h : conn.WellFormed) : conn.copyIn [] = conn := by
  have hsize := h.size_le
  have hlimit := h.limit_lt
  have hmod : conn.writeBufferSize % 2 ^ 8 = conn.writeBufferSize := Nat.mod_eq_of_lt (by omega)
  rw [WriteBufferedConnection.copyIn, List.append_nil, List.length_nil, Nat.add_zero,
    List.take_append_drop, hmod]

/-! ### Bytes that fit, and the byte that flushes -/

/-- A byte for which there is room. -/
theorem WellFormed.write_room (h : conn.WellFormed) (he : conn.writeError = 0)
    (hroom : conn.writeBufferSize < conn.writeBufferLimit) (b : UInt8) (k : κ) :
    write client b conn k = (1, conn.copyIn [b], k) := by
  simp only [write, if_neg (not_le.2 hroom), he]
  rw [h.push_eq_copyIn hroom]
  rfl

/-- **Bytes that fit** are copied into the buffer, and the client gets nothing. -/
theorem WellFormed.writeEach_room (h : conn.WellFormed) (he : conn.writeError = 0)
    {xs : List UInt8} (hfit : conn.writeBufferSize + xs.length ≤ conn.writeBufferLimit) (k : κ) :
    writeEach client xs conn k = (xs.length, conn.copyIn xs, k) := by
  induction xs generalizing conn with
  | nil => rw [h.copyIn_nil]; rfl
  | cons x xs ih =>
    rw [List.length_cons] at hfit
    have hone : conn.writeBufferSize + [x].length ≤ conn.writeBufferLimit := by
      rw [List.length_singleton]
      omega
    have hlimit := h.limit_lt
    have hsize : (conn.copyIn [x]).writeBufferSize = conn.writeBufferSize + 1 :=
      Nat.mod_eq_of_lt (by omega)
    have hrest := ih (h.copyIn hone) he (by
      rw [hsize]
      change conn.writeBufferSize + 1 + xs.length ≤ conn.writeBufferLimit
      omega)
    simp only [writeEach, h.write_room he (by omega), hrest]
    rw [h.copyIn_copyIn (by
      rw [List.length_append, List.length_singleton]
      omega), List.singleton_append, List.length_cons, Nat.add_comm]

/-- **The byte that flushes.**  A full buffer is flushed before the first byte; if
that succeeds the bytes are written as to the flushed connection. -/
theorem WellFormed.writeEach_full (hc : client.Lawful) (h : conn.WellFormed)
    (hfull : conn.writeBufferLimit ≤ conn.writeBufferSize) (b : UInt8) (bs : List UInt8) (k : κ) :
    let r := flushInternal client conn k
    (r.1 = some true →
      writeEach client (b :: bs) conn k = writeEach client (b :: bs) r.2.1 r.2.2) ∧
    (r.1 ≠ some true → writeEach client (b :: bs) conn k = (0, r.2)) := by
  intro r
  have hpos : 0 < conn.writeBufferSize := lt_of_lt_of_le h.limit_pos hfull
  have hends : (r.1 = some true ∧ r.2.1 = { conn with writeBufferSize := 0 }) ∨
      (r.1 = some false ∧ ∃ e, e ≠ 0 ∧ r.2.1 = { conn with writeError := e }) :=
    flushInternal_ends hc h hpos k
  have hwrite : write client b conn k =
      if r.1 = some true then (1, r.2.1.push b, r.2.2) else (0, r.2) := by
    rw [write, if_pos hfull]
  constructor
  · intro hok
    have he : conn.writeError = 0 := by
      by_contra hne
      have hstuck : r = (some false, conn, k) := flushInternal_stuck hne k
      rw [hstuck] at hok
      cases hok
    rcases hends with ⟨-, hconn⟩ | ⟨hno, -⟩
    · have hempty : r.2.1.WellFormed := hconn ▸ h.empty
      have hroom : r.2.1.writeBufferSize < r.2.1.writeBufferLimit := hconn ▸ h.limit_pos
      have he' : r.2.1.writeError = 0 := hconn ▸ he
      simp only [writeEach, hwrite, if_pos hok, hempty.write_room he' hroom,
        hempty.push_eq_copyIn hroom]
    · exact absurd (hno.symm.trans hok) (by decide)
  · intro hno
    rcases hends with ⟨hok, -⟩ | ⟨-, e, hne, hconn⟩
    · exact absurd hok hno
    · have hstuck : r.2.1.writeError ≠ 0 := hconn ▸ hne
      simp only [writeEach, hwrite, if_neg hno, writeEach_stuck hstuck, Nat.add_zero]

/-! ### The block -/

/-- **The block write loop writes the bytes**, when it may make two passes for each
byte. -/
theorem writeLoop_eq_writeEach (hc : client.Lawful) (passes : ℕ) :
    ∀ {xs : List UInt8} {conn : WriteBufferedConnection} {k : κ}, conn.WellFormed →
      conn.writeError = 0 →
      2 * xs.length ≤ passes + (if conn.writeBufferSize < conn.writeBufferLimit then 1 else 0) →
        (writeLoop client passes xs conn k).2 = (writeEach client xs conn k).2 ∧
          ((writeEach client xs conn k).2.1.writeError = 0 →
            (writeLoop client passes xs conn k).1 = some true ∧
              (writeEach client xs conn k).1 = xs.length) := by
  induction passes with
  | zero =>
    intro xs conn k _ _ hlen
    cases xs with
    | nil => exact ⟨rfl, fun _ => ⟨rfl, rfl⟩⟩
    | cons b bs => rw [List.length_cons] at hlen; split_ifs at hlen <;> omega
  | succ passes ih =>
    intro xs conn k h he hlen
    cases xs with
    | nil => exact ⟨rfl, fun _ => ⟨rfl, rfl⟩⟩
    | cons b bs =>
      by_cases hroom : conn.writeBufferSize < conn.writeBufferLimit
      · -- a pass that copies
        obtain ⟨xs, ys, hblock, hne, hfit, hloop⟩ := writeLoop_room (κ := κ) hroom b bs
        have hpos : 0 < xs.length := List.length_pos_iff.2 hne
        have hcut : writeEach client (xs ++ ys) conn k = _ := writeEach_append _ _ conn k
        simp only [h.writeEach_room he hfit] at hcut
        rw [if_pos hroom, ← hblock, List.length_append] at hlen
        obtain ⟨hstate, hok⟩ := @ih ys _ k (h.copyIn hfit) he (by omega)
        rw [hloop, ← hblock, hcut]
        refine ⟨hstate, fun h' => ?_⟩
        obtain ⟨htrue, hcount⟩ := hok h'
        refine ⟨htrue, ?_⟩
        rw [List.length_append, ← hcount]
      · -- a pass that flushes
        have hfull := not_lt.1 hroom
        have hends := flushInternal_ends hc h (lt_of_lt_of_le h.limit_pos hfull) k
        obtain ⟨hyes, hno⟩ := h.writeEach_full hc hfull b bs k
        rw [writeLoop_full hfull]
        by_cases hflushed : (flushInternal client conn k).1 = some true
        · rw [if_pos hflushed, hyes hflushed]
          rcases hends with ⟨-, hconn⟩ | ⟨hfalse, -⟩
          · rw [hconn]
            refine ih h.empty he ?_
            rw [if_neg hroom] at hlen
            rw [if_pos (show 0 < conn.writeBufferLimit from h.limit_pos)]
            omega
          · exact absurd (hfalse.symm.trans hflushed) (by decide)
        · rw [if_neg hflushed, hno hflushed]
          refine ⟨rfl, fun h' => ?_⟩
          rcases hends with ⟨htrue, -⟩ | ⟨-, e, hne, hconn⟩
          · exact absurd htrue hflushed
          · rw [hconn] at h'
            exact absurd h' hne

/-- What the block write and the byte writes come to, for any client. -/
theorem writeBuf_eq (hc : client.Lawful) (h : conn.WellFormed) (xs : List UInt8) (k : κ) :
    (writeBuf client xs conn k).2 = (writeEach client xs conn k).2 ∧
      ((writeEach client xs conn k).2.1.writeError = 0 →
        (writeBuf client xs conn k).1 = xs.length ∧ (writeEach client xs conn k).1 = xs.length) := by
  by_cases he : conn.writeError = 0
  · obtain ⟨hstate, hok⟩ := writeLoop_eq_writeEach hc (2 * xs.length) (k := k) h he
      (Nat.le_add_right _ _)
    rw [writeBuf, if_neg (not_not.2 he)]
    refine ⟨hstate, fun h' => ?_⟩
    obtain ⟨htrue, hcount⟩ := hok h'
    exact ⟨if_pos htrue, hcount⟩
  · rw [writeBuf_stuck he, writeEach_stuck he]
    exact ⟨rfl, fun h' => absurd h' he⟩

/-- A byte write keeps the buffer well formed. -/
theorem WellFormed.after_write (hc : client.Lawful) (h : conn.WellFormed) (b : UInt8) (k : κ) :
    (write client b conn k).2.1.WellFormed := by
  by_cases he : conn.writeError = 0
  · by_cases hroom : conn.writeBufferSize < conn.writeBufferLimit
    · rw [h.write_room he hroom]
      exact h.copyIn hroom
    · rw [write, if_pos (not_lt.1 hroom)]
      rcases flushInternal_ends hc h (lt_of_lt_of_le h.limit_pos (not_lt.1 hroom)) k with
        ⟨hok, hconn⟩ | ⟨hno, e, -, hconn⟩
      · simp only [hok, hconn, if_true]
        rw [h.empty.push_eq_copyIn h.limit_pos]
        exact h.empty.copyIn ((Nat.zero_add 1).trans_le h.limit_pos)
      · simp only [hno, hconn, Option.some.injEq, Bool.false_eq_true, if_false]
        exact h.setError e
  · rw [write_stuck he]
    exact h

/-- A block write keeps the buffer well formed. -/
theorem WellFormed.after_writeBuf (hc : client.Lawful) (h : conn.WellFormed) (xs : List UInt8)
    (k : κ) : (writeBuf client xs conn k).2.1.WellFormed := by
  rw [(writeBuf_eq hc h xs k).1]
  induction xs generalizing conn k with
  | nil => exact h
  | cons x xs ih => exact ih (h.after_write hc x k) _

/-- **A block and its bytes.**  For any client that keeps its contract and any
state of the connection, with or without an error, writing a block makes the same
calls of the client, with the same data and in the same order, and leaves behind
the same buffer, error and client as writing its bytes one after the other; without
an error both accept all bytes.  So writing two blocks is writing their
concatenation. -/
theorem writeBuf_eq_writeEach (hc : client.Lawful) (h : conn.WellFormed) (xs ys : List UInt8)
    (k : Recorded κ) :
    let block := writeBuf client.recording xs conn k
    let each := writeEach client.recording xs conn k
    block.2 = each.2 ∧
      (block.2.1.writeError = 0 → block.1 = xs.length ∧ each.1 = xs.length) ∧
      (writeBuf client.recording (xs ++ ys) conn k).2 =
        (writeBuf client.recording ys block.2.1 block.2.2).2 := by
  intro block each
  obtain ⟨hstate, hok⟩ := writeBuf_eq hc.recording h xs k
  refine ⟨hstate, fun h' => hok (hstate ▸ h'), ?_⟩
  rw [(writeBuf_eq hc.recording h (xs ++ ys) k).1,
    (writeBuf_eq hc.recording (h.after_writeBuf hc.recording xs k) ys _).1, writeEach_append]
  simp only [← hstate]
  rfl

/-- A connection with one byte in its buffer of four. -/
def oneByte : WriteBufferedConnection :=
  { writeBuffer := [65, 0, 0, 0], writeBufferLimit := 4, writeBufferSize := 1 }

theorem writeBuf_eq_writeEach_oneByte :
    let block := writeBuf Writing.twoAtATime.recording [1, 2, 3, 4, 5, 6] oneByte ⟨0, []⟩
    block.2.2.calls.map (fun c => (c.buf.offset, c.size, c.wrote)) = [(0, 4, 2), (2, 2, 2)] ∧
      block.2 = (writeEach Writing.twoAtATime.recording [1, 2, 3, 4, 5, 6] oneByte ⟨0, []⟩).2 := by
  have hc : Writing.twoAtATime.Lawful := fun _ n k => by simp only [Writing.twoAtATime]; omega
  have hconn : oneByte.WellFormed := by constructor <;> decide
  exact ⟨by decide, (writeBuf_eq_writeEach hc hconn [1, 2, 3, 4, 5, 6] [] ⟨0, []⟩).1⟩

end WriteBufferedConnection
end McuNet
