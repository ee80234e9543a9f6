/-
# What becomes of a block that is written to a new connection

`TcpServerConnection` over `src/write_buffered_connection.cpp`, from its constructor to
its destructor.

A listener that gets a new connection, writes a block and returns hands the block over
up to the byte at which its client refuses: the client takes a front of the block, and
all of it unless it took nothing at all in some call (`handsOver`).  A write error does
not come from anywhere else (`Blames`).
-/

import McuNet.Connection.Stream
import McuNet.Connection.TcpServer

namespace McuNet

/-- A client that does nothing. -/
def Client.mute {κ : Type*} : Client κ where
  write _ _ k := (0, k)
  getWriteError k := (0, k)
  available k := (0, k)
  read k := (-1, k)
  readBuf _ k := ((-1, []), k)
  peek k := (-1, k)
  connected k := (0, k)

/-- A client that does nothing changes nothing. -/
theorem Client.mute_moves {κ : Type*} {R : κ → κ → Prop} (refl : ∀ k, R k k) :
    (Client.mute (κ := κ)).Moves R where
  write _ _ := refl
  getWriteError := refl
  available := refl
  read := refl
  readBuf _ := refl
  peek := refl
  connected := refl

namespace WriteBufferedConnection

variable {κ : Type*} {client : Client κ} {conn : WriteBufferedConnection} {k : Recorded κ}

/-- There is no error, or a call of the client's `write` to blame for it, in which it
took nothing. -/
def Blames (conn : WriteBufferedConnection) (k : Recorded κ) : Prop :=
  conn.writeError ≠ 0 → ∃ c ∈ k.calls, c.wrote = 0

/-- Where there is no error there is nothing to blame. -/
theorem Blames.of_noError (he : conn.writeError = 0) (k : Recorded κ) : Blames conn k :=
  fun h => absurd he h

/-- Calls that come later do not change who is to blame. -/
theorem Blames.later (h : Blames conn k) {k' : Recorded κ} (hk : k.calls <+: k'.calls) :
    Blames conn k' := by
  intro he
  obtain ⟨c, hc, hzero⟩ := h he
  exact ⟨c, hk.subset hc, hzero⟩

/-- **The flush loop** records an error only after a call that has taken nothing. -/
theorem blames_flushLoop (conn : WriteBufferedConnection) (he : conn.writeError = 0)
    (passes : ℕ) :
    ∀ (buf size : ℕ) (k : Recorded κ),
      Blames (flushLoop client.recording passes conn buf size k).2.1
        (flushLoop client.recording passes conn buf size k).2.2 := by
  induction passes with
  | zero => intro buf size k; exact .of_noError he k
  | succ passes ih =>
    intro buf size k
    have hmem : _ ∈ (flushLoop client.recording (passes + 1) conn buf size k).2.2.calls :=
      mem_calls_flushLoop conn passes buf size k
    simp only [flushLoop] at hmem ⊢
    split_ifs at hmem ⊢ with hall hsome herr
    · exact .of_noError he _
    · exact ih _ _ _
    · exact fun _ => ⟨_, hmem, Nat.eq_zero_of_not_pos hsome⟩
    · exact fun _ => ⟨_, hmem, Nat.eq_zero_of_not_pos hsome⟩

/-- `FlushInternal` makes no call after an error. -/
theorem Blames.flushInternal (h : Blames conn k) :
    Blames (flushInternal client.recording conn k).2.1
      (flushInternal client.recording conn k).2.2 := by
  rw [WriteBufferedConnection.flushInternal]
  split_ifs with he
  · exact h
  · exact blames_flushLoop conn (not_not.1 he) _ _ _ _

/-- `flush` does what `FlushInternal` does, or nothing. -/
theorem Blames.flush (h : Blames conn k) :
    Blames (flush client.recording conn k).1 (flush client.recording conn k).2 := by
  rw [WriteBufferedConnection.flush]
  split_ifs
  · exact h
  · exact h.flushInternal

/-- The block write loop calls the client in flushes only. -/
theorem Blames.writeLoop (passes : ℕ) :
    ∀ {buf : List UInt8} {conn : WriteBufferedConnection} {k : Recorded κ}, Blames conn k →
      Blames (writeLoop client.recording passes buf conn k).2.1
        (writeLoop client.recording passes buf conn k).2.2 := by
  induction passes with
  | zero =>
    intro buf conn k h
    cases buf with
    | nil => exact h
    | cons b bs => exact h
  | succ passes ih =>
    intro buf conn k h
    cases buf with
    | nil => exact h
    | cons b bs =>
      simp only [WriteBufferedConnection.writeLoop]
      split_ifs
      · exact ih h.flushInternal
      · exact h.flushInternal
      · exact ih h

/-- So does the write of a block, which does nothing after an error. -/
theorem Blames.writeBuf (h : Blames conn k) (buf : List UInt8) :
    Blames (writeBuf client.recording buf conn k).2.1
      (writeBuf client.recording buf conn k).2.2 := by
  rw [WriteBufferedConnection.writeBuf]
  split_ifs
  · exact h
  · exact h.writeLoop _

/-- A flush without an error leaves nothing in the buffer. -/
theorem occupied_flush (hc : client.Lawful) (h : conn.WellFormed) (k : κ)
    (he : (flush client conn k).1.writeError = 0) : (flush client conn k).1.occupied = [] := by
  simp only [flush] at he ⊢
  split_ifs at he ⊢ with h0
  · rw [occupied, h0, List.take_zero]
  · rcases flushInternal_ends hc h (Nat.pos_of_ne_zero h0) k with ⟨-, heq⟩ | ⟨-, e, hne, heq⟩
    · rw [heq]
      rfl
    · rw [heq] at he
      exact absurd he hne

/-! ### From the constructor to the destructor -/

/-- A connection as the constructor makes it. -/
theorem wellFormed_new {W : Type*} (n : UInt8) :
    (TcpServerConnection.new n : TcpServerConnection W).WellFormed where
  limit_pos := show 0 < TcpServerConnection.kWriteBufferSize by decide
  limit_lt := show TcpServerConnection.kWriteBufferSize < 2 ^ 8 by decide
  limit_le := List.length_replicate.ge
  size_le := Nat.zero_le _

/-- It carries what was taken before. -/
theorem carries_new {W : Type*} (n : UInt8) (hin : ∀ c ∈ k.calls, c.Inside) :
    Carries (TcpServerConnection.new n : TcpServerConnection W).toWriteBufferedConnection k
      (WriteCall.taken k.calls) where
  wellFormed := wellFormed_new n
  inside := hin
  carried _ := List.append_nil _
  taken_le := List.prefix_rfl

/-- The connection and the client after a block was written and the connection then
destroyed. -/
def writeAndDestroy (client : Client κ) (buf : List UInt8) (conn : WriteBufferedConnection)
    (k : κ) : WriteBufferedConnection × κ :=
  let r := writeBuf client buf conn k
  flush client r.2.1 r.2.2

/-- The calls of a connection come after those that were made before. -/
theorem calls_writeAndDestroy (client : Client κ) (buf : List UInt8)
    (conn : WriteBufferedConnection) (k : Recorded κ) :
    k.calls <+: (writeAndDestroy client.recording buf conn k).2.calls := by
  let later := fun k k' : Recorded κ => k.calls <+: k'.calls
  have hrefl : ∀ k : Recorded κ, later k k := fun _ => List.prefix_rfl
  have hwritten : later k (writeBuf client.recording buf conn k).2.2 :=
    writeBuf_rel hrefl List.IsPrefix.trans client.recording_moves buf conn k
  exact hwritten.trans (flush_rel (R := later) hrefl List.IsPrefix.trans client.recording_moves _ _)

/-- The client with its `write` and `getWriteError` only. -/
def writesOnly (client : Client κ) : Client κ :=
  { Client.mute with write := client.write, getWriteError := client.getWriteError }

/-- The flush loop calls `write` and `getWriteError` of the client only. -/
theorem flushLoop_writesOnly (client : Client κ) (conn : WriteBufferedConnection) (passes : ℕ) :
    ∀ (buf size : ℕ) (k : κ),
      flushLoop (writesOnly client) passes conn buf size k =
        flushLoop client passes conn buf size k := by
  induction passes with
  | zero => intro buf size k; rfl
  | succ passes ih =>
    intro buf size k
    simp only [flushLoop, ih]
    rfl

/-- `FlushInternal` calls no other method either. -/
theorem flushInternal_writesOnly (client : Client κ) (conn : WriteBufferedConnection) (k : κ) :
    flushInternal (writesOnly client) conn k = flushInternal client conn k := by
  simp only [flushInternal, flushLoop_writesOnly]

/-- Nor does the block write loop. -/
theorem writeLoop_writesOnly (client : Client κ) (passes : ℕ) :
    ∀ (buf : List UInt8) (conn : WriteBufferedConnection) (k : κ),
      writeLoop (writesOnly client) passes buf conn k = writeLoop client passes buf conn k := by
  induction passes with
  | zero => intro buf conn k; cases buf <;> rfl
  | succ passes ih =>
    intro buf conn k
    cases buf with
    | nil => rfl
    | cons b bs => simp only [writeLoop, flushInternal_writesOnly, ih]

/-- **A write buffer makes no other call of its client**, so what these two respect is
respected. -/
theorem writeAndDestroy_rel (client : Client κ) {R : κ → κ → Prop} (refl : ∀ k, R k k)
    (trans : ∀ {a b c}, R a b → R b c → R a c) (hwrite : ∀ p n k, R k (client.write p n k).2)
    (herror : ∀ k, R k (client.getWriteError k).2) (buf : List UInt8)
    (conn : WriteBufferedConnection) (k : κ) : R k (writeAndDestroy client buf conn k).2 := by
  have hm : (writesOnly client).Moves R :=
    { Client.mute_moves refl with write := hwrite, getWriteError := herror }
  have heq : writeAndDestroy client buf conn k = writeAndDestroy (writesOnly client) buf conn k := by
    simp only [writeAndDestroy, writeBuf, flush, writeLoop_writesOnly, flushInternal_writesOnly]
  rw [heq]
  exact trans (writeBuf_rel refl trans hm buf conn k) (flush_rel refl trans hm _ _)

/-- **What a connection with an empty buffer hands over of a block**: its client is only
given ranges inside of the buffer, takes a front of the block, and all of the block unless
there is a call in which it took nothing. -/
theorem handsOver (hc : client.Lawful) (h : Carries conn k (WriteCall.taken k.calls))
    (he : conn.writeError = 0) (buf : List UInt8) :
    let k' := (writeAndDestroy client.recording buf conn k).2
    (∀ c ∈ k'.calls, c.Inside) ∧ ∃ told, told <+: buf ∧
      WriteCall.taken k'.calls = WriteCall.taken k.calls ++ told ∧
      ((∀ c ∈ k'.calls, c.wrote ≠ 0) → told = buf) := by
  intro k'
  obtain ⟨hwritten, -⟩ := h.writeBuf hc buf
  have hflushed : Carries (writeAndDestroy client.recording buf conn k).1 k' _ :=
    (hwritten.flush hc).1
  have hblames : Blames (writeAndDestroy client.recording buf conn k).1 k' :=
    ((Blames.of_noError he k).writeBuf buf).flush
  obtain ⟨new, hnew⟩ := calls_writeAndDestroy client buf conn k
  have htaken : WriteCall.taken k'.calls = WriteCall.taken k.calls ++ WriteCall.taken new := by
    rw [← WriteCall.taken_append, hnew]
  have hle : WriteCall.taken k.calls ++ WriteCall.taken new <+: WriteCall.taken k.calls ++ buf :=
    htaken ▸ hflushed.taken_le
  refine ⟨hflushed.inside, WriteCall.taken new, (List.prefix_append_right_inj _).1 hle, htaken,
    fun hall => ?_⟩
  have hok : (writeAndDestroy client.recording buf conn k).1.writeError = 0 := by
    by_contra hne
    obtain ⟨c, hmem, hzero⟩ := hblames hne
    exact hall c hmem hzero
  -- Without an error nothing stays behind in the buffer.
  have hcarried := hflushed.carried hok
  have hempty : (writeAndDestroy client.recording buf conn k).1.occupied = [] :=
    occupied_flush hc.recording hwritten.wellFormed _ hok
  rw [hempty, List.append_nil, htaken] at hcarried
  exact List.append_cancel_left hcarried

/-! ### A block that fits -/

/-- A block that fits into the buffer is copied there. -/
theorem writeBuf_fits (client : Client κ) (he : conn.writeError = 0) {buf : List UInt8}
    (hne : buf ≠ []) (hfit : conn.writeBufferSize + buf.length ≤ conn.writeBufferLimit) (k : κ) :
    writeBuf client buf conn k = (buf.length, conn.copyIn buf, k) := by
  obtain ⟨b, bs, rfl⟩ := List.exists_cons_of_ne_nil hne
  have hlen : (b :: bs).length = bs.length + 1 := List.length_cons
  have hroom : ¬conn.writeBufferLimit - conn.writeBufferSize = 0 := by omega
  have hmin : min (conn.writeBufferLimit - conn.writeBufferSize) (b :: bs).length =
      (b :: bs).length := by omega
  obtain ⟨passes, hpasses⟩ : ∃ passes, 2 * (b :: bs).length = passes + 1 :=
    ⟨2 * bs.length + 1, by omega⟩
  simp only [writeBuf, he, hpasses, writeLoop, if_neg hroom, hmin, List.take_length,
    List.drop_length, ne_eq, not_true_eq_false, if_false, if_true]

/-- A client whose writes can be watched.  `Inv` holds as long as the client is used, and
`Good` while nothing has gone wrong: then each write takes something, and adds it to
`taken`. -/
structure Watched (client : Client κ) (Inv Good : κ → Prop) (taken : κ → List UInt8) : Prop where
  inv : ∀ p size k, Inv k → Inv (client.write p size k).2
  good : ∀ p size k, Inv k → Good (client.write p size k).2 → Good k
  takes : ∀ p size k, Inv k → 0 < size → size < 2 ^ 8 → Good (client.write p size k).2 →
    0 < (client.write p size k).1 ∧ (client.write p size k).1 ≤ size ∧
      taken (client.write p size k).2 = taken k ++ p.bytes (client.write p size k).1
  inv_error : ∀ k, Inv k → Inv (client.getWriteError k).2
  good_error : ∀ k, Inv k → Good (client.getWriteError k).2 → Good k

namespace Watched

variable {client : Client κ} {Inv Good : κ → Prop} {taken : κ → List UInt8}
  (h : Watched client Inv Good taken)

include h

/-- What a flush loop keeps, whatever it offers. -/
theorem flushLoop_keeps (conn : WriteBufferedConnection) (passes buf size : ℕ) (k : κ)
    (hk : Inv k) :
    Inv (flushLoop client passes conn buf size k).2.2 ∧
      (Good (flushLoop client passes conn buf size k).2.2 → Good k) := by
  let R := fun k k' : κ => Inv k → Inv k' ∧ (Good k' → Good k)
  have hrefl : ∀ k, R k k := fun k hk => ⟨hk, id⟩
  have htrans : ∀ {a b c}, R a b → R b c → R a c := fun h h' ha =>
    ⟨(h' (h ha).1).1, fun hc => (h ha).2 ((h' (h ha).1).2 hc)⟩
  have hm : (writesOnly client).Moves R :=
    { Client.mute_moves hrefl with
      write := fun p size k hk => ⟨h.inv p size k hk, h.good p size k hk⟩
      getWriteError := fun k hk => ⟨h.inv_error k hk, h.good_error k hk⟩ }
  rw [← flushLoop_writesOnly]
  exact flushLoop_rel hrefl htrans hm conn passes buf size k hk

/-- **A flush loop in which nothing goes wrong** hands over all that it should. -/
theorem flushLoop_takes (conn : WriteBufferedConnection) (passes : ℕ) :
    ∀ (buf size : ℕ) (k : κ), Inv k → 0 < size → size < 2 ^ 8 → size ≤ passes →
      buf + size = conn.occupied.length → conn.occupied.length < 2 ^ 8 →
      Good (flushLoop client passes conn buf size k).2.2 →
        taken (flushLoop client passes conn buf size k).2.2 = taken k ++ conn.occupied.drop buf := by
  induction passes with
  | zero => intro buf size k _ h0 _ hpasses; omega
  | succ passes ih =>
    intro buf size k hk h0 h8 hpasses hsize hocc hgood
    have hk' := h.inv ⟨conn.occupied, buf⟩ size k hk
    have htakes := h.takes ⟨conn.occupied, buf⟩ size k hk h0 h8
    have hdrop : (conn.occupied.drop buf).length = size := by rw [List.length_drop]; omega
    simp only [flushLoop] at hgood ⊢
    split_ifs at hgood ⊢ with hall hsome herr
    · obtain ⟨-, -, htaken⟩ := htakes hgood
      rw [htaken, hall]
      exact congrArg _ (List.take_of_length_le hdrop.le)
    · obtain ⟨-, hle, htaken⟩ := htakes ((h.flushLoop_keeps conn passes _ _ _ hk').2 hgood)
      rw [sizeT_sub hle (by omega), ← Nat.cast_add, sizeT_natCast (by omega)] at hgood ⊢
      rw [ih _ _ _ hk' (by omega) (by omega) (by omega) (by omega) hocc hgood, htaken,
        List.append_assoc, ← List.drop_drop]
      exact congrArg _ (List.take_append_drop _ _)
    · exact absurd (htakes (h.good_error _ hk' hgood)).1 hsome
    · exact absurd (htakes (h.good_error _ hk' hgood)).1 hsome

/-- **A block that goes through an empty buffer while nothing goes wrong** is handed over
whole. -/
theorem writeAndDestroy_takes {conn : WriteBufferedConnection} (hw : conn.WellFormed)
    (he : conn.writeError = 0) (hempty : conn.writeBufferSize = 0) {buf : List UInt8}
    (hne : buf ≠ []) (hfit : buf.length ≤ conn.writeBufferLimit) {k : κ} (hk : Inv k) :
    Inv (writeAndDestroy client buf conn k).2 ∧
      (Good (writeAndDestroy client buf conn k).2 → Good k ∧
        taken (writeAndDestroy client buf conn k).2 = taken k ++ buf) := by
  have hroom : conn.writeBufferSize + buf.length ≤ conn.writeBufferLimit := by omega
  have hpos : 0 < buf.length := List.length_pos_iff.2 hne
  have hlt : buf.length < 2 ^ 8 := lt_of_le_of_lt hfit hw.limit_lt
  have hocc : (conn.copyIn buf).occupied = buf := by
    rw [hw.occupied_copyIn hroom, occupied, hempty, List.take_zero, List.nil_append]
  have hsize : (conn.copyIn buf).writeBufferSize = buf.length := by
    rw [← (hw.copyIn hroom).length_occupied, hocc]
  have heq : (writeAndDestroy client buf conn k).2 =
      (flushLoop client buf.length (conn.copyIn buf) 0 buf.length k).2.2 := by
    have he' : (conn.copyIn buf).writeError = 0 := he
    simp only [writeAndDestroy, writeBuf_fits client he hne hroom, flush, flushInternal, hsize]
    rw [if_neg hpos.ne', if_neg (not_not.2 he')]
  rw [heq]
  obtain ⟨hinv, hgood⟩ := h.flushLoop_keeps (conn.copyIn buf) buf.length 0 buf.length k hk
  refine ⟨hinv, fun hg => ⟨hgood hg, ?_⟩⟩
  have htaken := h.flushLoop_takes (conn.copyIn buf) buf.length 0 buf.length k hk hpos hlt
    le_rfl (by rw [hocc, Nat.zero_add]) (by rw [hocc]; exact hlt) hg
  rw [htaken, hocc, List.drop_zero]

end Watched

end WriteBufferedConnection
end McuNet
