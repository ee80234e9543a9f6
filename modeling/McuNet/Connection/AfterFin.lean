/-
# What is sent after the FIN

A connection is used by a list of calls, and destroyed.  Nothing may be sent after
`close` has sent a FIN, but a later write is accepted as any other, and its bytes
are handed to the client when the buffer is next flushed, at the latest by the
destructor.

`DisconnectSocket` is called once at most, and what was accepted before has been
handed over by then; nothing is handed over afterwards if and only if nothing is
written afterwards (`silentAfterFin_iff`).
-/

import McuNet.Connection.FinTrace
import McuNet.Core.History

namespace McuNet

/-- A connection that a listener uses.  `accepted` is a ghost: the bytes of the
writes that succeeded. -/
structure Talk (W : Type*) where
  serving : Serving (Traced W)
  accepted : List UInt8 := []

namespace Talk

variable {W : Type*} [Platform W]

/-- The bytes that a call which returned `value` has accepted. -/
def accepts (op : ConnectionOp) (value : ℤ) : List UInt8 :=
  match op with
  | .write b => if value = 1 then [b] else []
  | .writeBuf buf => if value = buf.length then buf else []
  | _ => []

/-- One call. -/
def step (t : Talk W) (op : ConnectionOp) : Talk W :=
  let r := t.serving.call op
  ⟨r.2, t.accepted ++ accepts op r.1.value⟩

/-- Calls one after the other. -/
def run (t : Talk W) (ops : List ConnectionOp) : Talk W := ops.foldl step t

/-- What the destructor leaves behind. -/
def destroy (t : Talk W) : Traced W := (t.serving.conn.flush t.serving.net).2

/-- A new connection to a socket, with the given buffer and limit. -/
def start (sockNum : UInt8) (buffer : List UInt8) (limit : ℕ) (w : W) : Talk W where
  serving :=
    { conn := { writeBuffer := buffer, writeBufferLimit := limit,
                disconnectData := DisconnectData.reset, sockNum := sockNum }
      net := ⟨⟨w, []⟩, []⟩ }

/-- How often the client had been written to at each `DisconnectSocket`. -/
def fins (t : Talk W) : List ℕ := t.serving.net.inner.fins

/-- The buffer. -/
def buffer (t : Talk W) : WriteBufferedConnection := t.serving.conn.toWriteBufferedConnection

/-- A call that writes something after `DisconnectSocket`, with no error recorded. -/
def WritesLate (t : Talk W) (op : ConnectionOp) : Prop :=
  t.fins ≠ [] ∧ t.buffer.writeError = 0 ∧
    match op with
    | .write _ => True
    | .writeBuf buf => buf ≠ []
    | _ => False

/-- **Nothing is sent after the FIN**, by the calls `ops` of a connection and its
destructor. -/
structure SilentAfterFin (t : Talk W) (ops : List ConnectionOp) : Prop where
  /-- `DisconnectSocket` is called at most once. -/
  once : (t.run ops).destroy.inner.fins.length ≤ 1
  /-- If a `close` calls it and no error is recorded, the client has got what was
  accepted before. -/
  handed : ∀ before after, ops = before ++ .close :: after → ∀ m,
    ((t.run before).step .close).fins = (t.run before).fins ++ [m] →
      ((t.run before).step .close).buffer.writeError = 0 →
        WriteCall.taken ((t.run ops).destroy.calls.take m) = (t.run before).accepted
  /-- From then on the client is not written to. -/
  silent : ∀ m ∈ (t.run ops).destroy.inner.fins, (t.run ops).destroy.calls.length = m

/-- What holds between two calls: the buffer carries what was accepted; the FIN is
sent once at most, and then the connection is gone. -/
structure Orderly (n : UInt8) (gone : W → Prop) (t : Talk W) : Prop where
  sockNum : t.serving.conn.sockNum = n
  carries : ∃ stream, t.buffer.Carries t.serving.net stream ∧
    (t.buffer.writeError = 0 → stream = t.accepted)
  once : t.fins.length ≤ 1
  reached : ∀ m ∈ t.fins, m ≤ t.serving.net.calls.length
  gone : t.fins ≠ [] → gone t.serving.net.inner.net

variable {n : UInt8} {gone : W → Prop} {t : Talk W}

omit [Platform W] in
theorem orderly_start {buffer : List UInt8} {limit : ℕ} (h0 : 0 < limit) (h8 : limit < 2 ^ 8)
    (hb : limit ≤ buffer.length) (w : W) : (start n buffer limit w).Orderly n gone where
  sockNum := rfl
  carries := ⟨[], ⟨⟨h0, h8, hb, Nat.zero_le _⟩, nofun, fun _ => rfl, List.prefix_rfl⟩, fun _ => rfl⟩
  once := Nat.zero_le _
  reached := nofun
  gone h := absurd rfl h

/-- What a call that is not `close` or `clearWriteError` does to the stream. -/
theorem Orderly.carries_step (hc : (Platform.ethernetClient (W := W) n).Lawful)
    (h : t.Orderly n gone) {op : ConnectionOp} (hop : op ≠ .close) (hclear : op ≠ .clearWriteError) :
    ∃ stream, (t.step op).buffer.Carries (t.step op).serving.net stream ∧
      ((t.step op).buffer.writeError = 0 → stream = (t.step op).accepted) := by
  have hsock := h.sockNum
  subst hsock
  obtain ⟨stream, hcarries, hstream⟩ := h.carries
  cases op with
  | write b =>
    obtain ⟨hafter, hok⟩ := hcarries.write hc.traced b
    refine ⟨stream ++ [b], hafter, fun he => ?_⟩
    obtain ⟨h0, hone⟩ := hok he
    rw [hstream h0]
    exact congrArg (t.accepted ++ ·) (if_pos (congrArg Nat.cast hone)).symm
  | writeBuf buf =>
    obtain ⟨hafter, hok⟩ := hcarries.writeBuf hc.traced buf
    refine ⟨stream ++ buf, hafter, fun he => ?_⟩
    obtain ⟨h0, hlen⟩ := hok he
    rw [hstream h0]
    exact congrArg (t.accepted ++ ·) (if_pos (congrArg Nat.cast hlen)).symm
  | flush =>
    obtain ⟨hafter, hok⟩ := hcarries.flush hc.traced
    exact ⟨stream, hafter, fun he => (hstream (hok he)).trans (List.append_nil _).symm⟩
  | clearWriteError => exact absurd rfl hclear
  | close => exact absurd rfl hop
  | _ => exact ⟨stream, hcarries.of_calls rfl, fun he => (hstream he).trans (List.append_nil _).symm⟩

/-- A `close`, in terms of the buffer and the trace. -/
theorem closes_step (ho : LeavesOpen n gone) (hn : t.serving.conn.sockNum = n) :
    Traced.Closes n gone t.buffer (t.step .close).buffer t.serving.net
      (t.step .close).serving.net := (ho.closes_call hn).2

/-- What a `close` does to the stream. -/
theorem Orderly.carries_close (hc : (Platform.ethernetClient (W := W) n).Lawful)
    (ho : LeavesOpen n gone) (h : t.Orderly n gone) :
    ∃ stream, (t.step .close).buffer.Carries (t.step .close).serving.net stream ∧
      ((t.step .close).buffer.writeError = 0 → stream = (t.step .close).accepted) := by
  obtain ⟨stream, hcarries, hstream⟩ := h.carries
  have haccepted : (t.step .close).accepted = t.accepted := List.append_nil _
  rcases closes_step ho h.sockNum with ⟨hconn, hq⟩ | ⟨k, hq, -, hconn, hcalls, -⟩
  · rw [hconn, haccepted]
    exact ⟨stream, hcarries.of_calls hq.calls, hstream⟩
  · obtain ⟨hafter, hok⟩ := (hcarries.of_calls hq.calls).flush hc.traced
    rw [hconn, haccepted]
    exact ⟨stream, hafter.of_calls hcalls, fun he => hstream (hok he)⟩

/-- A `close` calls `DisconnectSocket` once at most, and only on a connection that is
not gone. -/
theorem fins_close (ho : LeavesOpen n gone) (hn : t.serving.conn.sockNum = n) :
    (t.step .close).fins = t.fins ∨
      (¬gone t.serving.net.inner.net ∧ gone (t.step .close).serving.net.inner.net ∧
        (t.step .close).fins = t.fins ++ [(t.step .close).serving.net.calls.length]) := by
  rcases closes_step ho hn with ⟨-, hq⟩ | ⟨k, -, hlive, -, -, hfins | ⟨hfins, hgone⟩⟩
  · exact .inl hq.fins
  · exact .inl hfins
  · exact .inr ⟨hlive, hgone, hfins⟩

/-- No call takes back a call of the client, or that the connection is gone. -/
theorem onward_step (ho : LeavesOpen n gone) (hn : t.serving.conn.sockNum = n)
    (op : ConnectionOp) : (t.step op).serving.conn.sockNum = n ∧
      t.serving.net.calls <+: (t.step op).serving.net.calls ∧
      (gone t.serving.net.inner.net → gone (t.step op).serving.net.inner.net) := by
  by_cases hop : op = .close
  · subst hop
    refine ⟨(ho.closes_call hn).1, ?_⟩
    rcases closes_step ho hn with ⟨-, hq⟩ | ⟨k, hq, hlive, -, hcalls, -⟩
    · exact ⟨hq.calls ▸ List.prefix_rfl, hq.gone⟩
    · have hflush := WriteBufferedConnection.flush_rel Traced.Onward.refl Traced.Onward.trans
        ho.onward t.buffer k
      exact ⟨hcalls ▸ hq.calls ▸ hflush.calls, fun hg => absurd hg hlive⟩
  · have hframe := Serving.call_frame Traced.Onward.refl Traced.Onward.trans hop t.serving
      (hn ▸ ho.onward)
    exact ⟨hframe.sockNum.trans hn, hframe.net.calls, hframe.net.gone⟩

/-- Only `close` calls `DisconnectSocket`. -/
theorem fins_step (ho : LeavesOpen n gone) (hn : t.serving.conn.sockNum = n) {op : ConnectionOp}
    (hop : op ≠ .close) : (t.step op).fins = t.fins :=
  (Serving.call_frame Traced.Onward.refl Traced.Onward.trans hop t.serving (hn ▸ ho.onward)).net.fins

/-- **Every call keeps the order.** -/
theorem Orderly.step (hc : (Platform.ethernetClient (W := W) n).Lawful) (ho : LeavesOpen n gone)
    (h : t.Orderly n gone) {op : ConnectionOp} (hclear : op ≠ .clearWriteError) :
    (t.step op).Orderly n gone := by
  obtain ⟨hnum, hcalls, hgone⟩ := onward_step ho h.sockNum op
  have hsame : (t.step op).fins = t.fins → (∃ stream, (t.step op).buffer.Carries
      (t.step op).serving.net stream ∧ ((t.step op).buffer.writeError = 0 →
        stream = (t.step op).accepted)) → (t.step op).Orderly n gone := fun hfins hcarries =>
    ⟨hnum, hcarries, hfins ▸ h.once, fun m hm => (h.reached m (hfins ▸ hm)).trans hcalls.length_le,
      fun hf => hgone (h.gone (hfins ▸ hf))⟩
  by_cases hop : op = .close
  · subst hop
    have hcarries := h.carries_close hc ho
    rcases fins_close ho h.sockNum with hfins | ⟨hlive, hshut, hfins⟩
    · exact hsame hfins hcarries
    · -- the first `DisconnectSocket`
      have hnone : t.fins = [] := by_contra fun hf => hlive (h.gone hf)
      rw [hnone, List.nil_append] at hfins
      refine ⟨hnum, hcarries, hfins ▸ le_rfl, fun m hm => ?_, fun _ => hshut⟩
      exact (List.mem_singleton.1 (hfins ▸ hm)).le
  · exact hsame (fins_step ho h.sockNum hop) (h.carries_step hc hop hclear)

/-- A `close` that calls `DisconnectSocket` has flushed the buffer. -/
theorem spent_close (hc : (Platform.ethernetClient (W := W) n).Lawful) (ho : LeavesOpen n gone)
    (h : t.Orderly n gone) (hf : (t.step .close).fins ≠ t.fins) : (t.step .close).buffer.Spent := by
  obtain ⟨stream, hcarries, -⟩ := h.carries
  rcases closes_step ho h.sockNum with ⟨-, hq⟩ | ⟨k, -, -, hconn, -, -⟩
  · exact absurd hq.fins hf
  · exact hconn ▸ WriteBufferedConnection.spent_flush hc.traced hcarries.wellFormed k

/-! ### Nothing is sent -/

/-- The client was not written to since the FIN, and the buffer holds nothing. -/
structure Still (t : Talk W) : Prop where
  calls : ∀ m ∈ t.fins, t.serving.net.calls.length = m
  spent : t.fins ≠ [] → t.buffer.Spent

/-- A call after the FIN that writes nothing leaves the buffer and the client alone. -/
theorem still_call (ho : LeavesOpen n gone) (h : t.Orderly n gone) (hf : t.fins ≠ [])
    (hspent : t.buffer.Spent) {op : ConnectionOp} (hlate : ¬t.WritesLate op)
    (hclear : op ≠ .clearWriteError) :
    (t.step op).buffer = t.buffer ∧ (t.step op).serving.net.calls = t.serving.net.calls ∧
      (t.step op).fins = t.fins := by
  let client : Client (Traced W) := Platform.ethernetClient t.serving.conn.sockNum
  have hunchanged : ∀ r : WriteBufferedConnection × Traced W, r = (t.buffer, t.serving.net) →
      r.1 = t.buffer ∧ r.2.calls = t.serving.net.calls ∧ r.2.inner.fins = t.fins :=
    fun r hr => hr ▸ ⟨rfl, rfl, rfl⟩
  cases op with
  | write b =>
    have he : t.buffer.writeError ≠ 0 := fun he => hlate ⟨hf, he, trivial⟩
    have hstuck : t.buffer.write client b t.serving.net = (0, t.buffer, t.serving.net) :=
      WriteBufferedConnection.write_stuck he t.serving.net b
    exact hunchanged _ (congrArg Prod.snd hstuck)
  | writeBuf buf =>
    have hstuck : t.buffer.writeBuf client buf t.serving.net = (0, t.buffer, t.serving.net) := by
      by_cases he : t.buffer.writeError = 0
      · have hnil : buf = [] := by_contra fun hne => hlate ⟨hf, he, hne⟩
        subst hnil
        rw [WriteBufferedConnection.writeBuf, if_neg (not_not.2 he)]
        rfl
      · exact WriteBufferedConnection.writeBuf_stuck he t.serving.net buf
    exact hunchanged _ (congrArg Prod.snd hstuck)
  | flush =>
    have hsame : t.buffer.flush client t.serving.net = (t.buffer, t.serving.net) :=
      hspent.flush t.serving.net
    exact hunchanged _ hsame
  | clearWriteError => exact absurd rfl hclear
  | close =>
    rcases closes_step ho h.sockNum with ⟨hconn, hq⟩ | ⟨k, -, hlive, -⟩
    · exact ⟨hconn, hq.calls, hq.fins⟩
    · exact absurd (h.gone hf) hlive
  | _ => exact ⟨rfl, rfl, rfl⟩

/-- **A call that does not write late keeps it so.** -/
theorem Still.step (hc : (Platform.ethernetClient (W := W) n).Lawful) (ho : LeavesOpen n gone)
    (h : t.Orderly n gone) (hs : t.Still) {op : ConnectionOp} (hlate : ¬t.WritesLate op)
    (hclear : op ≠ .clearWriteError) : (t.step op).Still := by
  by_cases hf : t.fins = []
  · by_cases hop : op = .close
    · subst hop
      rcases fins_close ho h.sockNum with hfins | ⟨-, -, hfins⟩
      · rw [hf] at hfins
        exact ⟨fun m hm => absurd (hfins ▸ hm) List.not_mem_nil, fun hne => absurd hfins hne⟩
      · rw [hf, List.nil_append] at hfins
        have hchanged : (t.step .close).fins ≠ t.fins := by
          rw [hfins, hf]
          exact List.cons_ne_nil _ _
        refine ⟨fun m hm => ?_, fun _ => spent_close hc ho h hchanged⟩
        exact (List.mem_singleton.1 (hfins ▸ hm)).symm
    · have hfins : (t.step op).fins = [] := (fins_step ho h.sockNum hop).trans hf
      exact ⟨fun m hm => absurd (hfins ▸ hm) List.not_mem_nil, fun hne => absurd hfins hne⟩
  · obtain ⟨hconn, hcalls, hfins⟩ := still_call ho h hf (hs.spent hf) hlate hclear
    refine ⟨fun m hm => ?_, fun _ => hconn ▸ hs.spent hf⟩
    rw [hcalls]
    exact hs.calls m (hfins ▸ hm)

/-- A connection on which something was written late stays dirty. -/
theorem dirty_step (hc : (Platform.ethernetClient (W := W) n).Lawful) (ho : LeavesOpen n gone)
    (h : t.Orderly n gone) {m : ℕ} (hd : t.buffer.Dirty m t.serving.net) {op : ConnectionOp}
    (hclear : op ≠ .clearWriteError) : (t.step op).buffer.Dirty m (t.step op).serving.net := by
  obtain ⟨stream, hcarries, -⟩ := h.carries
  have hlawful := hc.traced
  rw [← h.sockNum] at hlawful
  cases op with
  | write b => exact hd.write hcarries.wellFormed b
  | writeBuf buf => exact hd.writeBuf hlawful hcarries.wellFormed buf
  | flush => exact .inl hd.flush
  | clearWriteError => exact absurd rfl hclear
  | close =>
    rcases closes_step ho h.sockNum with ⟨hconn, hq⟩ | ⟨k, hq, -, hconn, hcalls, -⟩
    · rw [WriteBufferedConnection.Dirty, hconn, hq.calls]
      exact hd
    · have hdk : t.buffer.Dirty m k := by
        rw [WriteBufferedConnection.Dirty, hq.calls]
        exact hd
      exact .inl (hcalls ▸ hdk.flush)
  | _ => exact hd

/-- A write after the FIN makes it so. -/
theorem dirty_of_writesLate (hc : (Platform.ethernetClient (W := W) n).Lawful)
    (h : t.Orderly n gone) {m : ℕ} (hm : m ∈ t.fins) {op : ConnectionOp}
    (hlate : t.WritesLate op) : (t.step op).buffer.Dirty m (t.step op).serving.net := by
  obtain ⟨stream, hcarries, -⟩ := h.carries
  obtain ⟨-, he, hwrites⟩ := hlate
  have hlawful := hc.traced
  rw [← h.sockNum] at hlawful
  have hreached := h.reached m hm
  cases op with
  | write b => exact WriteBufferedConnection.dirty_write hcarries.wellFormed hreached he b
  | writeBuf buf =>
    exact WriteBufferedConnection.dirty_writeBuf hlawful hcarries.wellFormed hreached he hwrites
  | _ => exact hwrites.elim

/-! ### Runs -/

theorem run_append (t : Talk W) (before after : List ConnectionOp) :
    t.run (before ++ after) = (t.run before).run after := List.foldl_append

section Runs

variable (hc : (Platform.ethernetClient (W := W) n).Lawful) (ho : LeavesOpen n gone)

include hc ho

/-- **Every run keeps the order**, whatever holds of the connection along it. -/
theorem Orderly.run {ops : List ConnectionOp} (hclear : .clearWriteError ∉ ops)
    (h : t.Orderly n gone) : (t.run ops).Orderly n gone := by
  induction ops generalizing t with
  | nil => exact h
  | cons op ops ih =>
    rw [List.mem_cons, not_or] at hclear
    exact ih hclear.2 (h.step hc ho (Ne.symm hclear.1))

/-- Nothing the client got and no FIN is forgotten. -/
theorem onward_run {ops : List ConnectionOp} (hclear : .clearWriteError ∉ ops)
    (h : t.Orderly n gone) : t.serving.net.calls <+: (t.run ops).serving.net.calls ∧
      t.fins <+: (t.run ops).fins := by
  induction ops generalizing t with
  | nil => exact ⟨List.prefix_rfl, List.prefix_rfl⟩
  | cons op ops ih =>
    rw [List.mem_cons, not_or] at hclear
    obtain ⟨hcalls, hfins⟩ := ih hclear.2 (h.step hc ho (Ne.symm hclear.1))
    refine ⟨(onward_step ho h.sockNum op).2.1.trans hcalls, List.IsPrefix.trans ?_ hfins⟩
    by_cases hop : op = .close
    · subst hop
      rcases fins_close ho h.sockNum with hsame | ⟨-, -, hnew⟩
      · exact hsame ▸ List.prefix_rfl
      · exact hnew ▸ List.prefix_append _ _
    · exact fins_step ho h.sockNum hop ▸ List.prefix_rfl

theorem dirty_run {ops : List ConnectionOp} (hclear : .clearWriteError ∉ ops)
    (h : t.Orderly n gone) {m : ℕ} (hd : t.buffer.Dirty m t.serving.net) :
    (t.run ops).buffer.Dirty m (t.run ops).serving.net := by
  induction ops generalizing t with
  | nil => exact hd
  | cons op ops ih =>
    rw [List.mem_cons, not_or] at hclear
    exact ih hclear.2 (h.step hc ho (Ne.symm hclear.1)) (dirty_step hc ho h hd (Ne.symm hclear.1))

theorem Still.run {ops : List ConnectionOp} (hclear : .clearWriteError ∉ ops)
    (h : t.Orderly n gone) (hs : t.Still)
    (hlate : EachAfter (fun before op => ¬(t.run before).WritesLate op) ops) :
    (t.run ops).Still := by
  induction ops generalizing t with
  | nil => exact hs
  | cons op ops ih =>
    rw [List.mem_cons, not_or] at hclear
    exact ih hclear.2 (h.step hc ho (Ne.symm hclear.1))
      (hs.step hc ho h (hlate [] op ops rfl) (Ne.symm hclear.1)) hlate.tail

/-- **The bytes accepted before the FIN were handed over before it**, if no error
was recorded. -/
theorem handed_run {before after : List ConnectionOp} (h : t.Orderly n gone)
    (hclear : .clearWriteError ∉ before ++ .close :: after) {m : ℕ}
    (hfins : ((t.run before).step .close).fins = (t.run before).fins ++ [m])
    (he : ((t.run before).step .close).buffer.writeError = 0) :
    WriteCall.taken ((t.run (before ++ .close :: after)).destroy.calls.take m) =
      (t.run before).accepted := by
  rw [List.mem_append, List.mem_cons, not_or, not_or] at hclear
  have hbefore : (t.run before).Orderly n gone := h.run hc ho hclear.1
  have hclose := hbefore.step hc ho (show ConnectionOp.close ≠ .clearWriteError from nofun)
  have hchanged : ((t.run before).step .close).fins ≠ (t.run before).fins := fun heq => by
    rw [heq] at hfins
    simpa using congrArg List.length hfins
  obtain ⟨stream, hcarries, hstream⟩ := hclose.carries
  have hempty : ((t.run before).step .close).buffer.occupied = [] := by
    rcases spent_close hc ho hbefore hchanged with hne | h0
    · exact absurd he hne
    · rw [WriteBufferedConnection.occupied, h0, List.take_zero]
  have htaken : WriteCall.taken ((t.run before).step .close).serving.net.calls =
      (t.run before).accepted := by
    have hcarried := hcarries.carried he
    rw [hempty, List.append_nil, hstream he] at hcarried
    exact hcarried.trans (List.append_nil _)
  have hm : ((t.run before).step .close).serving.net.calls.length = m := by
    rcases fins_close ho hbefore.sockNum with hsame | ⟨-, -, hnew⟩
    · exact absurd hsame hchanged
    · exact List.singleton_inj.1 (List.append_cancel_left (hnew.symm.trans hfins))
  have hle : ((t.run before).step .close).serving.net.calls <+:
      (t.run (before ++ .close :: after)).destroy.calls := by
    rw [run_append]
    have hrest := (onward_run hc ho hclear.2.2 hclose).1
    have hend := (onward_step ho (hclose.run hc ho hclear.2.2).sockNum .flush).2.1
    exact hrest.trans hend
  rw [← hm, ← List.prefix_iff_eq_take.1 hle]
  exact htaken

/-- **Nothing is sent after the FIN.**  For every client that keeps its contract,
every socket whose status is not open from `DisconnectSocket` on and every calls of
a new connection with a buffer of 1 to 255 bytes: `DisconnectSocket` is called once
at most, what was accepted before has been handed over, and nothing is handed over
afterwards, if and only if nothing is written after it. -/
theorem silentAfterFin_iff {buffer : List UInt8} {limit : ℕ} (h0 : 0 < limit)
    (h8 : limit ≤ 255) (hb : limit ≤ buffer.length) (w : W) {ops : List ConnectionOp}
    (hclear : .clearWriteError ∉ ops) :
    (start n buffer limit w).SilentAfterFin ops ↔
      EachAfter (fun before op => ¬((start n buffer limit w).run before).WritesLate op) ops := by
  set t := start n buffer limit w with ht
  have hstart : t.Orderly n gone := orderly_start h0 (by omega) hb w
  have hrun : (t.run ops).Orderly n gone := hstart.run hc ho hclear
  have hfins : (t.run ops).destroy.inner.fins = (t.run ops).fins :=
    fins_step ho hrun.sockNum (show ConnectionOp.flush ≠ .close from nofun)
  constructor
  · rintro hsilent before op after rfl hlate
    rw [List.mem_append, List.mem_cons, not_or, not_or] at hclear
    have hbefore : (t.run before).Orderly n gone := hstart.run hc ho hclear.1
    have hop : op ≠ .clearWriteError := Ne.symm hclear.2.1
    obtain ⟨m, hm⟩ := List.exists_mem_of_ne_nil _ hlate.1
    have hdirty := dirty_run hc ho hclear.2.2 (hbefore.step hc ho hop)
      (dirty_of_writesLate hc hbefore hm hlate)
    have hlt : m < (t.run (before ++ op :: after)).destroy.calls.length := by
      rw [run_append]
      exact hdirty.flush
    have hmem : m ∈ (t.run (before ++ op :: after)).fins := by
      rw [run_append]
      have hone : (t.run before).fins <+: ((t.run before).run (op :: after)).fins :=
        (onward_run hc ho (List.mem_cons.not.2 (not_or.2 hclear.2)) hbefore).2
      exact hone.subset hm
    exact hlt.ne' (hsilent.silent m (hfins ▸ hmem))
  · intro hlate
    have hnew : t.Still := ⟨nofun, fun h => absurd rfl h⟩
    have hstill : (t.run ops).Still := Still.run hc ho hclear hstart hnew hlate
    refine ⟨hfins ▸ hrun.once, ?_, fun m hm => ?_⟩
    · rintro before after rfl m hclose he
      exact handed_run hc ho hstart hclear hclose he
    · rw [hfins] at hm
      have hf : (t.run ops).fins ≠ [] := List.ne_nil_of_mem hm
      have hlast : ¬(t.run ops).WritesLate .flush := fun h => h.2.2
      obtain ⟨-, hcalls, -⟩ := still_call ho hrun hf (hstill.spent hf) hlast nofun
      exact (congrArg List.length hcalls).trans (hstill.calls m hm)

end Runs

/-- A socket that is connected until it is told to disconnect.  Its client takes
two bytes at a time. -/
structure Outlet where
  status : UInt8 := SnSR.established
  taken : List UInt8 := []

instance : Platform Outlet where
  findUnusedSocket w := (-1, w)
  socketIsTcpListener _ w := (0, w)
  socketIsInTcpConnectionLifecycle _ w := (statusIsOpen w.status || statusIsClosing w.status, w)
  socketStatus _ w := (w.status, w)
  initializeTcpListenerSocket _ _ w := (false, w)
  disconnectSocket _ w := (true, { w with status := SnSR.finWait })
  closeSocket _ w := (true, { w with status := SnSR.closed })
  ethernetClient _ :=
    { write := fun p n w => (min n 2, { w with taken := w.taken ++ p.bytes (min n 2) })
      getWriteError := fun w => (0, w)
      available := fun w => (0, w)
      read := fun w => (-1, w)
      readBuf := fun _ w => ((-1, []), w)
      peek := fun w => (-1, w)
      connected := fun w => ((statusIsOpen w.status).toNat, w) }
  millis w := (0, w)
  elapsedMillis t w := (0 - t, w)

theorem leavesOpen_outlet :
    LeavesOpen 0 fun w : Outlet => w.status = SnSR.finWait where
  disconnectSocket _ := rfl
  socketStatus _ hw := ⟨hw, by rw [show (Platform.socketStatus 0 _).1 = SnSR.finWait from hw]; rfl⟩
  ethernetClient := ⟨fun _ _ _ => id, fun _ => id, fun _ => id, fun _ => id, fun _ _ => id,
    fun _ => id, fun _ => id⟩
  millis _ := id

theorem lawful_outlet : (Platform.ethernetClient (W := Outlet) 0).Lawful :=
  fun _ n _ => min_le_left n 2

/-- A byte that is written after `close` is sent by the destructor. -/
theorem silentAfterFin_counterexample :
    let t : Talk Outlet := start 0 (List.replicate 4 0) 4 {}
    let ops : List ConnectionOp := [.writeBuf [72, 105], .close, .write 33]
    (t.run ops).fins = [1] ∧ (t.run ops).destroy.inner.net.taken = [72, 105, 33] ∧
      ¬t.SilentAfterFin ops := by
  refine ⟨by decide, by decide, fun h => ?_⟩
  exact absurd (h.silent 1 (by decide)) (by decide)

theorem silentAfterFin_iff_outlet :
    (start 0 (List.replicate 4 0) 4 ({} : Outlet)).SilentAfterFin
      [.writeBuf [72, 101, 108, 108, 111], .close, .flush, .read, .close] := by
  refine (silentAfterFin_iff lawful_outlet leavesOpen_outlet (by decide) (by decide) (by decide) {}
    (by decide)).2 fun before op after hops hlate => ?_
  cases before with
  | nil => exact hlate.1 rfl
  | cons first before =>
    have hmem : op ∈ [ConnectionOp.close, .flush, .read, .close] := by
      rw [(List.cons.inj hops).2]
      exact List.mem_append_right _ (List.mem_cons_self ..)
    simp only [List.mem_cons, List.not_mem_nil, or_false] at hmem
    rcases hmem with rfl | rfl | rfl | rfl <;> exact hlate.2.2

end Talk

end McuNet
