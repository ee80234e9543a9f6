/-
# A chip that does not change during a call

What the library's calls do to the status registers of a W5500 that does not
change by itself during a call (`W5500`).  Its sockets have the lifecycle of a
TCP server, and on it `FindUnusedSocket` returns the first closed socket.

`StatusChip` is the smallest such chip: the status registers and a clock.  Peers
act on it between the calls, by a change of its registers.
-/

import McuNet.Embedded.Chip

namespace McuNet

/-- A chip with a status register for each socket: `socket` and `listen`
together make a socket listen, `close` closes it, `disconnect` makes an open
socket closing or closed, and each of these leaves the other sockets alone.
Nothing else changes a status. -/
class W5500 (C : Type*) [Ethernet5500 C] where
  register : C → UInt8 → UInt8
  status_fst : ∀ n (c : C), (Ethernet5500.status n c).1 = register c n
  status_snd : ∀ n (c : C), register (Ethernet5500.status n c).2 = register c
  listen : ∀ n port (c : C), register (Ethernet5500.listen n (Ethernet5500.socket n port c)) =
    Function.update (register c) n SnSR.listen
  close : ∀ n (c : C), register (Ethernet5500.close n c) =
    Function.update (register c) n SnSR.closed
  disconnect : ∀ n (c : C), ∃ s,
    register (Ethernet5500.disconnect n c) = Function.update (register c) n s ∧
      (statusIsOpen (register c n) = true → statusIsClosing s = true ∨ s = SnSR.closed)
  client : ∀ n, (Ethernet5500.client (C := C) n).Moves fun c c' => register c' = register c
  millis : ∀ c : C, register (Ethernet5500.millis c).2 = register c
  elapsedMillis : ∀ t (c : C), register (Ethernet5500.elapsedMillis t c).2 = register c

section

variable {C : Type*} [Ethernet5500 C] [W5500 C]

/-- A register that was written, and the others. -/
theorem register_update {f g : UInt8 → UInt8} {n s : UInt8} (h : g = Function.update f n s) :
    g n = s ∧ ∀ m, m ≠ n → f m = g m := by
  subst h
  exact ⟨Function.update_self n s f, fun m hm => (Function.update_of_ne hm s f).symm⟩

/-- A call that changes no register. -/
theorem register_same {c c' : C} (h : W5500.register c' = W5500.register c) :
    lifecycle.QuietIn W5500.register c c' := fun m => (congrFun h m).symm

/-- **Behind the chip are hardware sockets with the lifecycle of a TCP server.** -/
instance : Drives lifecycle C where
  view := W5500.register
  status_eq n c := (W5500.status_fst n c).trans (congrFun (W5500.status_snd n c) n).symm
  status n c := register_same (W5500.status_snd n c)
  listen n port c _ := by
    obtain ⟨hlisten, hothers⟩ := register_update (W5500.listen n port c)
    exact ⟨fun _ => hlisten, hothers⟩
  disconnect n c := by
    obtain ⟨s, hs, hopen⟩ := W5500.disconnect n c
    obtain ⟨hself, hothers⟩ := register_update hs
    refine ⟨fun h => ?_, hothers⟩
    rw [hself]
    exact hopen h
  close n c := register_update (W5500.close n c)
  client n :=
    { write := fun p size c => register_same ((W5500.client n).write p size c)
      getWriteError := fun c => register_same ((W5500.client n).getWriteError c)
      available := fun c => register_same ((W5500.client n).available c)
      read := fun c => register_same ((W5500.client n).read c)
      readBuf := fun size c => register_same ((W5500.client n).readBuf size c)
      peek := fun c => register_same ((W5500.client n).peek c)
      connected := fun c => register_same ((W5500.client n).connected c) }
  millis c := register_same (W5500.millis c)
  elapsedMillis t c := register_same (W5500.elapsedMillis t c)

end

namespace EmbeddedNetwork

variable {C : Type*} [Ethernet5500 C] [W5500 C]

/-- The status registers of the chip. -/
def register (w : EmbeddedNetwork C) : UInt8 → UInt8 := W5500.register w.chip

theorem socketStatus_eq (n : UInt8) (w : EmbeddedNetwork C) :
    (socketStatus n w).1 = w.register n ∧ (socketStatus n w).2.register = w.register ∧
      (socketStatus n w).2.serverPort = w.serverPort :=
  ⟨W5500.status_fst n w.chip, W5500.status_snd n w.chip, rfl⟩

/-- **The loop of `FindUnusedSocket`** returns the first closed socket, or `-1` if
there is none. -/
theorem findUnusedSocketIn_spec (l : List UInt8) (w : EmbeddedNetwork C) :
    (findUnusedSocketIn l w).2.register = w.register ∧
    (findUnusedSocketIn l w).2.serverPort = w.serverPort ∧
    (((findUnusedSocketIn l w).1 = -1 ∧ ∀ n ∈ l, w.register n ≠ SnSR.closed) ∨
      ∃ (before after : List UInt8) (n : UInt8), l = before ++ n :: after ∧
        (findUnusedSocketIn l w).1 = n.toNat ∧ w.register n = SnSR.closed ∧
        ∀ m ∈ before, w.register m ≠ SnSR.closed) := by
  induction l generalizing w with
  | nil => exact ⟨rfl, rfl, .inl ⟨rfl, fun _ h => absurd h List.not_mem_nil⟩⟩
  | cons n rest ih =>
    obtain ⟨hstatus, hreg, hport⟩ := socketStatus_eq n w
    simp only [findUnusedSocketIn, socketIsClosed, hstatus, beq_iff_eq]
    split_ifs with hclosed
    · exact ⟨hreg, hport, .inr ⟨[], rest, n, rfl, rfl, hclosed, fun _ h =>
        absurd h List.not_mem_nil⟩⟩
    · obtain ⟨hreg', hport', hfound⟩ := ih (socketStatus n w).2
      rw [hreg] at hreg' hfound
      refine ⟨hreg', hport'.trans hport, ?_⟩
      rcases hfound with ⟨hnone, hall⟩ | ⟨before, after, m, rfl, hm, hclosed', hbefore⟩
      · exact .inl ⟨hnone, List.forall_mem_cons.2 ⟨hclosed, hall⟩⟩
      · exact .inr ⟨n :: before, after, m, rfl, hm, hclosed',
          List.forall_mem_cons.2 ⟨hclosed, hbefore⟩⟩

/-- **`InitializeTcpListenerSocket`** makes a closed socket listen whose remembered
port is the new one or `0`, and leaves any other socket as it is. -/
theorem initializeTcpListenerSocket_spec (n : UInt8) (port : UInt16) (w : EmbeddedNetwork C) :
    let r := initializeTcpListenerSocket n port w
    (w.register n = SnSR.closed ∧ (w.serverPort n = port ∨ w.serverPort n = 0) ∧ r.1 = true ∧
      r.2.register = Function.update w.register n SnSR.listen ∧
      r.2.serverPort = Function.update w.serverPort n port) ∨
    (¬ (w.register n = SnSR.closed ∧ (w.serverPort n = port ∨ w.serverPort n = 0)) ∧
      r.1 = false ∧ r.2.register = w.register ∧ r.2.serverPort = w.serverPort) := by
  obtain ⟨hstatus, hreg, hports⟩ := socketStatus_eq n w
  simp only [initializeTcpListenerSocket, hstatus]
  split_ifs with hclosed hport
  · refine .inl ⟨hclosed, hport, rfl, ?_, rfl⟩
    show W5500.register _ = _
    rw [W5500.listen]
    exact congrArg (fun f => Function.update f n SnSR.listen) hreg
  · exact .inr ⟨fun h => hport h.2, rfl, hreg, hports⟩
  · exact .inr ⟨fun h => hclosed h.1, rfl, hreg, hports⟩

end EmbeddedNetwork

/-- The status registers of a chip, and the clock. -/
structure StatusChip where
  registers : UInt8 → UInt8 := fun _ => SnSR.closed
  clock : UInt32 := 0

namespace StatusChip

/-- Write a status register. -/
def set (c : StatusChip) (n status : UInt8) : StatusChip :=
  { c with registers := Function.update c.registers n status }

/-- Peers take all bytes they are sent and send none. -/
instance : Ethernet5500 StatusChip where
  status n c := (c.registers n, c)
  socket n _ c := c.set n SnSR.init
  listen n c := c.set n SnSR.listen
  disconnect n c := c.set n
    (if c.registers n = SnSR.established then SnSR.finWait
      else if c.registers n = SnSR.closeWait then SnSR.lastAck else c.registers n)
  close n c := c.set n SnSR.closed
  client _ :=
    { write := fun _ size c => (size, c)
      getWriteError := fun c => (0, c)
      available := fun c => (0, c)
      read := fun c => (-1, c)
      readBuf := fun _ c => ((0, []), c)
      peek := fun c => (-1, c)
      connected := fun c => (1, c) }
  millis c := (c.clock, c)
  elapsedMillis t c := (c.clock - t, c)

instance : W5500 StatusChip where
  register c := c.registers
  status_fst _ _ := rfl
  status_snd _ _ := rfl
  listen n _ c := by
    show Function.update (Function.update c.registers n SnSR.init) n SnSR.listen = _
    exact Function.update_idem _ _ _
  close _ _ := rfl
  disconnect n c := by
    refine ⟨_, rfl, fun h => .inl ?_⟩
    rcases statusIsOpen_iff.1 h with he | he <;> rw [he] <;> rfl
  client _ := ⟨fun _ _ _ => rfl, fun _ => rfl, fun _ => rfl, fun _ => rfl, fun _ _ => rfl,
    fun _ => rfl, fun _ => rfl⟩
  millis _ := rfl
  elapsedMillis _ _ := rfl

end StatusChip

/-- The chip's peers change the status of a socket. -/
def EmbeddedNetwork.turns (w : EmbeddedNetwork StatusChip) (n status : UInt8) :
    EmbeddedNetwork StatusChip := { w with chip := w.chip.set n status }

theorem EmbeddedNetwork.socket_turns (w : EmbeddedNetwork StatusChip) (n status : UInt8) {m : UInt8}
    (h : m ≠ n) : lifecycle.socket (w.turns n status) m = lifecycle.socket w m := by
  show Function.update w.chip.registers n status m = w.chip.registers m
  exact Function.update_of_ne h _ _

namespace ServerSocket

/-- A server socket on port 80 that has picked socket 0, found a peer connected
and told its listener. -/
def accepted (listener : Scripted) : ServerSocket (EmbeddedNetwork StatusChip) Scripted :=
  let x : ServerSocket (EmbeddedNetwork StatusChip) Scripted :=
    { listener := listener, tcpPort := 80, net := { chip := {} } }
  let x := x.run .pickClosedSocket
  let x := { x with net := x.net.turns 0 SnSR.established }
  x.run .performIo

theorem reaches_accepted (listener : Scripted)
    {ok : ServerSocket (EmbeddedNetwork StatusChip) Scripted → PublicCall → Prop}
    (hpick : ∀ x, ok x .pickClosedSocket) (hpoll : ∀ x, ok x .performIo) :
    Reaches (fun _ _ => True) ok (accepted listener) := by
  unfold accepted
  refine Reaches.call (Reaches.outside ?_ trivial) (hpoll _)
  exact Reaches.call (.start 80 listener _) (hpick _)

end ServerSocket
end McuNet
