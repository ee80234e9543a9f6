/-
# Machines behind the embedded network

`Drives M C` says of a chip, and of the library on it, that every hardware
socket is a machine `M`.  The layer that `src/platform_network.cpp` puts on top
then has the same machines behind its sockets, whatever `M` is: it reads statuses
and makes the calls it is asked for, and `InitializeTcpListenerSocket` only
touches a socket that it has read as closed.
-/

import McuNet.Embedded.Network
import McuNet.Server.Hardware

namespace McuNet

open SocketMachine

/-- The chip has a machine `M` behind every hardware socket. -/
class Drives (M : SocketMachine) (C : Type*) [Ethernet5500 C] where
  view : C → UInt8 → M.State
  status_eq : ∀ n (c : C),
    (Ethernet5500.status n c).1 = M.status (view (Ethernet5500.status n c).2 n)
  status : ∀ n (c : C), M.QuietIn view c (Ethernet5500.status n c).2
  listen : ∀ n port (c : C), M.status (view c n) = SnSR.closed →
    M.ActsIn view n M.Listen c (Ethernet5500.listen n (Ethernet5500.socket n port c))
  disconnect : ∀ n (c : C), M.ActsIn view n M.Disconnect c (Ethernet5500.disconnect n c)
  close : ∀ n (c : C), M.ActsIn view n M.Close c (Ethernet5500.close n c)
  client : ∀ n, (Ethernet5500.client (C := C) n).Moves (M.QuietIn view)
  millis : ∀ c : C, M.QuietIn view c (Ethernet5500.millis c).2
  elapsedMillis : ∀ t (c : C), M.QuietIn view c (Ethernet5500.elapsedMillis t c).2

namespace EmbeddedNetwork

variable {M : SocketMachine} {C : Type*} [Ethernet5500 C] [Drives M C]

/-- The hardware sockets of the chip. -/
def view (M : SocketMachine) [Drives M C] (w : EmbeddedNetwork C) : UInt8 → M.State :=
  Drives.view w.chip

/-- A status read tells what the hardware has when it returns. -/
theorem socketStatus_view (n : UInt8) (w : EmbeddedNetwork C) :
    (socketStatus n w).1 = M.status (view M (socketStatus n w).2 n) ∧
      M.QuietIn (view M) w (socketStatus n w).2 :=
  ⟨Drives.status_eq n w.chip, Drives.status n w.chip⟩

/-- The loop of `FindUnusedSocket` only reads statuses, and the last one it reads
is that of the socket it returns. -/
theorem findUnusedSocketIn_view (l : List UInt8) (w : EmbeddedNetwork C) :
    let r := findUnusedSocketIn l w
    M.QuietIn (view M) w r.2 ∧
      (0 ≤ r.1 → M.status (view M r.2 (UInt8.ofNat r.1.toNat)) = SnSR.closed) := by
  induction l generalizing w with
  | nil => exact ⟨fun n => M.advance_refl _, fun h => absurd (show (0 : ℤ) ≤ -1 from h) (by decide)⟩
  | cons n rest ih =>
    obtain ⟨hstatus, hquiet⟩ := socketStatus_view (M := M) n w
    simp only [findUnusedSocketIn, socketIsClosed, beq_iff_eq]
    split_ifs with hclosed
    · refine ⟨hquiet, fun _ => ?_⟩
      rw [Int.toNat_natCast, UInt8.ofNat_toNat, ← hstatus]
      exact hclosed
    · obtain ⟨hrest, hfound⟩ := ih (socketStatus n w).2
      exact ⟨fun m => M.advance_trans (hquiet m) (hrest m), hfound⟩

/-- **`InitializeTcpListenerSocket` on a machine.** -/
theorem initializeTcpListenerSocket_view (n : UInt8) (port : UInt16) (w : EmbeddedNetwork C) :
    let r := initializeTcpListenerSocket n port w
    (r.1 = true → M.ActsIn (view M) n M.Listen w r.2) ∧
      (r.1 = false → M.ActsIn (view M) n M.Refuse w r.2) := by
  obtain ⟨hstatus, hquiet⟩ := socketStatus_view (M := M) n w
  have hrefuse : M.ActsIn (view M) n M.Refuse w (socketStatus n w).2 :=
    ⟨M.refuse_of_advance (hquiet n), fun m _ => hquiet m⟩
  simp only [initializeTcpListenerSocket]
  split_ifs with hclosed hport
  · obtain ⟨hlisten, hothers⟩ := Drives.listen (M := M) n port (socketStatus n w).2.chip
      (hstatus.symm.trans hclosed)
    exact ⟨fun _ => ⟨M.listen_of_advance (hquiet n) hlisten, fun m hm =>
      M.advance_trans (hquiet m) (hothers m hm)⟩, nofun⟩
  · exact ⟨nofun, fun _ => hrefuse⟩
  · exact ⟨nofun, fun _ => hrefuse⟩

/-- **The embedded network has the machines of the chip behind its sockets.** -/
instance : Implements M (EmbeddedNetwork C) where
  view := view M
  socketStatus_eq n w := (socketStatus_view n w).1
  socketStatus n w := (socketStatus_view n w).2
  findUnusedSocket_closed w h0 _ := (findUnusedSocketIn_view socketNumbers w).2 h0
  findUnusedSocket w := (findUnusedSocketIn_view socketNumbers w).1
  socketIsTcpListener n w := (socketStatus_view n w).2
  socketIsInTcpConnectionLifecycle n w := (socketStatus_view n w).2
  initializeTcpListenerSocket_true n port w := (initializeTcpListenerSocket_view n port w).1
  initializeTcpListenerSocket_false n port w := (initializeTcpListenerSocket_view n port w).2
  disconnectSocket n w := Drives.disconnect n w.chip
  closeSocket n w := Drives.close n w.chip
  ethernetClient n :=
    { write := fun p size w => (Drives.client n).write p size w.chip
      getWriteError := fun w => (Drives.client n).getWriteError w.chip
      available := fun w => (Drives.client n).available w.chip
      read := fun w => (Drives.client n).read w.chip
      readBuf := fun size w => (Drives.client n).readBuf size w.chip
      peek := fun w => (Drives.client n).peek w.chip
      connected := fun w => (Drives.client n).connected w.chip }
  millis w := Drives.millis w.chip
  elapsedMillis t w := Drives.elapsedMillis t w.chip

end EmbeddedNetwork
end McuNet
