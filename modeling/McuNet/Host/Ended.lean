/-
# The end of a connection on the host

`HostSocketInfo::SocketStatus`, `HostSocketInfo::DisconnectConnectionSocket` and
the functions of `ServerSocket` named in `McuNet.Server.Ended`.

`DisconnectConnectionSocket` shuts the connection down for writing and leaves its
file descriptor open, and `SocketStatus` goes on reporting it as open.  A
`ServerSocket` takes that for the connection going on: after its listener has
closed the connection it offers it more to read
(`nothingAfterEnd_counterexample`).
-/

import McuNet.Host.Links
import McuNet.Host.ScriptedKernel
import McuNet.Server.Ended

namespace McuNet
namespace HostNetwork

open ServerSocket

section

variable {K L : Type*} [Posix K] [McuCore K] [ServerSocketListener L]

instance : KeepsOpen (HostNetwork K) where
  isOpen_of_conn {w n d} h := (statusIsOpen_iff_conn w n).2 ⟨d, h⟩
  millis _ _ := rfl

/-- Between two calls only the kernel and the peers act. -/
def PeersAct (w w' : HostNetwork K) : Prop := ∃ k, w' = { w with kernel := k }

theorem laterAll_of_peersAct {w w' : HostNetwork K} (h : PeersAct w w') : LaterAll w w' := by
  obtain ⟨k, rfl⟩ := h
  exact fun n => .refl _

/-- **No callback after the end of a connection on the host.**  Whatever the
kernel, the peers and the listener do: in every run in which no `PerformIO` and no
`SocketLost` is made while the remembered status is still open although the
connection has ended, neither `OnCanRead` nor `OnDisconnect` is delivered for a
connection after `OnDisconnect` or after the listener has closed it. -/
theorem nothingAfterEnd {x : ServerSocket (HostNetwork K) L} (h : Reaches PeersAct EndsInTime x) :
    NothingAfterEnd x.log :=
  (Closes.of_reaches laterAll_of_peersAct h).log

end

/-- A server socket on port 80 that has picked socket 0, before the kernel has a
connection for it. -/
def picked (listener : Scripted) : ServerSocket (HostNetwork ScriptedKernel) Scripted :=
  let x : ServerSocket (HostNetwork ScriptedKernel) Scripted :=
    { listener := listener, tcpPort := 80, net := { kernel := {} } }
  x.run .pickClosedSocket

/-- The server socket when the kernel has a connection and the given answers for
it. -/
def called (listener : Scripted) (recvs : List Received) :
    ServerSocket (HostNetwork ScriptedKernel) Scripted :=
  let x := picked listener
  { x with net := { x.net with kernel := { accepts := [5], recvs := recvs } } }

/-- The peer sends a byte, which is read, and then resets the connection, which
the listener finds out when it reads again. -/
def resetWhileReading : ServerSocket (HostNetwork ScriptedKernel) Scripted :=
  called { canRead := [.read] }
    [.bytes [65], .bytes [65], .bytes [65], .bytes [66], .error .connReset]

theorem nothingAfterEnd_reset :
    let x := ((resetWhileReading.run .performIo).run .performIo).run .performIo
    let y := (x.run .performIo).run .performIo
    y.callbacks = [.onConnect false, .onCanRead false, .onCanRead false, .onDisconnect] ∧
      NothingAfterEnd y.log := by
  intro x y
  have hcalled : Reaches PeersAct EndsInTime resetWhileReading :=
    ((Reaches.start 80 _ _).call fun h => absurd h (by decide)).outside ⟨_, rfl⟩
  have hx : Reaches PeersAct EndsInTime x :=
    ((hcalled.call (c := .performIo) fun _ => by decide +kernel).call (c := .performIo)
      fun _ => by decide +kernel).call (c := .performIo) fun _ => by decide +kernel
  have hy : Reaches PeersAct EndsInTime y :=
    (hx.call (c := .performIo) fun _ => by decide +kernel).call (c := .performIo)
      fun _ => by decide +kernel
  exact ⟨by decide +kernel, nothingAfterEnd hy⟩

/-- **`OnCanRead` after the listener has closed the connection.**  The peer has
sent a byte and keeps the connection open; the listener closes the connection in
`OnConnect`, and the next poll delivers `OnCanRead`. -/
theorem nothingAfterEnd_counterexample :
    ¬ ∀ x : ServerSocket (HostNetwork ScriptedKernel) Scripted,
      Reaches PeersAct (fun _ c => c ≠ .releaseSocket) x → x.net.aborted = false →
        NothingAfterEnd x.log := by
  intro h
  let x := ((called { connect := [.close] } (List.replicate 6 (.bytes [65]))).run .performIo).run
    .performIo
  have hcalled : Reaches PeersAct (fun _ c => c ≠ .releaseSocket)
      (called { connect := [.close] } (List.replicate 6 (.bytes [65]))) :=
    ((Reaches.start 80 _ _).call (by decide)).outside ⟨_, rfl⟩
  have hreach : Reaches PeersAct (fun _ c => c ≠ .releaseSocket) x :=
    (hcalled.call (by decide)).call (by decide)
  have hmap : x.log.map (fun e => (e.callback, e.connection)) =
      [(.onConnect true, 0, 1), (.onCanRead false, 0, 1)] := by decide +kernel
  obtain ⟨d, l, hlog, hd, hl⟩ := List.map_eq_cons_iff.1 hmap
  obtain ⟨e, rfl, he⟩ := List.map_eq_singleton_iff.1 hl
  obtain ⟨hdc, hdid⟩ := Prod.mk.inj hd
  obtain ⟨hec, heid⟩ := Prod.mk.inj he
  have hfirst : ¬ e.announces := by
    rintro ⟨closed, hc⟩
    exact absurd (hec.symm.trans hc) nofun
  exact h x hreach (by decide +kernel) [d] e [] hlog hfirst
    ⟨d, List.mem_singleton_self d, .inr (.inl hdc), hdid.trans heid.symm⟩

end HostNetwork
end McuNet
