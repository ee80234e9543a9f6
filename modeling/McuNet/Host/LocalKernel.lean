/-
# A small kernel with streams

File descriptors are given out in increasing order.  Connections that wait to be
accepted have what their peers have sent; `recv` works on the streams, and the
system calls succeed, `fcntl` if it is told to.
-/

import McuNet.Host.Network
import McuNet.Host.StreamKernel

namespace McuNet

/-- The next file descriptor, the connections that wait to be accepted, what arrives on each
file descriptor, and whether `fcntl` works. -/
structure LocalKernel where
  nextFd : ℕ := 3
  waiting : List (Incoming UInt8) := []
  streams : ℤ → Incoming UInt8 := fun _ => {}
  fcntlWorks : Bool := true

namespace LocalKernel

/-- A file descriptor that is not in use. -/
def newFd (k : LocalKernel) (fd : ℤ) : ℕ := max k.nextFd (fd + 1).toNat

instance : Posix LocalKernel where
  socket k := (k.nextFd, { k with nextFd := k.nextFd + 1 })
  setReuse _ k := (true, k)
  bind _ _ k := (true, k)
  fcntlGetFl _ k := (0, k)
  fcntlSetFl _ _ k := (k.fcntlWorks, k)
  listen _ k := (true, k)
  accept fd k :=
    match k.waiting with
    | [] => (-1, k)
    | i :: rest =>
      (k.newFd fd, { k with
        nextFd := k.newFd fd + 1
        waiting := rest
        streams := Function.update k.streams (k.newFd fd) { i with taken := [] } })
  recv fd len peek k :=
    let i := k.streams fd
    if i.broken then (.error .connReset, k)
    else if i.unread ≠ [] then
      (.bytes (i.unread.take len),
        if peek then k else { k with streams := Function.update k.streams fd (i.take len) })
    else if i.shutdown then (.bytes [], k) else (.error .again, k)
  send _ _ len k := (len, k)
  shutdownWr _ k := (true, k)
  close _ k := k

/-- Descriptors are blocking at first. -/
theorem setNonBlocking_eq (fd : ℤ) (k : LocalKernel) :
    HostSocketInfo.setNonBlocking fd k = (k.fcntlWorks, k) := by
  simp [HostSocketInfo.setNonBlocking, Posix.fcntlGetFl, Posix.fcntlSetFl]

/-- `recv` does what is said of it. -/
theorem receives (fd : ℤ) (len : ℕ) (peek : Bool) (k : LocalKernel) :
    Receives len peek (k.streams fd) (Posix.recv fd len peek k).1
      ((Posix.recv fd len peek k).2.streams fd) := by
  simp only [Posix.recv]
  split_ifs with hbroken hwaiting hpeek hshut
  · exact .lost hbroken (.inl rfl)
  · have hkept : Receives len true (k.streams fd) _ _ :=
      .bytes (Bool.eq_false_of_not_eq_true hbroken) hwaiting
    rw [hpeek]
    exact hkept
  · have htaken : Receives len false (k.streams fd) _ _ :=
      .bytes (Bool.eq_false_of_not_eq_true hbroken) hwaiting
    dsimp only
    rw [Bool.eq_false_of_not_eq_true hpeek, Function.update_self]
    exact htaken
  · exact .ended (Bool.eq_false_of_not_eq_true hbroken) ⟨not_not.1 hwaiting, hshut⟩
  · exact .nothing (Bool.eq_false_of_not_eq_true hbroken) (not_not.1 hwaiting)
      (Bool.eq_false_of_not_eq_true hshut) (.inl rfl)

/-- A connection that is accepted has a file descriptor of its own, and nothing was read from it. -/
theorem accepts (fd : ℤ) (k : LocalKernel) (h : 0 ≤ (Posix.accept fd k).1) :
    (Posix.accept fd k).1 ≠ fd ∧
      ((Posix.accept fd k).2.streams (Posix.accept fd k).1).taken = [] := by
  simp only [Posix.accept] at h ⊢
  split at h
  · exact absurd h (show ¬(0 : ℤ) ≤ -1 by decide)
  · refine ⟨fun heq => ?_, ?_⟩
    · have hlt : fd < k.newFd fd := by
        rw [newFd]
        omega
      exact hlt.ne' heq
    · dsimp only
      rw [Function.update_self]

instance : StreamKernel LocalKernel where
  incoming := streams
  recv := receives
  accept := accepts
  send _ _ _ _ := .refl _
  shutdownWr _ _ := .refl _
  close _ _ _ _ := .refl _

instance : McuCore LocalKernel where
  millis k := (0, k)
  elapsedMillis t k := (0 - t, k)
  getWriteError k := (0, k)

end LocalKernel

namespace HostSocketInfo

/-- A socket that listens on port 80, with connections that wait to be accepted. -/
def listening80 (waiting : List (Incoming UInt8)) : HostSocketInfo × LocalKernel :=
  ({ listenerSocketFd := 3, tcpPort := 80, mappedTcpPort := 80 },
    { nextFd := 4, waiting := waiting })

/-- `InitializeTcpListener(80)` on a new socket. -/
theorem perform_listening80 (waiting : List (Incoming UInt8)) :
    perform [] (.initializeTcpListener 80) ({}, ({ waiting := waiting } : LocalKernel)) =
      some (.ofBool true, listening80 waiting) := by
  with_unfolding_all rfl

/-- The connection is accepted; its peer has sent and done what `i` says. -/
def established80 (i : Incoming UInt8) : HostSocketInfo × LocalKernel :=
  ({ connectionSocketFd := 4, canWriteToConnection := true, canReadFromConnection := true,
     accepted := 1 },
    { nextFd := 5, streams := Function.update (fun _ => {}) 4 { i with taken := [] } })

/-- A peer that waits is accepted. -/
theorem perform_established80 (i : Incoming UInt8) :
    perform [] .acceptConnection (listening80 [i]) = some (.ofBool true, established80 i) := by
  with_unfolding_all rfl

/-- A run that begins with these two operations, whatever it allows. -/
theorem run_established80 {outside : HostSocketInfo × LocalKernel → HostSocketInfo × LocalKernel → Prop}
    {ok : HostSocketInfo × LocalKernel → Op → Prop} (i : Incoming UInt8)
    (hlisten : ok ({}, { waiting := [i] }) (.initializeTcpListener 80))
    (haccept : ok (listening80 [i]) .acceptConnection) :
    Run (perform []) outside ok ({}, { waiting := [i] })
      [(.initializeTcpListener 80, .ofBool true), (.acceptConnection, .ofBool true)]
      (established80 i) :=
  .call (.call .start hlisten (perform_listening80 [i])) haccept (perform_established80 i)

end HostSocketInfo
end McuNet
