/-
# Whose hardware socket it is

`ServerSocket::PickClosedSocket`, `ServerSocket::BeginListening`,
`PlatformNetwork::FindUnusedSocket` and
`PlatformNetwork::InitializeTcpListenerSocket`.

The binding of a hardware socket to a `ServerSocket` is meant to last until
`ReleaseSocket` or `SocketLost`, but nothing outside of the `ServerSocket` knows
of it: `FindUnusedSocket` takes every closed socket for an unused one.  A bound
socket is closed for a while whenever its connection has ended, until the next
`PerformIO` makes it listen again, and a pick in that time can bind it a second
time (`exclusive_counterexample`).  Only the guard on the port prevents some of
these picks.

As long as no pick finds such a socket, no hardware socket is bound twice
(`exclusive`), on any platform; on the chip the condition is exact
(`exclusive_call_iff`).
-/

import McuNet.Embedded.Pick

namespace McuNet
namespace Fleet

section Any

variable {ι W L : Type*} [DecidableEq ι] [Platform W] [PortGuard W] [ServerSocketListener L]

/-- No hardware socket is bound to two server sockets. -/
def Exclusive (f : Fleet ι W L) : Prop :=
  ∀ i j, i ≠ j → (f.server i).hasSocket = true → (f.server j).hasSocket = true →
    (f.server i).sockNum ≠ (f.server j).sockNum

/-- The closed hardware socket that `FindUnusedSocket` finds is bound to another
server socket than `i`, and can be set to listen for the port of `i`. -/
def Taken (f : Fleet ι W L) (i : ι) : Prop :=
  ∃ j, j ≠ i ∧ (f.server j).hasSocket = true ∧
    (Platform.findUnusedSocket f.net).1 = (f.server j).sockNum.toNat ∧
    PortGuard.admits f.net (f.server j).sockNum (f.server i).tcpPort

/-- A server socket that picks a hardware socket does not find one that is taken. -/
def PicksFree (f : Fleet ι W L) (i : ι) (c : PublicCall) : Prop :=
  c = .pickClosedSocket → (f.server i).hasSocket = false → ¬ f.Taken i

/-- What a call binds is not bound to another server socket. -/
theorem sockNum_call_ne {f : Fleet ι W L} {i j : ι} {c : PublicCall} (h : f.Exclusive)
    (hok : PicksFree f i c) (hij : i ≠ j) (hi : ((f.call i c).server i).hasSocket = true)
    (hj : (f.server j).hasSocket = true) :
    ((f.call i c).server i).sockNum ≠ (f.server j).sockNum := by
  rw [server_call_self] at hi ⊢
  rcases (f.server i).run_bound c hi with ⟨has, hkept⟩ | ⟨rfl, has, hrange, hbegin, hfound, hnum⟩
  · rw [hkept]
    exact h i j hij has hj
  · -- a pick: the socket was found closed, and listens for the port now
    rw [hfound]
    intro heq
    have hadmits := PortGuard.findUnusedSocket ((f.server i).found.admits_of_beginListening hrange
      hbegin)
    rw [heq] at hnum hadmits
    exact hok rfl has ⟨j, hij.symm, hj, hnum, hadmits⟩

/-- **A call keeps the bindings apart** unless it picks a socket that is taken. -/
theorem Exclusive.call {f : Fleet ι W L} {i : ι} {c : PublicCall} (h : f.Exclusive)
    (hok : PicksFree f i c) : (f.call i c).Exclusive := by
  intro a b hab ha hb
  by_cases hai : a = i
  · subst hai
    rw [server_call_of_ne f c hab.symm] at hb ⊢
    exact sockNum_call_ne h hok hab ha hb
  by_cases hbi : b = i
  · subst hbi
    rw [server_call_of_ne f c hab] at ha ⊢
    exact (sockNum_call_ne h hok hab.symm hb ha).symm
  · rw [server_call_of_ne f c hai] at ha ⊢
    rw [server_call_of_ne f c hbi] at hb ⊢
    exact h a b hab ha hb

/-- **Hardware sockets are owned exclusively.**  In every run of any number of
server sockets, with any ports, whatever happens on the platform between their
calls: if no pick finds a closed socket that is bound to another server socket and
open to its port, no two server sockets ever have the same hardware socket. -/
theorem exclusive {ports : ι → UInt16} {f : Fleet ι W L}
    (h : Reaches (fun _ _ => True) PicksFree ports f) : f.Exclusive := by
  refine h.invariant (fun listeners w i j _ hi => ?_) (fun f w hf _ => hf)
    (fun f i c hf hok => hf.call hok)
  exact absurd (show false = true from hi) Bool.false_ne_true

end Any

/-- A status changes nothing of the table. -/
theorem keepsPorts_turns (w : EmbeddedNetwork StatusChip) (n status : UInt8) :
    KeepsPorts w (w.turns n status) :=
  rfl

/-- The ports of two server sockets. -/
def samePort : Bool → UInt16 := fun _ => 80

/-- Two server sockets for one port, one after the other. -/
theorem exclusive_twoPicks :
    ((((pair samePort).call false .pickClosedSocket).call true .pickClosedSocket).server true).sockNum
        = 1 ∧
      (((pair samePort).call false .pickClosedSocket).call true .pickClosedSocket).Exclusive := by
  have hfirst : Reaches (fun _ _ => True) PicksFree samePort
      ((pair samePort).call false .pickClosedSocket) := by
    refine (Reaches.begin _ _).call ?_
    rintro - - ⟨j, -, has, -⟩
    exact absurd (show false = true from has) Bool.false_ne_true
  refine ⟨by decide +kernel, exclusive (hfirst.call ?_)⟩
  rintro - - ⟨j, hj, -, hnum, -⟩
  cases j with
  | false => exact absurd hnum (by decide +kernel)
  | true => exact absurd rfl hj

/-- **A hardware socket with two owners.**  The connection of the first server
socket is reset by its peer; before the next `PerformIO` the second one picks the
same hardware socket. -/
theorem exclusive_counterexample :
    ¬ ∀ f : Fleet Bool (EmbeddedNetwork StatusChip) Scripted,
      Reaches KeepsPorts (fun _ _ _ => True) samePort f → f.Exclusive := by
  intro h
  let picked := (pair samePort).call false .pickClosedSocket
  let connected := { picked with net := picked.net.turns 0 SnSR.established }.call false .performIo
  let reset := { connected with net := connected.net.turns 0 SnSR.closed }
  have hpicked : Reaches KeepsPorts (fun _ _ _ => True) samePort picked :=
    (Reaches.begin _ _).call trivial
  have hconnected : Reaches KeepsPorts (fun _ _ _ => True) samePort connected :=
    (hpicked.outside (keepsPorts_turns picked.net 0 SnSR.established)).call trivial
  have hreset : Reaches KeepsPorts (fun _ _ _ => True) samePort (reset.call true .pickClosedSocket) :=
    (hconnected.outside (keepsPorts_turns connected.net 0 SnSR.closed)).call trivial
  exact h _ hreset false true (by decide) (by decide +kernel) (by decide +kernel) (by decide +kernel)

section Chip

open EmbeddedNetwork

variable {ι C L : Type*} [DecidableEq ι] [Ethernet5500 C] [W5500 C] [ServerSocketListener L]

/-- **On the chip every pick of a taken socket binds it twice.** -/
theorem exclusive_call_iff {f : Fleet ι (EmbeddedNetwork C) L} {i : ι} {c : PublicCall}
    (h : f.Exclusive) (hport : (f.server i).tcpPort ≠ 0) :
    (f.call i c).Exclusive ↔ PicksFree f i c := by
  refine ⟨?_, h.call⟩
  rintro hcall rfl has ⟨j, hji, hj, hnum, hadmits⟩
  obtain ⟨-, hfound⟩ := findUnusedSocket_spec f.net
  have hnum' : (findUnusedSocket f.net).1 = (f.server j).sockNum.toNat := hnum
  rw [hnum'] at hfound
  obtain ⟨n, hn, heq⟩ := hfound.resolve_left fun h => by omega
  have hjn : (f.server j).sockNum = n := UInt8.toNat_inj.1 (Int.ofNat_inj.1 heq)
  have hadmitted : f.net.serverPort n = (f.server i).tcpPort ∨ f.net.serverPort n = 0 :=
    hjn ▸ hadmits.resolve_left hport
  rcases (f.server i).pickClosedSocket_closed has hport hn with ⟨-, -, hsock, -⟩ | ⟨hno, -⟩
  · have hi : ((f.call i .pickClosedSocket).server i).sockNum = n := by
      rw [server_call_self]
      exact hsock
    refine hcall i j hji.symm ?_ ?_ ?_
    · rw [ServerSocket.hasSocket, hi]
      exact decide_eq_true hn.range
    · rw [server_call_of_ne f _ hji]
      exact hj
    · rw [hi, server_call_of_ne f _ hji]
      exact hjn.symm
  · exact hno hadmitted

end Chip

end Fleet
end McuNet
