/-
# Picking a closed socket of the chip

`ServerSocket::PickClosedSocket` over the `#else` branches of
`PlatformNetwork::FindUnusedSocket` and
`PlatformNetwork::InitializeTcpListenerSocket`.

`FindUnusedSocket` returns the first closed socket, whatever it was used for
before.  `InitializeTcpListenerSocket` then accepts it only if `_server_port`,
which holds the port it is or was last listening on, is the new port or `0`.
Nothing ever resets `_server_port`, so a socket stays with the first port it
listened on, and `PickClosedSocket` looks at no other socket when the first
closed one is refused.
-/

import McuNet.Embedded.W5500
import McuNet.Server.Fleet

namespace McuNet

namespace EmbeddedNetwork

variable {C : Type*} [Ethernet5500 C]

/-- The chip keeps a socket for the port it was first used for; a server socket
for port `0` takes any closed socket for a listener. -/
instance : PortGuard (EmbeddedNetwork C) where
  admits w n port := port = 0 ∨ w.serverPort n = port ∨ w.serverPort n = 0
  findUnusedSocket {n port w} h := by
    have hports : (findUnusedSocket w).2.serverPort = w.serverPort := serverPort_findUnusedSocketIn _ w
    exact (congrArg (fun f => port = 0 ∨ f n = port ∨ f n = 0) hports).mp h
  socketIsTcpListener h := h
  socketIsInTcpConnectionLifecycle h := h
  closeSocket h := h
  socketStatus h := h
  listener {n port w} h := by
    change (if (socketStatus n w).1 = SnSR.listen then w.serverPort n else 0) = port at h
    split_ifs at h
    · exact .inr (.inl h)
    · exact .inl h.symm
  listening {n port w} h := by
    change (initializeTcpListenerSocket n port w).1 = true at h
    simp only [initializeTcpListenerSocket] at h
    split_ifs at h with _ hport
    exact .inr hport

variable [W5500 C]

/-- The sockets of the chip, and the ports kept for them, are as before. -/
structure Same (w w' : EmbeddedNetwork C) : Prop where
  register : w'.register = w.register
  serverPort : w'.serverPort = w.serverPort

theorem Same.trans {u v w : EmbeddedNetwork C} (h : Same u v) (h' : Same v w) : Same u w :=
  ⟨h'.register.trans h.register, h'.serverPort.trans h.serverPort⟩

theorem same_socketStatus (n : UInt8) (w : EmbeddedNetwork C) : Same w (socketStatus n w).2 :=
  ⟨(socketStatus_eq n w).2.1, rfl⟩

theorem socketIsTcpListener_fst (n : UInt8) (w : EmbeddedNetwork C) :
    (Platform.socketIsTcpListener n w).1 =
      if w.register n = SnSR.listen then w.serverPort n else 0 := by
  show (if (socketStatus n w).1 = SnSR.listen then w.serverPort n else 0) = _
  rw [(socketStatus_eq n w).1]

/-- Closing a closed socket changes nothing. -/
theorem same_closeSocket {n : UInt8} {w : EmbeddedNetwork C} (h : w.register n = SnSR.closed) :
    Same w (closeSocket n w).2 := by
  refine ⟨?_, rfl⟩
  show W5500.register (Ethernet5500.close n w.chip) = _
  rw [W5500.close, ← h]
  exact Function.update_eq_self _ _

/-- The closed socket with the lowest number. -/
structure FirstClosed (w : EmbeddedNetwork C) (n : UInt8) : Prop where
  range : n < maxSockNum
  closed : w.register n = SnSR.closed
  first : ∀ m < n, w.register m ≠ SnSR.closed

/-- There is at most one. -/
theorem FirstClosed.unique {w : EmbeddedNetwork C} {m n : UInt8} (hm : FirstClosed w m)
    (hn : FirstClosed w n) : m = n := by
  by_contra hne
  rcases UInt8.lt_or_lt_of_ne hne with h | h
  · exact hn.first m h hm.closed
  · exact hm.first n h hn.closed

/-- The loop of `FindUnusedSocket` goes over all socket numbers, in order. -/
theorem mem_socketNumbers {n : UInt8} : n ∈ socketNumbers ↔ n < maxSockNum := by
  have hmax : maxSockNum.toNat = 8 := rfl
  rw [socketNumbers, List.mem_map, UInt8.lt_iff_toNat_lt]
  constructor
  · rintro ⟨k, hk, rfl⟩
    rw [List.mem_range] at hk
    rw [UInt8.toNat_ofNat']
    omega
  · intro h
    exact ⟨n.toNat, List.mem_range.2 h, UInt8.ofNat_toNat⟩

theorem pairwise_socketNumbers : socketNumbers.Pairwise (· < ·) := by decide

/-- **`FindUnusedSocket`** finds the closed socket with the lowest number. -/
theorem findUnusedSocket_spec (w : EmbeddedNetwork C) :
    Same w (findUnusedSocket w).2 ∧
    (((findUnusedSocket w).1 = -1 ∧ ∀ n < maxSockNum, w.register n ≠ SnSR.closed) ∨
      ∃ n, FirstClosed w n ∧ (findUnusedSocket w).1 = n.toNat) := by
  obtain ⟨hreg, hports, hfound⟩ := findUnusedSocketIn_spec socketNumbers w
  refine ⟨⟨hreg, hports⟩, ?_⟩
  rcases hfound with ⟨hnone, hall⟩ | ⟨before, after, n, hsplit, hn, hclosed, hbefore⟩
  · exact .inl ⟨hnone, fun n h => hall n (mem_socketNumbers.2 h)⟩
  · have hmem (m : UInt8) : m < maxSockNum ↔ m ∈ before ++ n :: after :=
      mem_socketNumbers.symm.trans (iff_of_eq (congrArg (m ∈ ·) hsplit))
    have hn8 : n < maxSockNum := (hmem n).2 (List.mem_append_right _ (List.mem_cons_self ..))
    refine .inr ⟨n, ⟨hn8, hclosed, fun m hm => hbefore m ?_⟩, hn⟩
    -- the numbers after `n` in the list are larger
    have hlater : ∀ k ∈ after, n < k := by
      have hpair := pairwise_socketNumbers
      rw [hsplit] at hpair
      exact (List.pairwise_cons.1 (List.pairwise_append.1 hpair).2.1).1
    rcases List.mem_append.1 ((hmem m).1 (UInt8.lt_trans hm hn8)) with hm' | hm'
    · exact hm'
    · rcases List.mem_cons.1 hm' with rfl | hm'
      · exact absurd hm (UInt8.lt_irrefl _)
      · exact absurd (UInt8.lt_trans hm (hlater m hm')) (UInt8.lt_irrefl _)

end EmbeddedNetwork

namespace ServerSocket

open EmbeddedNetwork

variable {C L : Type*} [Ethernet5500 C] [W5500 C]

/-- **`BeginListening` on a closed socket of the chip** succeeds exactly with a
port that the socket is kept for, or when it is kept for none. -/
theorem beginListening_closed (x : ServerSocket (EmbeddedNetwork C) L) (has : x.hasSocket = true)
    (hclosed : x.net.register x.sockNum = SnSR.closed) (hport : x.tcpPort ≠ 0) :
    let r := x.beginListening
    let admitted := x.net.serverPort x.sockNum = x.tcpPort ∨ x.net.serverPort x.sockNum = 0
    (admitted ∧ r.1 = true ∧
      r.2.net.register = Function.update x.net.register x.sockNum SnSR.listen ∧
      r.2.net.serverPort = Function.update x.net.serverPort x.sockNum x.tcpPort) ∨
    (¬ admitted ∧ r.1 = false) := by
  intro r admitted
  have hlistener : Same x.net x.askedListener := same_socketStatus _ _
  have hconnected : Same x.net x.askedConnected := hlistener.trans (same_socketStatus _ _)
  have hcleared : Same x.net x.cleared.net := by
    have hclose : Same x.askedConnected (closeSocket x.sockNum x.askedConnected).2 :=
      same_closeSocket (by rw [hconnected.register, hclosed])
    exact (hconnected.trans hclose).trans (same_socketStatus _ _)
  have hinit := initializeTcpListenerSocket_spec x.sockNum x.tcpPort x.cleared.net
  simp only [hcleared.register, hcleared.serverPort] at hinit
  have hbegin := x.beginListening_begin has
  show (admitted ∧ x.beginListening.1 = true ∧ x.beginListening.2.net.register = _ ∧
    x.beginListening.2.net.serverPort = _) ∨ (¬ admitted ∧ x.beginListening.1 = false)
  generalize hr : x.beginListening = r at hbegin
  cases hbegin with
  | already port =>
    -- the socket is closed, so it is not a listener
    rw [socketIsTcpListener_fst, hclosed, if_neg (by decide)] at port
    exact absurd port.symm hport
  | busy connected =>
    change statusIsInTcpConnectionLifecycle (socketStatus x.sockNum x.askedListener).1 = true
      at connected
    rw [(socketStatus_eq _ _).1, hlistener.register, hclosed] at connected
    exact absurd connected Bool.false_ne_true
  | listening set =>
    rcases hinit with ⟨-, hadmitted, -, hreg, hports⟩ | ⟨-, hno, -⟩
    · have hsame := same_socketStatus x.sockNum x.setToListen.2
      exact .inl ⟨hadmitted, rfl, hsame.register.trans hreg, hsame.serverPort.trans hports⟩
    · exact absurd (hno.symm.trans set) Bool.false_ne_true
  | refused refused =>
    rcases hinit with ⟨-, -, hyes, -⟩ | ⟨hno, -⟩
    · exact absurd (refused.symm.trans hyes) Bool.false_ne_true
    · exact .inr ⟨fun h => hno ⟨hclosed, h⟩, rfl⟩

/-- **`PickClosedSocket`** takes the closed socket with the lowest number if that
is kept for its port or for none, and fails otherwise. -/
theorem pickClosedSocket_closed (x : ServerSocket (EmbeddedNetwork C) L)
    (has : x.hasSocket = false) (hport : x.tcpPort ≠ 0) {n : UInt8} (hn : FirstClosed x.net n) :
    let r := x.pickClosedSocket
    let admitted := x.net.serverPort n = x.tcpPort ∨ x.net.serverPort n = 0
    (admitted ∧ r.1 = true ∧ r.2.sockNum = n ∧
      r.2.net.register = Function.update x.net.register n SnSR.listen ∧
      r.2.net.serverPort = Function.update x.net.serverPort n x.tcpPort) ∨
    (¬ admitted ∧ r.1 = false) := by
  intro r admitted
  obtain ⟨hsame, hfound⟩ := findUnusedSocket_spec x.net
  obtain ⟨m, hm, hnum⟩ := hfound.resolve_left fun h => h.2 n hn.range hn.closed
  obtain rfl := hm.unique hn
  have hsock : x.found.sockNum = m := by
    show UInt8.ofNat (findUnusedSocket x.net).1.toNat = m
    rw [hnum, Int.toNat_natCast, UInt8.ofNat_toNat]
  have hsame' : Same x.net x.found.net := hsame
  have hclosed : x.found.net.register x.found.sockNum = SnSR.closed := by
    rw [hsame'.register, hsock, hm.closed]
  have hrange : x.found.hasSocket = true := by
    rw [hasSocket, hsock]
    exact decide_eq_true hm.range
  have hbegin := x.found.beginListening_closed hrange hclosed hport
  simp only [hsame'.register, hsame'.serverPort, hsock] at hbegin
  have hkeep := (unseen_beginListening x.found).sockNum
  have hpick := x.pickClosedSocket_pick
  show (admitted ∧ x.pickClosedSocket.1 = true ∧ x.pickClosedSocket.2.sockNum = m ∧
    x.pickClosedSocket.2.net.register = _ ∧ x.pickClosedSocket.2.net.serverPort = _) ∨
    (¬ admitted ∧ x.pickClosedSocket.1 = false)
  generalize hr : x.pickClosedSocket = r at hpick
  cases hpick with
  | bound h => exact absurd (has.symm.trans h) Bool.false_ne_true
  | noneFree _ none =>
    refine absurd ?_ none
    rw [show (Platform.findUnusedSocket x.net).1 = m.toNat from hnum]
    exact ⟨Int.natCast_nonneg _, Int.ofNat_lt.2 (UInt8.lt_iff_toNat_lt.1 hm.range)⟩
  | refused _ _ _ _ hno =>
    rcases hbegin with ⟨-, hyes, -⟩ | ⟨hno', -⟩
    · exact absurd (hno.symm.trans hyes) Bool.false_ne_true
    · exact .inr ⟨hno', rfl⟩
  | picked _ _ _ _ hyes =>
    rcases hbegin with ⟨hadmitted, -, hreg, hports⟩ | ⟨-, hno⟩
    · have hread := same_socketStatus x.found.beginListening.2.sockNum x.found.beginListening.2.net
      exact .inl ⟨hadmitted, rfl, hkeep.trans hsock, hread.register.trans hreg,
        hread.serverPort.trans hports⟩
    · exact absurd (hno.symm.trans hyes) Bool.false_ne_true

end ServerSocket

namespace Fleet

open EmbeddedNetwork

variable {ι C L : Type*} [DecidableEq ι] [Ethernet5500 C] [W5500 C] [ServerSocketListener L]

/-- The chip and the peers may do anything between two calls, but only
`InitializeTcpListenerSocket` writes `_server_port`. -/
def KeepsPorts (w w' : EmbeddedNetwork C) : Prop := w'.serverPort = w.serverPort

/-- `PickClosedSocket` returns true, and the server socket then has a hardware
socket that listens on its port. -/
structure Picks (f : Fleet ι (EmbeddedNetwork C) L) (i : ι) : Prop where
  success : (f.server i).pickClosedSocket.1 = true
  hasSocket : ((f.call i .pickClosedSocket).server i).hasSocket = true
  listens : (Platform.socketIsTcpListener ((f.call i .pickClosedSocket).server i).sockNum
    (f.call i .pickClosedSocket).net).1 = (f.server i).tcpPort

/-- **When a closed socket can be picked.**  In every run of any number of server
sockets with ports other than `0`, whenever one without a hardware socket calls
`PickClosedSocket` and some socket is closed, it gets a socket that listens on its
port if and only if the first closed socket is kept for that port or for none. -/
theorem picks_iff {ports : ι → UInt16} (hports : ∀ i, ports i ≠ 0)
    {f : Fleet ι (EmbeddedNetwork C) L} (h : Reaches KeepsPorts (fun _ _ _ => True) ports f) (i : ι)
    (has : (f.server i).hasSocket = false)
    (free : ∃ n < maxSockNum, f.net.register n = SnSR.closed) :
    f.Picks i ↔ ∃ n, f.net.FirstClosed n ∧
      (f.net.serverPort n = ports i ∨ f.net.serverPort n = 0) := by
  have hport : (f.server i).tcpPort = ports i := h.tcpPort i
  obtain ⟨m, hm, hmclosed⟩ := free
  obtain ⟨n, hn, -⟩ := (findUnusedSocket_spec f.net).2.resolve_left fun h => h.2 m hm hmclosed
  have hpick := (f.server i).pickClosedSocket_closed has (hport ▸ hports i) hn
  simp only [hport] at hpick
  constructor
  · rintro ⟨hyes, -, -⟩
    rcases hpick with ⟨hadmitted, -⟩ | ⟨-, hno⟩
    · exact ⟨n, hn, hadmitted⟩
    · exact absurd (hno.symm.trans hyes) Bool.false_ne_true
  · rintro ⟨k, hk, hadmitted⟩
    obtain rfl := hk.unique hn
    rcases hpick with ⟨-, hyes, hsock, hreg, hserver⟩ | ⟨hno, -⟩
    · have hsock' : ((f.call i .pickClosedSocket).server i).sockNum = k := by
        rw [f.server_call_self]
        exact hsock
      have hlisten : (f.call i .pickClosedSocket).net.register k = SnSR.listen := by
        rw [show (f.call i .pickClosedSocket).net.register = _ from hreg, Function.update_self]
      have hkept : (f.call i .pickClosedSocket).net.serverPort k = ports i := by
        rw [show (f.call i .pickClosedSocket).net.serverPort = _ from hserver, Function.update_self]
      refine ⟨hyes, ?_, ?_⟩
      · rw [ServerSocket.hasSocket, hsock']
        exact decide_eq_true hk.range
      · rw [hsock', socketIsTcpListener_fst, if_pos hlisten, hkept, hport]
    · exact absurd hadmitted hno

/-- Two server sockets on the chip, for ports `80` and `81`, and all hardware
sockets closed. -/
def pair (ports : Bool → UInt16) : Fleet Bool (EmbeddedNetwork StatusChip) Scripted :=
  start ports (fun _ => {}) { chip := {} }

/-- The ports of two server sockets. -/
def differentPorts : Bool → UInt16
  | false => 80
  | true => 81

/-- The server socket for port `80` has picked socket `0` and released it. -/
def released : Fleet Bool (EmbeddedNetwork StatusChip) Scripted :=
  ((pair differentPorts).call false .pickClosedSocket).call false .releaseSocket

theorem reaches_released : Reaches KeepsPorts (fun _ _ _ => True) differentPorts released :=
  ((Reaches.begin _ _).call trivial).call trivial

/-- Socket `0` is closed again and kept for port `80`, so the server socket for that port
gets it once more, and the one for port `81` gets none. -/
theorem picks_iff_again : released.Picks false ∧ ¬released.Picks true := by
  have hfirst : released.net.FirstClosed 0 :=
    ⟨by decide, by decide +kernel, fun m hm => absurd hm (by simp [UInt8.lt_iff_toNat_lt])⟩
  have hkept : released.net.serverPort 0 = 80 := by decide +kernel
  have hpicks := picks_iff (by decide) reaches_released
  constructor
  · exact (hpicks false (by decide +kernel) ⟨0, hfirst.range, hfirst.closed⟩).2
      ⟨0, hfirst, .inl hkept⟩
  · rw [hpicks true (by decide +kernel) ⟨0, hfirst.range, hfirst.closed⟩]
    rintro ⟨n, hn, hport⟩
    obtain rfl := hn.unique hfirst
    rw [hkept] at hport
    exact absurd hport (by decide)

/-- **A closed socket that cannot be picked.**  The server socket for port `80`
picks socket `0` and releases it; all sockets are closed, but the one for port `81`
is refused socket `0` and looks no further. -/
theorem picks_counterexample :
    ¬ ∀ (f : Fleet Bool (EmbeddedNetwork StatusChip) Scripted),
      Reaches KeepsPorts (fun _ _ _ => True) differentPorts f → ∀ i,
        (f.server i).hasSocket = false → (∃ n < maxSockNum, f.net.register n = SnSR.closed) →
          f.Picks i := by
  intro h
  have hpicks := h released reaches_released true (by decide +kernel)
    ⟨0, by decide, by decide +kernel⟩
  exact absurd hpicks.success (by decide +kernel)

end Fleet
end McuNet
