/-
# Several server sockets on one platform

`src/server_socket.h` and `src/platform_network.cpp`.

A program has a `ServerSocket` for every connection that it wants to serve at a
time; some of them listen on the same TCP port.  They share the platform, and
each knows only its own `sock_num_`.  `Fleet` is the state of all of them, and a
step of a run is a public call of one of them, or a change outside.

What a call does to the binding of its own server socket is the same for every
call (`run_bound`): only `PickClosedSocket` binds one, to the hardware socket that
`FindUnusedSocket` found, and only when `BeginListening` succeeds with it.
-/

import McuNet.Server.Poll

namespace McuNet

/-- Which ports a hardware socket can be set to listen for.  On the chip a socket
stays with the first port it was used for (`McuNet.Embedded.Pick`); the host has
no such restriction. -/
class PortGuard (W : Type*) [Platform W] where
  admits : W → UInt8 → UInt16 → Prop
  findUnusedSocket : ∀ {n port} {w : W}, admits (Platform.findUnusedSocket w).2 n port →
    admits w n port
  socketIsTcpListener : ∀ {m n port} {w : W}, admits (Platform.socketIsTcpListener m w).2 n port →
    admits w n port
  socketIsInTcpConnectionLifecycle : ∀ {m n port} {w : W},
    admits (Platform.socketIsInTcpConnectionLifecycle m w).2 n port → admits w n port
  closeSocket : ∀ {m n port} {w : W}, admits (Platform.closeSocket m w).2 n port → admits w n port
  socketStatus : ∀ {m n port} {w : W}, admits (Platform.socketStatus m w).2 n port →
    admits w n port
  listener : ∀ {n port} {w : W}, (Platform.socketIsTcpListener n w).1 = port → admits w n port
  listening : ∀ {n port} {w : W}, (Platform.initializeTcpListenerSocket n port w).1 = true →
    admits w n port

namespace ServerSocket

variable {W L : Type*} [Platform W]

/-- `BeginListening` only succeeds with a port that the hardware socket admits. -/
theorem admits_of_beginListening [PortGuard W] (x : ServerSocket W L) (has : x.hasSocket = true)
    (h : x.beginListening.1 = true) : PortGuard.admits x.net x.sockNum x.tcpPort := by
  generalize hr : x.beginListening = r at h
  cases hr ▸ x.beginListening_begin has with
  | already port => exact PortGuard.listener port
  | busy _ => exact absurd h Bool.false_ne_true
  | listening set =>
    have hcleared : PortGuard.admits x.cleared.net x.sockNum x.tcpPort := PortGuard.listening set
    have hasked : PortGuard.admits x.askedConnected x.sockNum x.tcpPort :=
      PortGuard.closeSocket (PortGuard.socketStatus hcleared)
    exact PortGuard.socketIsTcpListener (PortGuard.socketIsInTcpConnectionLifecycle hasked)
  | refused _ => exact absurd h Bool.false_ne_true

variable [ServerSocketListener L]

/-- No call changes the port. -/
theorem run_tcpPort (x : ServerSocket W L) (c : PublicCall) : (x.run c).tcpPort = x.tcpPort := by
  cases c with
  | pickClosedSocket =>
    have hbegin := (unseen_beginListening x.found).tcpPort
    show x.pickClosedSocket.2.tcpPort = x.tcpPort
    generalize hr : x.pickClosedSocket = r
    cases hr ▸ x.pickClosedSocket_pick with
    | bound _ => rfl
    | noneFree _ _ => rfl
    | refused _ _ _ _ _ => exact hbegin
    | picked _ _ _ _ _ => exact hbegin
  | performIo => exact x.performIo_poll.bound.2
  | releaseSocket =>
    show x.releaseSocket.2.tcpPort = x.tcpPort
    have hconn := (unseen_isConnected x).tcpPort
    simp only [releaseSocket]
    split_ifs
    · exact hconn
    · exact hconn
    · rfl
  | socketLost =>
    show x.socketLost.tcpPort = x.tcpPort
    simp only [socketLost]
    split_ifs
    · rfl
    · rfl

/-- **Which hardware socket a server socket has after a call**: the one it had, or
the one that `PickClosedSocket` found for it. -/
theorem run_bound (x : ServerSocket W L) (c : PublicCall) (has : (x.run c).hasSocket = true) :
    (x.hasSocket = true ∧ (x.run c).sockNum = x.sockNum) ∨
      (c = .pickClosedSocket ∧ x.hasSocket = false ∧ x.found.hasSocket = true ∧
        x.found.beginListening.1 = true ∧ (x.run c).sockNum = x.found.sockNum ∧
        (Platform.findUnusedSocket x.net).1 = x.found.sockNum.toNat) := by
  cases c with
  | pickClosedSocket =>
    have hbegin := (unseen_beginListening x.found).sockNum
    change x.pickClosedSocket.2.hasSocket = true at has
    show (_ ∧ x.pickClosedSocket.2.sockNum = _) ∨
      (_ ∧ _ ∧ _ ∧ _ ∧ x.pickClosedSocket.2.sockNum = _ ∧ _)
    generalize hr : x.pickClosedSocket = r at has
    cases hr ▸ x.pickClosedSocket_pick with
    | bound hx => exact .inl ⟨hx, rfl⟩
    | noneFree hx _ => exact absurd (hx.symm.trans has) Bool.false_ne_true
    | refused _ _ _ _ _ => exact absurd has (by simp [hasSocket])
    | picked hx range h0 h8 hb =>
      exact .inr ⟨rfl, hx, range, hb, hbegin, (x.toNat_found ⟨h0, h8⟩).symm⟩
  | performIo => exact .inl ⟨x.performIo_poll.hasSocket.symm.trans has, x.performIo_poll.sockNum⟩
  | releaseSocket =>
    change x.releaseSocket.2.hasSocket = true at has
    rcases x.releaseSocket_cases with ⟨-, ⟨hx, -, heq⟩ | ⟨-, -, hno⟩ | ⟨hx, heq⟩⟩
    · exact .inl ⟨hx, (congrArg ServerSocket.sockNum heq).trans rfl⟩
    · exact absurd (hno.symm.trans has) Bool.false_ne_true
    · rw [heq] at has
      exact absurd (hx.symm.trans has) Bool.false_ne_true
  | socketLost => exact absurd (x.socketLost_cases.1.symm.trans has) Bool.false_ne_true

end ServerSocket

/-- Server sockets that share a platform.  Each one's own `net` is out of date
while others make calls; `Fleet.server` is the server socket as a call finds it. -/
structure Fleet (ι W L : Type*) where
  servers : ι → ServerSocket W L
  net : W

namespace Fleet

variable {ι W L : Type*}

/-- A server socket, with the platform as it is now. -/
def server (f : Fleet ι W L) (i : ι) : ServerSocket W L := { f.servers i with net := f.net }

/-- Newly constructed server sockets. -/
def start (ports : ι → UInt16) (listeners : ι → L) (w : W) : Fleet ι W L where
  servers i := { listener := listeners i, tcpPort := ports i, net := w }
  net := w

variable [DecidableEq ι] [Platform W] [ServerSocketListener L]

/-- A public call of one of the server sockets. -/
def call (f : Fleet ι W L) (i : ι) (c : PublicCall) : Fleet ι W L where
  servers := Function.update f.servers i ((f.server i).run c)
  net := ((f.server i).run c).net

theorem server_call_self (f : Fleet ι W L) (i : ι) (c : PublicCall) :
    (f.call i c).server i = (f.server i).run c := by
  have hself : (f.call i c).servers i = (f.server i).run c := Function.update_self _ _ _
  rw [server, hself]
  rfl

/-- The other server sockets only see another platform. -/
theorem server_call_of_ne (f : Fleet ι W L) {i j : ι} (c : PublicCall) (h : j ≠ i) :
    (f.call i c).server j = { f.server j with net := (f.call i c).net } := by
  have hother : (f.call i c).servers j = f.servers j := Function.update_of_ne h _ _
  rw [server, hother]
  rfl

/-- One step of a run: something changes outside, or a call is made that `ok`
allows in this state. -/
inductive Step (Env : W → W → Prop) (ok : Fleet ι W L → ι → PublicCall → Prop) :
    Fleet ι W L → Fleet ι W L → Prop where
  | outside {f : Fleet ι W L} {w : W} (h : Env f.net w) : Step Env ok f { f with net := w }
  | call {f : Fleet ι W L} {i : ι} {c : PublicCall} (h : ok f i c) : Step Env ok f (f.call i c)

/-- A run of newly constructed server sockets with the given ports. -/
def Reaches (Env : W → W → Prop) (ok : Fleet ι W L → ι → PublicCall → Prop) (ports : ι → UInt16)
    (f : Fleet ι W L) : Prop :=
  ∃ (listeners : ι → L) (w : W), Relation.ReflTransGen (Step Env ok) (start ports listeners w) f

section Runs

variable {Env : W → W → Prop} {ok : Fleet ι W L → ι → PublicCall → Prop} {ports : ι → UInt16}

theorem Reaches.begin (listeners : ι → L) (w : W) :
    Reaches Env ok ports (start ports listeners w) := ⟨listeners, w, .refl⟩

theorem Reaches.outside {f : Fleet ι W L} (h : Reaches Env ok ports f) {w : W} (hw : Env f.net w) :
    Reaches Env ok ports { f with net := w } := by
  obtain ⟨listeners, w, hrun⟩ := h
  exact ⟨listeners, w, hrun.tail (.outside hw)⟩

theorem Reaches.call {f : Fleet ι W L} (h : Reaches Env ok ports f) {i : ι} {c : PublicCall}
    (hc : ok f i c) : Reaches Env ok ports (f.call i c) := by
  obtain ⟨listeners, w, hrun⟩ := h
  exact ⟨listeners, w, hrun.tail (.call hc)⟩

/-- **The rule for runs of a fleet.** -/
theorem Reaches.invariant {I : Fleet ι W L → Prop} {f : Fleet ι W L} (h : Reaches Env ok ports f)
    (start : ∀ listeners w, I (start ports listeners w))
    (outside : ∀ f w, I f → Env f.net w → I { f with net := w })
    (call : ∀ f i c, I f → ok f i c → I (f.call i c)) : I f := by
  obtain ⟨listeners, w, hrun⟩ := h
  induction hrun with
  | refl => exact start listeners w
  | tail _ hstep ih =>
    cases hstep with
    | outside henv => exact outside _ _ ih henv
    | call hok => exact call _ _ _ ih hok

/-- Every server socket keeps its port. -/
theorem Reaches.tcpPort {f : Fleet ι W L} (h : Reaches Env ok ports f) (i : ι) :
    (f.server i).tcpPort = ports i := by
  refine h.invariant (I := fun f => (f.server i).tcpPort = ports i) (fun _ _ => rfl)
    (fun f w hf _ => hf) (fun f j c hf _ => ?_)
  by_cases hij : i = j
  · subst hij
    rw [server_call_self, ServerSocket.run_tcpPort, hf]
  · rw [server_call_of_ne f c hij]
    exact hf

end Runs

end Fleet
end McuNet
