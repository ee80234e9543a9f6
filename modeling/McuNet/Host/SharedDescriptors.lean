/-
# The file descriptors of all host sockets

`extras/host/ethernet5500/host_network.cpp`, `extras/host/ethernet5500/ethernet_class.h`,
`extras/host/ethernet5500/ethernet_class.cpp` and `Mega2560Eth::SetupW5500`
(`src/ip_device.cpp`).

The eight sockets of a `HostNetwork` share one table of file descriptors.  Server
sockets, clients and Ethernet servers call functions of any of them, in any order.  What
one socket closes is never that of another, and what is outstanding is at every point
what the members of the eight say (`Sharing.descriptors_shared`).

`SetupW5500` gives the Ethernet library its pins and resets the chip.  On the host a
reset closes all sockets; afterwards no file descriptor is outstanding.
-/

import McuNet.Host.Descriptors
import McuNet.Host.SocketSteps

namespace McuNet

open FdEvent HostSocketInfo Logged

instance {K : Type*} [McuCore K] : McuCore (Logged K) where
  millis := pass McuCore.millis
  elapsedMillis t := pass (McuCore.elapsedMillis t)
  getWriteError := pass McuCore.getWriteError

theorem HostSocketInfo.notMem_fds_of_isClosed {s : HostSocketInfo} (h : s.isClosed = true)
    {fd : ℤ} : fd ∉ s.fds := by
  simp only [isClosed, haveFd, Bool.and_eq_true, Bool.not_eq_true', decide_eq_false_iff_not] at h
  rw [mem_fds]
  omega

/-- The functions of McuCore close no file descriptor. -/
class CoreKeepsFds (K : Type*) [Posix K] [McuCore K] [FileTable K] : Prop where
  millis : ∀ k : K, FileTable.openFds k ⊆ FileTable.openFds (McuCore.millis k).2
  elapsedMillis : ∀ t (k : K),
    FileTable.openFds k ⊆ FileTable.openFds (McuCore.elapsedMillis t k).2
  getWriteError : ∀ k : K, FileTable.openFds k ⊆ FileTable.openFds (McuCore.getWriteError k).2

namespace HostNetwork

/-! ### What the sockets hold -/

section Sets

variable {K : Type*} (w : HostNetwork K) {n : UInt8}

/-- The file descriptors that the sockets hold. -/
def fds : Set ℤ := {fd | ∃ n, n < kMaxSockets ∧ fd ∈ (w.sockets n).fds}

/-- Those that the sockets hold but for one. -/
def fdsBut (n : UInt8) : Set ℤ :=
  {fd | ∃ m, m < kMaxSockets ∧ m ≠ n ∧ fd ∈ (w.sockets m).fds}

theorem fds_eq_union (hn : n < kMaxSockets) : w.fds = (w.sockets n).fds ∪ w.fdsBut n := by
  ext fd
  constructor
  · rintro ⟨m, hm, hfd⟩
    by_cases hmn : m = n
    · exact .inl (hmn ▸ hfd)
    · exact .inr ⟨m, hm, hmn, hfd⟩
  · rintro (hfd | ⟨m, hm, -, hfd⟩)
    · exact ⟨n, hn, hfd⟩
    · exact ⟨m, hm, hfd⟩

theorem fdsBut_withSocket (x : HostSocketInfo × K) : (w.withSocket n x).fdsBut n = w.fdsBut n := by
  ext fd
  constructor
  · rintro ⟨m, hm, hmn, hfd⟩
    exact ⟨m, hm, hmn, w.sockets_withSocket_of_ne hmn x ▸ hfd⟩
  · rintro ⟨m, hm, hmn, hfd⟩
    exact ⟨m, hm, hmn, (w.sockets_withSocket_of_ne hmn x).symm ▸ hfd⟩

end Sets

variable {K : Type*} [Posix K] [FileTable K] {w : HostNetwork (Logged K)}

/-- **The sockets say which file descriptors are outstanding**: each has one at most, and
no two the same. -/
structure HoldsAll (w : HostNetwork (Logged K)) : Prop where
  holds : Holds w.fds w.kernel
  apart : ∀ n, n < kMaxSockets → ∀ fd ∈ (w.sockets n).fds, fd ∉ w.fdsBut n
  exclusive : ∀ n, n < kMaxSockets →
    ¬(0 ≤ (w.sockets n).listenerSocketFd ∧ 0 ≤ (w.sockets n).connectionSocketFd)

/-- One socket beside the others. -/
theorem HoldsAll.beside (h : HoldsAll w) {n : UInt8} (hn : n < kMaxSockets) :
    HoldsBeside (w.fdsBut n) (w.sockets n, w.kernel) where
  owns := ⟨w.fds_eq_union hn ▸ h.holds, h.apart n hn⟩
  exclusive := h.exclusive n hn

/-- A socket that has kept beside the others is put back among them. -/
theorem HoldsAll.put (h : HoldsAll w) {n : UInt8} (hn : n < kMaxSockets)
    {x : HostSocketInfo × Logged K} (hx : HoldsBeside (w.fdsBut n) x) :
    HoldsAll (w.withSocket n x) where
  holds := by
    rw [fds_eq_union _ hn, fdsBut_withSocket, sockets_withSocket_self]
    exact hx.owns.holds
  apart m hm := by
    by_cases hmn : m = n
    · subst hmn
      rw [fdsBut_withSocket, sockets_withSocket_self]
      exact hx.owns.apart
    · rw [sockets_withSocket_of_ne _ hmn]
      rintro fd hfd ⟨l, hl, hlm, hother⟩
      by_cases hln : l = n
      · subst hln
        rw [sockets_withSocket_self] at hother
        exact hx.owns.apart fd hother ⟨m, hm, hmn, hfd⟩
      · rw [sockets_withSocket_of_ne _ hln] at hother
        exact h.apart m hm fd hfd ⟨l, hl, hlm, hother⟩
  exclusive m hm := by
    by_cases hmn : m = n
    · subst hmn
      rw [sockets_withSocket_self]
      exact hx.exclusive
    · rw [sockets_withSocket_of_ne _ hmn]
      exact h.exclusive m hm

/-! ### The steps -/

/-- **A step of a socket** leaves the file descriptors of others alone. -/
theorem holdsBeside_step {portMap : List (UInt16 × UInt16)} {others : Set ℤ}
    {x y : HostSocketInfo × Logged K} (h : HoldsBeside others x)
    (hxy : HostSocketInfo.Step portMap x y) : HoldsBeside others y := by
  cases hxy with
  | closeConnectionSocket _ _ => exact h.closeConnectionSocket
  | closeListenerSocket _ _ => exact h.closeListenerSocket
  | initializeTcpListener port _ _ => exact h.initializeTcpListener portMap port
  | acceptConnection _ _ _ => exact h.acceptConnection
  | disconnectConnectionSocket s k => exact kept_holdsBeside.disconnectConnectionSocket s k h
  | send buf len s k => exact kept_holdsBeside.send buf len s k h
  | recvInternal hr => exact kept_holdsBeside.recvInternal _ _ _ _ _ h trivial hr
  | isConnectionHalfClosed hr =>
    exact kept_holdsBeside.isConnectionHalfClosed _ _ _ h trivial hr

variable [McuCore K] [CoreKeepsFds K]

theorem unnoted_core {k k' : Logged K} (h : CoreStep k k') : Unnoted k k' := by
  cases h with
  | millis _ => exact ⟨rfl, CoreKeepsFds.millis k.inner⟩
  | elapsedMillis t _ => exact ⟨rfl, CoreKeepsFds.elapsedMillis t k.inner⟩
  | getWriteError _ => exact ⟨rfl, CoreKeepsFds.getWriteError k.inner⟩

theorem HoldsAll.step (h : HoldsAll w) {w' : HostNetwork (Logged K)} (hw : Step w w') :
    HoldsAll w' := by
  cases hw with
  | socket range step => exact h.put range (holdsBeside_step (h.beside range) step)
  | core step => exact ⟨h.holds.unnoted (unnoted_core step), h.apart, h.exclusive⟩
  | marked _ _ => exact ⟨h.holds, h.apart, h.exclusive⟩

/-- **Any number of steps.** -/
theorem HoldsAll.steps (h : HoldsAll w) {w' : HostNetwork (Logged K)}
    (hw : Relation.ReflTransGen Step w w') : HoldsAll w' := by
  induction hw with
  | refl => exact h
  | tail _ hstep ih => exact ih.step hstep

end HostNetwork

/-! ### The Ethernet library is reset -/

/-- `EthernetClass`: the pins that it was given, or `-1`. -/
structure EthernetClass where
  resetPin : ℤ := -1
  chipSelectPin : ℤ := -1
  deriving DecidableEq, Repr

namespace EthernetClass

variable {K : Type*}

/-- `setRstPin`, which `CHECK`s that a pin set before is the same. -/
def setRstPin (pinRst : UInt8) (e : EthernetClass) : Option EthernetClass :=
  if e.resetPin < 0 then some { e with resetPin := pinRst.toNat }
  else if e.resetPin = pinRst.toNat then some e
  else none

/-- `setCsPin`. -/
def setCsPin (pinCs : UInt8) (e : EthernetClass) : Option EthernetClass :=
  if e.chipSelectPin < 0 then some { e with chipSelectPin := pinCs.toNat }
  else if e.chipSelectPin = pinCs.toNat then some e
  else none

variable [Posix K]

/-- `CloseAllSockets`. -/
def closeAllSockets (w : HostNetwork K) : HostNetwork K :=
  EthernetServer.sockNums.foldl (fun w n => (HostNetwork.closeSocket n w).2) w

/-- `hardreset`. -/
def hardreset (e : EthernetClass) (w : HostNetwork K) : Option (HostNetwork K) :=
  if 0 ≤ e.resetPin then some (closeAllSockets w) else none

/-- `Mega2560Eth::SetupW5500`; `init` only checks its argument. -/
def setupW5500 (e : EthernetClass) (w : HostNetwork K) : Option (EthernetClass × HostNetwork K) :=
  (e.setRstPin 7).bind fun e =>
    (e.setCsPin 10).bind fun e =>
      (e.hardreset w).map fun w => (e, w)

/-- A network that was set up has closed all sockets. -/
theorem eq_closeAllSockets {e : EthernetClass} {w : HostNetwork K}
    {r : EthernetClass × HostNetwork K} (hr : setupW5500 e w = some r) : r.2 = closeAllSockets w := by
  obtain ⟨e₁, -, hr⟩ := Option.bind_eq_some_iff.1 hr
  obtain ⟨e₂, -, hr⟩ := Option.bind_eq_some_iff.1 hr
  obtain ⟨v, hv, rfl⟩ := Option.map_eq_some_iff.1 hr
  unfold hardreset at hv
  split_ifs at hv
  exact (Option.some.inj hv).symm

/-- A socket is closed, and those that were stay so. -/
theorem closeSocket_closed {w : HostNetwork K} (live : w.aborted = false) {n : UInt8}
    (hn : n < HostNetwork.kMaxSockets) :
    let v := (HostNetwork.closeSocket n w).2
    v.aborted = false ∧
      ∀ m, m = n ∨ (w.sockets m).isClosed = true → (v.sockets m).isClosed = true := by
  let u : HostNetwork K := { w with closes := Function.update w.closes n (w.closes n + 1) }
  have hdone := HostNetwork.Has.onSocket (w := u) (x := (w.sockets n, w.kernel))
    ⟨live, hn, rfl, rfl⟩ false (f := fun s k => some (true, destroy (s, k))) rfl
  have hclose : HostNetwork.closeSocket n w = _ := hdone
  rw [hclose]
  refine ⟨live, fun m hm => ?_⟩
  by_cases hmn : m = n
  · subst hmn
    simp only [Function.update_self]
    rfl
  · simp only [Function.update_of_ne hmn]
    exact hm.resolve_left hmn

/-- **All of them are closed.** -/
theorem closeAllSockets_closed {w : HostNetwork K} (live : w.aborted = false) :
    (closeAllSockets w).aborted = false ∧
      ∀ n, n < HostNetwork.kMaxSockets → ((closeAllSockets w).sockets n).isClosed = true := by
  suffices h : ∀ (l : List UInt8) (w : HostNetwork K), w.aborted = false →
      (∀ n ∈ l, n < HostNetwork.kMaxSockets) →
      let v := l.foldl (fun w n => (HostNetwork.closeSocket n w).2) w
      v.aborted = false ∧
        ∀ m, m ∈ l ∨ (w.sockets m).isClosed = true → (v.sockets m).isClosed = true by
    obtain ⟨hlive, hclosed⟩ := h _ w live EthernetServer.lt_of_mem_sockNums
    refine ⟨hlive, fun n hn => hclosed n (.inl ?_)⟩
    exact List.mem_map.2 ⟨n.toNat, List.mem_range.2 (UInt8.lt_iff_toNat_lt.1 hn), UInt8.ofNat_toNat⟩
  intro l
  induction l with
  | nil => exact fun w live _ => ⟨live, fun m hm => hm.resolve_left List.not_mem_nil⟩
  | cons n rest ih =>
    intro w live hl
    obtain ⟨hlive, hclosed⟩ := closeSocket_closed live (hl n List.mem_cons_self)
    obtain ⟨hrest, hall⟩ := ih _ hlive fun m hm => hl m (List.mem_cons_of_mem _ hm)
    refine ⟨hrest, fun m hm => hall m ?_⟩
    rcases hm with hm | hm
    · rcases List.mem_cons.1 hm with rfl | hm
      · exact .inr (hclosed m (.inl rfl))
      · exact .inl hm
    · exact .inr (hclosed m (.inr hm))

theorem steps_closeAllSockets [McuCore K] (w : HostNetwork K) :
    Relation.ReflTransGen HostNetwork.Step w (closeAllSockets w) := by
  unfold closeAllSockets
  induction EthernetServer.sockNums generalizing w with
  | nil => exact .refl
  | cons n rest ih => exact (HostNetwork.steps_closeSocket n w).trans (ih _)

end EthernetClass

/-! ### Runs -/

namespace Sharing

open HostNetwork

variable {ι K L : Type*} [Posix K] [FileTable K] [McuCore K] [CoreKeepsFds K] [DecidableEq ι]
  [ServerSocketListener L]

/-- The rest of the process and the peers act; no file descriptor is closed that is
outstanding. -/
def LeavesFds (x y : Sharing ι (Logged K) L) : Prop :=
  ∃ k, HostSocketInfo.LeavesFds x.fleet.net.network.kernel k ∧
    y = x.withNet { x.fleet.net with network := { x.fleet.net.network with kernel := k } }

variable {x : Sharing ι (Logged K) L}

/-- The process goes on, and the sockets say what is outstanding. -/
structure Sound (x : Sharing ι (Logged K) L) : Prop where
  live : x.fleet.net.network.aborted = false
  ready : x.Ready
  holdsAll : HoldsAll x.fleet.net.network

omit [McuCore K] [CoreKeepsFds K] [DecidableEq ι] [ServerSocketListener L] in
theorem sound_start (ports : ι → UInt16) (listeners : ι → L) (portMap : List (UInt16 × UInt16))
    (k : K) : Sound (start ports listeners portMap (⟨k, []⟩ : Logged K)) := by
  have hnone : ({} : HostSocketInfo).fds = ∅ := Set.eq_empty_of_forall_notMem fun fd hfd => by
    simp only [mem_fds] at hfd
    omega
  have hall : (start ports listeners portMap (⟨k, []⟩ : Logged K)).fleet.net.network.fds = ∅ :=
    Set.eq_empty_of_forall_notMem fun fd hfd => by
      obtain ⟨n, -, hfd⟩ := hfd
      exact absurd hfd (hnone ▸ Set.notMem_empty fd)
  refine ⟨rfl, ready_of_idle rfl, hall ▸ ⟨rfl, Set.empty_subset _, eachAfter_nil⟩, fun n _ => ?_,
    fun n _ => ?_⟩
  · exact fun fd hfd => absurd hfd (hnone ▸ Set.notMem_empty fd)
  · exact fun hboth => absurd hboth.1 (show ¬(0 : ℤ) ≤ -1 by decide)

/-- **A step of any user keeps what the sockets hold.** -/
theorem Sound.exec {op : SharedOp ι} (h : Sound x) {r : Unit × Sharing ι (Logged K) L}
    (hr : exec op x = some r) : Sound r.2 := by
  obtain ⟨hready, hlive, hsteps⟩ := steps_exec h.ready hr
  exact ⟨hlive h.live, hready, h.holdsAll.steps hsteps⟩

omit [McuCore K] [CoreKeepsFds K] [DecidableEq ι] [ServerSocketListener L] in
theorem Sound.outside {y : Sharing ι (Logged K) L} (h : Sound x) (hy : LeavesFds x y) :
    Sound y := by
  obtain ⟨k, ⟨hlog, hopen⟩, rfl⟩ := hy
  have hheld := h.holdsAll.holds
  refine ⟨h.live, h.ready.outside, ⟨?_, fun fd hfd => ?_, ?_⟩, h.holdsAll.apart,
    h.holdsAll.exclusive⟩
  · exact hlog.symm ▸ hheld.outstanding_eq
  · exact hopen fd (hheld.outstanding_eq.symm ▸ hfd) (hheld.isOpen hfd)
  · exact hlog.symm ▸ hheld.proper

/-- **The sockets share the file descriptors properly.**  In every run of any number of
server sockets and Ethernet servers on one network, whatever the system calls return: what
was given out and not closed is at every point what the eight sockets hold, no two of
them hold the same, and nothing is closed that is not outstanding.  When the chip is set
up again, all sockets are closed and nothing is outstanding. -/
theorem descriptors_shared {ports : ι → UInt16} {listeners : ι → L}
    {portMap : List (UInt16 × UInt16)} {k₀ : K} {log : List (SharedOp ι × Unit)}
    (h : Run exec LeavesFds (fun _ _ => True) (start ports listeners portMap ⟨k₀, []⟩) log x) :
    let w := x.fleet.net.network
    outstanding w.kernel.log = w.fds ∧
      (∀ m n, m < kMaxSockets → n < kMaxSockets → m ≠ n →
        ∀ fd ∈ (w.sockets m).fds, fd ∉ (w.sockets n).fds) ∧
      Proper w.kernel.log ∧
      ∀ e r, EthernetClass.setupW5500 e w = some r →
        outstanding r.2.kernel.log = ∅ ∧ Proper r.2.kernel.log ∧
          ∀ n, n < kMaxSockets → (r.2.sockets n).isClosed = true := by
  intro w
  have hsound : Sound x := by
    refine h.state_invariant (sound_start ports listeners portMap k₀) ?_ ?_
    · exact fun y op r hy _ hr => Sound.exec hy hr
    · exact fun y z hy hyz => Sound.outside hy hyz
  have hall : HoldsAll w := hsound.holdsAll
  refine ⟨hall.holds.outstanding_eq, fun m n hm hn hmn fd hfd => ?_, hall.holds.proper, ?_⟩
  · exact fun hother => hall.apart m hm fd hfd ⟨n, hn, hmn.symm, hother⟩
  · intro e r hr
    rw [EthernetClass.eq_closeAllSockets hr]
    have hclosed := EthernetClass.closeAllSockets_closed hsound.live
    have hkept := hall.steps (EthernetClass.steps_closeAllSockets w)
    refine ⟨?_, hkept.holds.proper, hclosed.2⟩
    rw [hkept.holds.outstanding_eq]
    refine Set.eq_empty_of_forall_notMem fun fd hfd => ?_
    obtain ⟨n, hn, hfd⟩ := hfd
    exact notMem_fds_of_isClosed (hclosed.2 n hn) hfd

instance : CoreKeepsFds LocalKernel where
  millis _ := subset_rfl
  elapsedMillis _ _ := subset_rfl
  getWriteError _ := subset_rfl

/-- A server socket for port 81, and Ethernet servers; a peer waits. -/
def unusedLogged : Sharing Unit (Logged LocalKernel) Scripted :=
  start (fun _ => 81) (fun _ => {}) [] ⟨{ waiting := [{ unread := [72] }] }, []⟩

/-- An Ethernet server listens on port 80 and the server socket on port 81, and the latter
is connected.  The chip is set up again. -/
theorem descriptors_shared_port80 :
    ∃ log x r, Run exec LeavesFds (fun _ _ => True) unusedLogged log x ∧
      EthernetClass.setupW5500 {} x.fleet.net.network = some r ∧
      x.fleet.net.network.kernel.log = [.opened 3, .opened 4, .opened 5, .closed 4] ∧
      outstanding r.2.kernel.log = ∅ := by
  let begun := (exec (.begin 80) unusedLogged).get rfl
  let found := (exec .proceed begun.2).get (by decide +kernel)
  let listening := (exec .proceed found.2).get (by decide +kernel)
  let idle := (exec .finish listening.2).get (by decide +kernel)
  let picked := (exec (.call () .pickClosedSocket) idle.2).get (by decide +kernel)
  let polled := (exec (.call () .performIo) picked.2).get (by decide +kernel)
  obtain ⟨r, hr⟩ : ∃ r, EthernetClass.setupW5500 {} polled.2.fleet.net.network = some r :=
    Option.isSome_iff_exists.1 (by decide +kernel)
  have hbegun : exec (.begin 80) unusedLogged = some begun := (Option.some_get _).symm
  have hfound : exec .proceed begun.2 = some found := (Option.some_get _).symm
  have hlistening : exec .proceed found.2 = some listening := (Option.some_get _).symm
  have hidle : exec .finish listening.2 = some idle := (Option.some_get _).symm
  have hpicked : exec (.call () .pickClosedSocket) idle.2 = some picked := (Option.some_get _).symm
  have hpolled : exec (.call () .performIo) picked.2 = some polled := (Option.some_get _).symm
  have hlistens : Run exec LeavesFds (fun _ _ => True) unusedLogged _ listening.2 :=
    ((Run.start.call trivial hbegun).call trivial hfound).call trivial hlistening
  have hrun : Run exec LeavesFds (fun _ _ => True) unusedLogged _ polled.2 :=
    ((hlistens.call trivial hidle).call trivial hpicked).call trivial hpolled
  have hclosed : ∀ {log} {y : Sharing Unit (Logged LocalKernel) Scripted}
      {r : EthernetClass × HostNetwork (Logged LocalKernel)},
      Run exec LeavesFds (fun _ _ => True) unusedLogged log y →
      EthernetClass.setupW5500 {} y.fleet.net.network = some r → outstanding r.2.kernel.log = ∅ :=
    fun hy hr => ((descriptors_shared hy).2.2.2 {} _ hr).1
  exact ⟨_, polled.2, r, hrun, hr, by decide +kernel, hclosed hrun hr⟩

end Sharing
end McuNet
