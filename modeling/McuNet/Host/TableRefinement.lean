/-
# The host network with its map and without

`extras/host/ethernet5500/host_network.cpp`.

`HostNetworkImpl` has the sockets in a map, as the source does, and `HostNetwork` in a
function, with a flag for a process that has ended.  The rest of the development is about
the latter.  `HostNetwork.impl` is the map that it stands for, and every call of the network
does the same to both (`HostNetwork.exec_impl`).  So both have the same runs: with the same
calls and answers, and with an end at the same calls (`HostNetwork.run_impl_iff`).
-/

import McuNet.Host.SocketTable

namespace McuNet
namespace HostNetwork

open HostSocketInfo (Answer)
open HostNetworkImpl

variable {K : Type*}

/-! ### The functions that only other programs call -/

/-- `SocketIsClosed`. -/
def socketIsClosed (n : UInt8) : HostNetwork K → Bool × HostNetwork K :=
  onSocket false n fun s k => some (s.isClosed, s, k)

/-- `Flush`. -/
def flush (n : UInt8) : HostNetwork K → Unit × HostNetwork K :=
  onSocket () n fun s k => some ((), s, k)

variable [Posix K]

/-- `SocketIsHalfClosed`. -/
def socketIsHalfClosed (n : UInt8) : HostNetwork K → Bool × HostNetwork K :=
  onSocket false n HostSocketInfo.isConnectionHalfClosed

/-- A call for one socket number. -/
def perform (n : UInt8) (call : SocketCall) (w : HostNetwork K) : Answer × HostNetwork K :=
  match call with
  | .socketIsTcpListener => (socketIsTcpListener n w).map (fun p => (p.toNat, [])) id
  | .socketIsInTcpConnectionLifecycle => (socketIsInTcpConnectionLifecycle n w).map .ofBool id
  | .socketIsHalfClosed => (socketIsHalfClosed n w).map .ofBool id
  | .socketIsClosed => (socketIsClosed n w).map .ofBool id
  | .socketStatus => (socketStatus n w).map (fun s => (s.toNat, [])) id
  | .initializeTcpListenerSocket port => (initializeTcpListenerSocket n port w).map .ofBool id
  | .acceptConnection => (acceptConnection n w).map .ofBool id
  | .disconnectSocket => (disconnectSocket n w).map .ofBool id
  | .closeSocket => (closeSocket n w).map .ofBool id
  | .send buf len => (send n buf len w).map (·, []) id
  | .flush => (flush n w).map (fun _ => (0, [])) id
  | .availableBytes => (availableBytes n w).map (·, []) id
  | .peek => (peek n w).map (·, []) id
  | .recv len => recv n len w

/-- One call, unless it ends the process. -/
def exec (call : NetworkCall) (w : HostNetwork K) : Option (Answer × HostNetwork K) :=
  let r := match call with
    | .findUnusedSocket => (findUnusedSocket w).map (·, []) id
    | .onSocket n call => perform n call w
  if r.2.aborted then none else some r

/-! ### One call -/

/-- What a call has come to: nothing if it has ended the process, and otherwise its value,
the map and the kernel. -/
def outcome {α : Type*} (r : α × HostNetwork K) : Option (α × HostNetworkImpl × K) :=
  if r.2.aborted then none else some (r.1, r.2.impl, r.2.kernel)

omit [Posix K] in
/-- What is done to the result of a call is done to its outcome. -/
theorem outcome_map {α β : Type*} (g : α → β) (r : α × HostNetwork K) :
    outcome (r.map g id) = (outcome r).map (Prod.map g id) := by
  unfold outcome
  dsimp only [Prod.map_snd, id_eq]
  split_ifs <;> rfl

omit [Posix K] in
/-- **A function for one socket.** -/
theorem outcome_onSocket {α : Type*} {w : HostNetwork K} (live : w.aborted = false) (default : α)
    (n : UInt8) (f : HostSocketInfo → K → Option (α × HostSocketInfo × K)) :
    outcome (onSocket default n f w) = onInfo default n f (w.impl, w.kernel) := by
  have hsimulates := onSocket_simulates live default n f
  dsimp only at hsimulates
  unfold outcome
  cases hinfo : onInfo default n f (w.impl, w.kernel) with
  | none =>
    rw [hinfo] at hsimulates
    rw [if_pos hsimulates]
  | some r =>
    rw [hinfo] at hsimulates
    rw [hsimulates.2, if_neg Bool.false_ne_true, hsimulates.1]

variable {w : HostNetwork K} (live : w.aborted = false)

include live

/-- **Each function of the network** has the outcome that the table of sockets has. -/
theorem outcome_perform (n : UInt8) (call : SocketCall) :
    outcome (perform n call w) =
      HostNetworkImpl.perform w.tcpServerPortMap n call (w.impl, w.kernel) := by
  cases call with
  | recv len =>
    simp only [perform, HostNetworkImpl.perform, recv, HostNetworkImpl.recv, outcome_onSocket live]
  | closeSocket =>
    let v : HostNetwork K := { w with closes := Function.update w.closes n (w.closes n + 1) }
    have hclose := outcome_onSocket (w := v) live false n fun s k =>
      some (true, (s.closeConnectionSocket k).1.closeListenerSocket (s.closeConnectionSocket k).2)
    exact (outcome_map _ _).trans (congrArg (Option.map _) hclose)
  | _ =>
    simp only [perform, HostNetworkImpl.perform, outcome_map, socketIsTcpListener,
      socketIsInTcpConnectionLifecycle, socketIsHalfClosed, socketIsClosed, socketStatus,
      initializeTcpListenerSocket, acceptConnection, disconnectSocket, send, flush, availableBytes,
      peek, outcome_onSocket live]
    rfl

omit [Posix K] live in
/-- What the map has for a socket number. -/
theorem getHostSocketInfo_impl (w : HostNetwork K) (n : UInt8) :
    w.impl.getHostSocketInfo n =
      if n < kMaxSockets then .info (w.sockets n)
      else if n = kMaxSockets then .missing else .nullptr := by
  unfold getHostSocketInfo impl
  rcases sockNum_cases n with hn | rfl | hn
  · have hle : n.toNat ≤ kMaxSockets.toNat := (UInt8.lt_iff_toNat_lt.1 hn).le
    rw [if_pos ⟨Nat.zero_le _, hle⟩, if_pos hn]
    dsimp only
    rw [if_pos hn]
  · rfl
  · have hgt := UInt8.lt_iff_toNat_lt.1 hn
    rw [if_neg fun h => not_le.2 hgt h.2, if_neg (UInt8.lt_asymm hn),
      if_neg (UInt8.ne_of_lt hn).symm]

omit [Posix K] live in
/-- A process that has ended looks for nothing. -/
theorem findUnusedSocketIn_aborted (habort : w.aborted = true) (l : List UInt8) :
    (findUnusedSocketIn l w).2 = w := by
  induction l with
  | nil => rfl
  | cons n rest ih =>
    have hskip : onSocket false n (fun s k => s.isUnused.map (·, s, k)) w = (false, w) := by
      rw [onSocket, habort, Bool.true_or, if_pos rfl]
    rw [findUnusedSocketIn, hskip, if_neg Bool.false_ne_true]
    exact ih

omit [Posix K] in
/-- **The search for an unused socket.** -/
theorem outcome_findUnusedSocketIn (l : List UInt8) :
    outcome (findUnusedSocketIn l w) =
      (HostNetworkImpl.findUnusedSocketIn l w.impl).map (·, w.impl, w.kernel) := by
  induction l with
  | nil =>
    rw [findUnusedSocketIn, outcome, live, if_neg Bool.false_ne_true]
    rfl
  | cons n rest ih =>
    have hended : outcome (findUnusedSocketIn rest { w with aborted := true }) = none := by
      rw [outcome, findUnusedSocketIn_aborted rfl, if_pos rfl]
    simp only [findUnusedSocketIn, HostNetworkImpl.findUnusedSocketIn, getHostSocketInfo_impl]
    rcases sockNum_cases n with hn | rfl | hn
    · rw [if_pos hn]
      dsimp only
      cases hunused : (w.sockets n).isUnused with
      | none =>
        have hlook : onSocket false n (fun s k => s.isUnused.map (·, s, k)) w =
            (false, { w with aborted := true }) := by
          have hne : n ≠ kMaxSockets := UInt8.ne_of_lt hn
          have hle : ¬kMaxSockets < n := UInt8.lt_asymm hn
          simp only [onSocket, live, hle, hne, hunused, decide_false, Bool.or_self,
            Bool.false_eq_true, if_false, Option.map_none]
        rw [hlook, if_neg Bool.false_ne_true]
        exact hended
      | some b =>
        have hlook : onSocket false n (fun s k => s.isUnused.map (·, s, k)) w = (b, w) := by
          have hlooked := Has.onSocket (x := (w.sockets n, w.kernel)) ⟨live, hn, rfl, rfl⟩ false
            (f := fun s k => s.isUnused.map (·, s, k)) (congrArg (Option.map _) hunused)
          rw [hlooked]
          exact congrArg (b, ·) (by rw [Function.update_eq_self])
        rw [hlook]
        cases b with
        | true =>
          rw [if_pos rfl, outcome, live, if_neg Bool.false_ne_true]
          rfl
        | false =>
          rw [if_neg Bool.false_ne_true]
          exact ih
    · have hlook : onSocket false kMaxSockets (fun s k => s.isUnused.map (·, s, k)) w =
          (false, { w with aborted := true }) := by
        simp only [onSocket, live]
        rfl
      rw [hlook, if_neg Bool.false_ne_true]
      exact hended
    · have hlook : onSocket false n (fun s k => s.isUnused.map (·, s, k)) w = (false, w) := by
        simp only [onSocket, hn, decide_true, Bool.or_true, if_true]
      rw [hlook, if_neg Bool.false_ne_true, if_neg (UInt8.lt_asymm hn),
        if_neg (UInt8.ne_of_lt hn).symm]
      exact ih

/-- **Every call does the same with the map and without.** -/
theorem exec_impl (call : NetworkCall) :
    (exec call w).map (fun r => (r.1, r.2.impl, r.2.kernel)) =
      HostNetworkImpl.exec w.tcpServerPortMap call (w.impl, w.kernel) := by
  have hexec : ∀ r : Answer × HostNetwork K,
      (if r.2.aborted = true then none else some r).map (fun r => (r.1, r.2.impl, r.2.kernel)) =
        outcome r := by
    intro r
    unfold outcome
    split_ifs <;> rfl
  unfold exec
  cases call with
  | findUnusedSocket =>
    refine (hexec _).trans ((outcome_map _ _).trans ?_)
    rw [findUnusedSocket, outcome_findUnusedSocketIn live, Option.map_map]
    rfl
  | onSocket n call => exact (hexec _).trans (outcome_perform live n call)

/-! ### Runs -/

omit live

omit [Posix K] in
/-- No call on a socket changes the port map. -/
theorem tcpServerPortMap_onSocket {α : Type*} (default : α) (n : UInt8)
    (f : HostSocketInfo → K → Option (α × HostSocketInfo × K)) (w : HostNetwork K) :
    (onSocket default n f w).2.tcpServerPortMap = w.tcpServerPortMap := by
  generalize hr : onSocket default n f w = r
  cases hr ▸ onSocket_passed default n f w with
  | skipped _ => rfl
  | ended => rfl
  | done _ _ _ => rfl

omit [Posix K] in
/-- The search for an unused socket does not. -/
theorem tcpServerPortMap_findUnusedSocketIn (l : List UInt8) (w : HostNetwork K) :
    (findUnusedSocketIn l w).2.tcpServerPortMap = w.tcpServerPortMap := by
  induction l generalizing w with
  | nil => rfl
  | cons n rest ih =>
    have hlook := tcpServerPortMap_onSocket false n (fun s k => s.isUnused.map (·, s, k)) w
    rw [findUnusedSocketIn]
    split_ifs
    · exact hlook
    · exact (ih _).trans hlook

/-- No function of the network does. -/
theorem tcpServerPortMap_perform (n : UInt8) (call : SocketCall) (w : HostNetwork K) :
    (perform n call w).2.tcpServerPortMap = w.tcpServerPortMap := by
  cases call with
  | recv len => exact tcpServerPortMap_onSocket _ n _ w
  | closeSocket =>
    simp only [perform, Prod.map_snd, id_eq, closeSocket, tcpServerPortMap_onSocket]
  | _ =>
    simp only [perform, Prod.map_snd, id_eq, socketIsTcpListener,
      socketIsInTcpConnectionLifecycle, socketIsHalfClosed, socketIsClosed, socketStatus,
      initializeTcpListenerSocket, acceptConnection, disconnectSocket, send, flush, availableBytes,
      peek, tcpServerPortMap_onSocket]

/-- What a call keeps: the process goes on, with the same flag. -/
theorem exec_keeps {call : NetworkCall} {w : HostNetwork K} {r : Answer × HostNetwork K}
    (hr : exec call w = some r) :
    r.2.aborted = false ∧ r.2.tcpServerPortMap = w.tcpServerPortMap := by
  unfold exec at hr
  dsimp only at hr
  split_ifs at hr with hlive
  obtain rfl := Option.some.inj hr
  refine ⟨Bool.eq_false_of_not_eq_true hlive, ?_⟩
  cases call with
  | findUnusedSocket =>
    exact tcpServerPortMap_findUnusedSocketIn ((List.range kMaxSockets.toNat).map UInt8.ofNat) w
  | onSocket n call => exact tcpServerPortMap_perform n call w

/-- The network is seen in its map. -/
theorem abstracts_impl (portMap : List (UInt16 × UInt16)) (R : K → K → Prop) :
    Abstracts (fun w : HostNetwork K => (w.impl, w.kernel))
      (fun w => w.aborted = false ∧ w.tcpServerPortMap = portMap)
      exec (fun w w' => ∃ k, R w.kernel k ∧ w' = { w with kernel := k })
      (HostNetworkImpl.exec portMap) (fun x y => y.1 = x.1 ∧ R x.2 y.2) where
  commutes w call hw := hw.2 ▸ exec_impl hw.1 call
  keeps w call r hw hr := ⟨(exec_keeps hr).1, (exec_keeps hr).2.trans hw.2⟩
  forth := by
    rintro w _ hw ⟨k, hk, rfl⟩
    exact ⟨hw, rfl, hk⟩
  back := by
    rintro w ⟨impl, k⟩ hw ⟨himpl, hk⟩
    exact ⟨{ w with kernel := k }, ⟨k, hk, rfl⟩, congrArg (·, k) himpl.symm⟩

/-- **With its map and without, the network has the same runs.**  Whatever is called, with
whatever socket numbers, and whatever else happens to the kernel: there is a run with the
map in which the calls are answered so if and only if there is one without, which ends in
the same state of the sockets and of the kernel, and there the same calls end the process. -/
theorem run_impl_iff {portMap : List (UInt16 × UInt16)} {k₀ : K} {R : K → K → Prop}
    {log : List (NetworkCall × Answer)} {x : HostNetworkImpl × K} :
    Run (HostNetworkImpl.exec portMap) (fun x y => y.1 = x.1 ∧ R x.2 y.2) (fun _ _ => True)
        (HostNetworkImpl.new, k₀) log x ↔
      ∃ w : HostNetwork K, Run exec (fun w w' => ∃ k, R w.kernel k ∧ w' = { w with kernel := k })
          (fun _ _ => True) { kernel := k₀, tcpServerPortMap := portMap } log w ∧
        (w.impl, w.kernel) = x ∧
        ∀ call, exec call w = none ↔ HostNetworkImpl.exec portMap call x = none := by
  have habstracts := abstracts_impl (K := K) portMap R
  let new : HostNetwork K := { kernel := k₀, tcpServerPortMap := portMap }
  have hnew : (new.impl, new.kernel) = (HostNetworkImpl.new, k₀) := congrArg (·, k₀) (impl_new k₀)
  rw [← hnew, habstracts.run_iff ⟨rfl, rfl⟩]
  constructor
  · rintro ⟨w, hw, hlive, rfl⟩
    refine ⟨w, hw, rfl, fun call => ?_⟩
    rw [← habstracts.commutes w call hlive, Option.map_eq_none_iff]
  · rintro ⟨w, hw, hx, -⟩
    have hseen : (w.aborted = false ∧ w.tcpServerPortMap = portMap) ∧
        Run (HostNetworkImpl.exec portMap) _ (fun _ _ => True) _ log (w.impl, w.kernel) :=
      habstracts.run_view ⟨rfl, rfl⟩ hw
    exact ⟨w, hw, hseen.1, hx⟩

end HostNetwork
end McuNet
