/-
# The members of a host socket agree

`extras/host/ethernet5500/host_socket_info.h`: "IFF listening, these three are at
non-default values", and the `CHECK`s of `IsUnused` and `IsTcpListener`.

`InitializeTcpListener` has five steps that may fail and cleans up after each but
one: when `SetNonBlocking` fails the listener stays open without its ports, so that
the next status read ends the process.  Everything else keeps the members in
agreement, whatever the system calls return (`fieldsAgree_iff`).
-/

import McuNet.Host.LocalKernel

namespace McuNet
namespace HostSocketInfo

/-- **The members agree.** -/
structure FieldsAgree (s : HostSocketInfo) : Prop where
  /-- A listener has a port. -/
  ports : 0 ≤ s.listenerSocketFd ↔ s.tcpPort ≠ 0
  /-- A port is mapped. -/
  mapped : s.tcpPort ≠ 0 ↔ s.mappedTcpPort ≠ 0
  /-- There is a listener or a connection, not both. -/
  exclusive : ¬(0 ≤ s.listenerSocketFd ∧ 0 ≤ s.connectionSocketFd)
  /-- Without a connection nothing can be read or written. -/
  flags : ¬0 ≤ s.connectionSocketFd →
    s.canReadFromConnection = false ∧ s.canWriteToConnection = false

theorem haveFd_iff {fd : ℤ} : haveFd fd = true ↔ 0 ≤ fd := decide_eq_true_iff

theorem haveFd_eq_false_iff {fd : ℤ} : haveFd fd = false ↔ ¬0 ≤ fd := decide_eq_false_iff_not

/-- The value that stands for no file descriptor. -/
theorem closed_fd : ¬(0 : ℤ) ≤ -1 := by decide

variable {K : Type*} [Posix K] {s : HostSocketInfo} {k : K}

/-- A new socket agrees, and so does any that was closed. -/
theorem fieldsAgree_of_closed (hl : s.listenerSocketFd = -1) (ht : s.tcpPort = 0)
    (hm : s.mappedTcpPort = 0)
    (hflags : ¬0 ≤ s.connectionSocketFd →
      s.canReadFromConnection = false ∧ s.canWriteToConnection = false) : s.FieldsAgree := by
  have hno : ¬0 ≤ s.listenerSocketFd := hl ▸ closed_fd
  exact ⟨⟨fun h => absurd h hno, fun h => absurd ht h⟩, ⟨fun h => absurd ht h, fun h => absurd hm h⟩,
    fun h => hno h.1, hflags⟩

/-- `CloseConnectionSocket` resets the flags with the descriptor. -/
theorem FieldsAgree.closeConnectionSocket (h : s.FieldsAgree) (k : K) :
    (s.closeConnectionSocket k).1.FieldsAgree where
  ports := h.ports
  mapped := h.mapped
  exclusive := fun hboth => closed_fd hboth.2
  flags _ := ⟨rfl, rfl⟩

/-- `CloseListenerSocket` resets the ports with the descriptor. -/
theorem FieldsAgree.closeListenerSocket (h : s.FieldsAgree) (k : K) :
    (s.closeListenerSocket k).1.FieldsAgree :=
  fieldsAgree_of_closed rfl rfl rfl h.flags

/-- `AcceptConnection` closes the listener and sets the flags. -/
theorem FieldsAgree.acceptConnection (h : s.FieldsAgree) (k : K) :
    (s.acceptConnection k).2.1.FieldsAgree := by
  generalize hr : s.acceptConnection k = r
  cases hr ▸ s.acceptConnection_cases k with
  | noListener _ => exact h
  | nothing hl hfd =>
    have hno : ¬0 ≤ (Posix.accept s.listenerSocketFd k).1 := haveFd_eq_false_iff.1 hfd
    have hc : ¬0 ≤ s.connectionSocketFd := fun h0 => h.exclusive ⟨haveFd_iff.1 hl, h0⟩
    exact ⟨h.ports, h.mapped, fun hboth => hno hboth.2, fun _ => h.flags hc⟩
  | accepted _ hfd =>
    exact fieldsAgree_of_closed rfl rfl rfl fun hno => absurd (haveFd_iff.1 hfd) hno

/-- What the functions that change a socket keep. -/
theorem kept_fieldsAgree :
    Kept (fun _ _ _ => True) fun x : HostSocketInfo × K => x.1.FieldsAgree := by
  have heof : ∀ (s : HostSocketInfo) (k : K), s.FieldsAgree → haveFd s.connectionSocketFd = true →
      FieldsAgree { s with canReadFromConnection := false } := fun s _ h hc =>
    ⟨h.ports, h.mapped, h.exclusive, fun hno => absurd (haveFd_iff.1 hc) hno⟩
  refine ⟨fun s k h => h.closeConnectionSocket k, fun s k h => h.closeListenerSocket k,
    fun s k h => h.acceptConnection k, fun s k h => ?_, fun buf len s k h => h, ?_, ?_⟩
  · rw [disconnectConnectionSocket]
    split_ifs
    · exact ⟨h.ports, h.mapped, h.exclusive, h.flags⟩
    · exact h
  · intro len peek s k r h _ hr
    exact recvInternal_kept (I := fun x => x.1.FieldsAgree)
      (fun s k h => FieldsAgree.closeConnectionSocket h k) (fun _ _ _ _ h => h) heof h hr
  · intro s k r h _ hr
    exact isConnectionHalfClosed_kept (I := fun x => x.1.FieldsAgree) (fun _ _ _ _ h => h) heof h hr

/-! ### `InitializeTcpListener` -/

/-- A socket that agrees and has neither a listener nor a connection is unused. -/
theorem FieldsAgree.isUnused (h : s.FieldsAgree) (hl : ¬0 ≤ s.listenerSocketFd)
    (hc : ¬0 ≤ s.connectionSocketFd) : s.isUnused = some true := by
  have ht : s.tcpPort = 0 := by_contra fun hne => hl (h.ports.2 hne)
  have hm : s.mappedTcpPort = 0 := by_contra fun hne => h.mapped.2 hne ht
  rw [HostSocketInfo.isUnused, if_neg (haveFd_iff.not.2 hl), if_pos ⟨ht, hm⟩,
    Bool.eq_false_of_not_eq_true (haveFd_iff.not.2 hc)]
  rfl

/-- What an operation should leave behind: members that agree, and an unused socket
when `InitializeTcpListener` returns false. -/
def LeavesRight (op : Op) (answer : Answer) (s : HostSocketInfo) : Prop :=
  s.FieldsAgree ∧
    ∀ port, op = .initializeTcpListener port → answer.1 = 0 → s.isUnused = some true

/-- The operation is an `InitializeTcpListener` that opens and binds a listener for
which `fcntl` then fails. -/
def LeavesListener (portMap : List (UInt16 × UInt16)) (x : HostSocketInfo × K) : Op → Prop
  | .initializeTcpListener port =>
    ¬(haveFd x.1.listenerSocketFd = true ∧ x.1.tcpPort = port) ∧
      FcntlFails (portMapLookup portMap port) (destroy x).2
  | _ => False

/-- The ports passed to `InitializeTcpListener` are not zero, before and after the
mapping. -/
def PortsNonzero (portMap : List (UInt16 × UInt16)) (op : Op) : Prop :=
  ∀ port, op = .initializeTcpListener port → port ≠ 0 ∧ portMapLookup portMap port ≠ 0

/-- **The steps of `InitializeTcpListener`** from `socket` on. -/
theorem fieldsAgree_openListener (h : s.FieldsAgree) (hl : ¬0 ≤ s.listenerSocketFd)
    (hc : ¬0 ≤ s.connectionSocketFd) {port mapped : UInt16} (hp : port ≠ 0) (hm : mapped ≠ 0)
    (k : K) :
    let r := s.openListener port mapped k
    (FcntlFails mapped k ∧ ¬r.2.1.FieldsAgree) ∨
      (¬FcntlFails mapped k ∧ r.2.1.FieldsAgree ∧ (r.1 = false → r.2.1.isUnused = some true)) := by
  have ht : s.tcpPort = 0 := by_contra fun hne => hl (h.ports.2 hne)
  intro r
  have hr : OpenCase (fun _ _ => True) port mapped s k r :=
    openListener_cases (fun _ _ => trivial) setupMoves_true port mapped s k
  generalize r = r at hr
  cases hr with
  | noSocket hfd =>
    have hno : ¬0 ≤ (Posix.socket k).1 := haveFd_eq_false_iff.1 hfd
    have hagree : FieldsAgree { s with listenerSocketFd := (Posix.socket k).1 } :=
      ⟨⟨fun h0 => absurd h0 hno, fun hne => absurd ht hne⟩, h.mapped, fun hboth => hno hboth.1,
        h.flags⟩
    exact .inr ⟨fun hf => Bool.false_ne_true (hfd.symm.trans hf.1), hagree,
      fun _ => hagree.isUnused hno hc⟩
  | cleanedUp _ _ other =>
    have hagree : FieldsAgree { s with listenerSocketFd := -1, tcpPort := 0, mappedTcpPort := 0 } :=
      fieldsAgree_of_closed rfl rfl rfl h.flags
    exact .inr ⟨other, hagree, fun _ => hagree.isUnused closed_fd hc⟩
  | left hfd _ fails => exact .inl ⟨fails, fun hagree => hagree.ports.1 (haveFd_iff.1 hfd) ht⟩
  | listening hfd _ other =>
    refine .inr ⟨other, ⟨?_, ?_, fun hboth => hc hboth.2, h.flags⟩, fun hno => absurd hno nofun⟩
    · exact iff_of_true (haveFd_iff.1 hfd) hp
    · exact iff_of_true hp hm

/-- **`InitializeTcpListener`** does what it should if and only if it does not leave a
listener behind. -/
theorem leavesRight_initializeTcpListener (h : s.FieldsAgree)
    {portMap : List (UInt16 × UInt16)} {port : UInt16} (hp : port ≠ 0)
    (hm : portMapLookup portMap port ≠ 0) (k : K) :
    let r := s.initializeTcpListener portMap port k
    LeavesRight (.initializeTcpListener port) (.ofBool r.1) r.2.1 ↔
      ¬LeavesListener portMap (s, k) (.initializeTcpListener port) := by
  -- the answer 0 is `false`
  have hanswer : ∀ b, (Answer.ofBool b).1 = 0 → b = false := by decide
  have hopen : ∀ (t : HostSocketInfo) (k' : K), FieldsAgree t →
      ¬0 ≤ t.listenerSocketFd → ¬0 ≤ t.connectionSocketFd →
      ∀ r, r = t.openListener port (portMapLookup portMap port) k' →
        (LeavesRight (.initializeTcpListener port) (.ofBool r.1) r.2.1 ↔
          ¬FcntlFails (portMapLookup portMap port) k') := by
    rintro t k' ht hl hc r rfl
    rcases fieldsAgree_openListener ht hl hc hp hm k' with ⟨hfails, hno⟩ | ⟨hok, hagree, hunused⟩
    · exact iff_of_false (fun hright => hno hright.1) (not_not.2 hfails)
    · exact iff_of_true ⟨hagree, fun _ _ h0 => hunused (hanswer _ h0)⟩ hok
  have hclosed : (s.closeConnectionSocket k).1.FieldsAgree := h.closeConnectionSocket k
  intro r
  rcases s.initializeTcpListener_cases portMap port k with
    ⟨hl, hsame, hr⟩ | ⟨hl, hother, hr⟩ | ⟨hl, hr⟩
  · have hright : LeavesRight (.initializeTcpListener port) (.ofBool r.1) r.2.1 := by
      rw [show r = _ from hr]
      exact ⟨hclosed, fun _ _ h0 => absurd (hanswer _ h0) nofun⟩
    exact iff_of_true hright fun hleft => hleft.1 ⟨hl, hsame⟩
  · refine (hopen _ _ (hclosed.closeListenerSocket _) closed_fd closed_fd r hr).trans ?_
    exact not_congr ⟨fun hf => ⟨fun hboth => hother hboth.2, hf⟩, fun hleft => hleft.2⟩
  · have hkernel : (destroy (s, k)).2 = (s.closeConnectionSocket k).2 :=
      if_neg (show ¬haveFd s.listenerSocketFd = true from haveFd_iff.not.2 (haveFd_eq_false_iff.1 hl))
    rw [← hkernel] at hr
    refine (hopen _ _ hclosed (haveFd_eq_false_iff.1 hl) closed_fd r hr).trans ?_
    refine not_congr ⟨fun hf => ⟨fun hboth => ?_, hf⟩, fun hleft => hleft.2⟩
    exact Bool.false_ne_true (hl.symm.trans hboth.1)

/-- **The representation invariant.**  In every run of a host socket, whatever the
system calls return and the kernel does in between, in which `InitializeTcpListener`
never leaves a listener behind, the members agree at every point; and the next
operation leaves them in agreement, and the socket unused when
`InitializeTcpListener` returns false, if and only if it does not leave a listener
behind either. -/
theorem fieldsAgree_iff {portMap : List (UInt16 × UInt16)} {k₀ : K} {log : List (Op × Answer)}
    {x : HostSocketInfo × K}
    (h : Run (perform portMap) (Beside fun _ _ => True)
      (fun x op => PortsNonzero portMap op ∧ ¬LeavesListener portMap x op) ({}, k₀) log x) :
    x.1.FieldsAgree ∧ ∀ op r, PortsNonzero portMap op → perform portMap op x = some r →
      (LeavesRight op r.1 r.2.1 ↔ ¬LeavesListener portMap x op) := by
  have hstep : ∀ (x : HostSocketInfo × K) op r, x.1.FieldsAgree → PortsNonzero portMap op →
      ¬LeavesListener portMap x op → perform portMap op x = some r → r.2.1.FieldsAgree := by
    intro x op r hx hports hleft hr
    refine kept_fieldsAgree.perform hx (allows_true x op) ?_ hr
    rintro port rfl
    obtain ⟨hp, hm⟩ := hports port rfl
    exact ((leavesRight_initializeTcpListener hx hp hm x.2).2 hleft).1
  have hx : x.1.FieldsAgree := by
    refine h.state_invariant (I := fun x => x.1.FieldsAgree) ?_ ?_ ?_
    · exact fieldsAgree_of_closed rfl rfl rfl fun _ => ⟨rfl, rfl⟩
    · exact fun x op r hx hok hr => hstep x op r hx hok.1 hok.2 hr
    · exact fun x y hx hmove => hmove.1.symm ▸ hx
  refine ⟨hx, fun op r hports hr => ⟨fun hright hleft => ?_, fun hleft => ?_⟩⟩
  · cases op with
    | initializeTcpListener port =>
      obtain ⟨hp, hm⟩ := hports port rfl
      obtain rfl := Option.some.inj hr
      exact (leavesRight_initializeTcpListener hx hp hm x.2).1 hright hleft
    | _ => exact hleft.elim
  · refine ⟨hstep x op r hx hports hleft hr, ?_⟩
    rintro port rfl
    obtain ⟨hp, hm⟩ := hports port rfl
    obtain rfl := Option.some.inj hr
    exact ((leavesRight_initializeTcpListener hx hp hm x.2).2 hleft).2 port rfl

/-- `fcntl` fails for a listener on port 80: it stays open without its ports, and the
next status read ends the process. -/
theorem fieldsAgree_counterexample :
    ∃ r, perform [] (.initializeTcpListener 80)
        (({}, { fcntlWorks := false }) : HostSocketInfo × LocalKernel) = some r ∧
      r.1.1 = 0 ∧ r.2.1.listenerSocketFd = 3 ∧ r.2.1.tcpPort = 0 ∧ r.2.1.isUnused = none ∧
      ¬r.2.1.FieldsAgree :=
  ⟨_, rfl, rfl, rfl, rfl, rfl, fun h => absurd (h.ports.1 (by decide)) (by decide)⟩

/-- A listener on port 80 meets the condition. -/
theorem run_listening80 (waiting : List (Incoming UInt8)) :
    Run (perform []) (Beside fun _ _ => True)
      (fun x op => PortsNonzero [] op ∧ ¬LeavesListener [] x op)
      ({}, ({ waiting := waiting } : LocalKernel)) [(.initializeTcpListener 80, .ofBool true)]
      (listening80 waiting) := by
  refine Run.call .start ⟨fun port hop => ?_, fun h => ?_⟩ (perform_listening80 waiting)
  · obtain rfl := Op.initializeTcpListener.inj hop
    exact ⟨by decide, by decide⟩
  · have hworks := h.2.2.2.2
    rw [LocalKernel.setNonBlocking_eq] at hworks
    exact absurd hworks nofun

/-- A status read accepts a peer that waits. -/
theorem fieldsAgree_iff_accepted :
    ∃ r, perform [] .socketStatus (listening80 [{ unread := [72, 105] }]) = some r ∧
      r.1.1 = 0x17 ∧ r.2.1.connectionSocketFd = 4 ∧ r.2.1.FieldsAgree := by
  let r := (perform [] .socketStatus (listening80 [{ unread := [72, 105] }])).get rfl
  have hr : perform [] .socketStatus (listening80 [{ unread := [72, 105] }]) = some r :=
    (Option.some_get _).symm
  have hports : PortsNonzero [] .socketStatus := fun _ hop => absurd hop nofun
  exact ⟨r, hr, by decide, by decide,
    (fieldsAgree_iff ((run_listening80 _).call ⟨hports, id⟩ hr)).1⟩

end HostSocketInfo
end McuNet
