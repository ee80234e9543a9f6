/-
# The file descriptors of a host socket

`extras/host/ethernet5500/host_socket_info.cpp`: `InitializeTcpListener`,
`AcceptConnection`, `CloseConnectionSocket`, `CloseListenerSocket` and the
destructor.

`socket` and `accept` give out file descriptors that are not open, and overwrite a
member; `close` is called by two helpers.  `Logged` notes what was given out and
closed.  Because a socket never has a listener and a connection at once, nothing is
overwritten that is open: what was given out and not closed is what the members say,
nothing is closed twice, and the destructor closes all (`descriptors_kept`).
-/

import Mathlib.Data.Set.Insert
import McuNet.Core.History
import McuNet.Host.LocalKernel

namespace McuNet

/-- What happens to a file descriptor. -/
inductive FdEvent where
  | opened (fd : ℤ)
  | closed (fd : ℤ)
  deriving DecidableEq, Repr

namespace FdEvent

/-- The file descriptors that were given out and not closed since. -/
def outstanding (log : List FdEvent) : Set ℤ :=
  log.foldl (fun held e =>
    match e with
    | opened fd => insert fd held
    | closed fd => held \ {fd}) ∅

/-- A descriptor that was opened is outstanding. -/
@[simp] theorem outstanding_opened (log : List FdEvent) (fd : ℤ) :
    outstanding (log ++ [opened fd]) = insert fd (outstanding log) := by
  rw [outstanding, List.foldl_append]
  rfl

/-- One that was closed is not. -/
@[simp] theorem outstanding_closed (log : List FdEvent) (fd : ℤ) :
    outstanding (log ++ [closed fd]) = outstanding log \ {fd} := by
  rw [outstanding, List.foldl_append]
  rfl

/-- What is given out is not outstanding, and what is closed is. -/
def Proper (log : List FdEvent) : Prop :=
  EachAfter (fun before e =>
    match e with
    | opened fd => fd ∉ outstanding before
    | closed fd => fd ∈ outstanding before) log

end FdEvent

open FdEvent

/-- The kernel with, as a ghost, what happened to file descriptors. -/
structure Logged (K : Type*) where
  inner : K
  log : List FdEvent := []

namespace Logged

variable {K : Type*}

/-- A call that is not noted. -/
def pass {α : Type*} (f : K → α × K) (k : Logged K) : α × Logged K :=
  ((f k.inner).1, { k with inner := (f k.inner).2 })

/-- A call that returns a new file descriptor, or fails. -/
def opens (f : K → ℤ × K) (k : Logged K) : ℤ × Logged K :=
  ((f k.inner).1, ⟨(f k.inner).2,
    if haveFd (f k.inner).1 then k.log ++ [opened (f k.inner).1] else k.log⟩)

instance [Posix K] : Posix (Logged K) where
  socket := opens Posix.socket
  setReuse fd := pass (Posix.setReuse fd)
  bind fd port := pass (Posix.bind fd port)
  fcntlGetFl fd := pass (Posix.fcntlGetFl fd)
  fcntlSetFl fd flags := pass (Posix.fcntlSetFl fd flags)
  listen fd := pass (Posix.listen fd)
  accept fd := opens (Posix.accept fd)
  recv fd len peek := pass (Posix.recv fd len peek)
  send fd buf len := pass (Posix.send fd buf len)
  shutdownWr fd := pass (Posix.shutdownWr fd)
  close fd k := ⟨Posix.close fd k.inner, k.log ++ [closed fd]⟩

end Logged

/-- A call that returns `-1`, or a file descriptor that was not open and is now. -/
structure Obtains (before after : Set ℤ) (fd : ℤ) : Prop where
  keeps : before ⊆ after
  fresh : fd = -1 ∨ (0 ≤ fd ∧ fd ∉ before ∧ fd ∈ after)

/-- A kernel that keeps a table of the open file descriptors. -/
class FileTable (K : Type*) [Posix K] where
  openFds : K → Set ℤ
  socket : ∀ k : K, Obtains (openFds k) (openFds (Posix.socket k).2) (Posix.socket k).1
  accept : ∀ fd (k : K), Obtains (openFds k) (openFds (Posix.accept fd k).2) (Posix.accept fd k).1
  close : ∀ fd (k : K), openFds k \ {fd} ⊆ openFds (Posix.close fd k)
  setReuse : ∀ fd (k : K), openFds k ⊆ openFds (Posix.setReuse fd k).2
  bind : ∀ fd port (k : K), openFds k ⊆ openFds (Posix.bind fd port k).2
  fcntlGetFl : ∀ fd (k : K), openFds k ⊆ openFds (Posix.fcntlGetFl fd k).2
  fcntlSetFl : ∀ fd flags (k : K), openFds k ⊆ openFds (Posix.fcntlSetFl fd flags k).2
  listen : ∀ fd (k : K), openFds k ⊆ openFds (Posix.listen fd k).2
  recv : ∀ fd len peek (k : K), openFds k ⊆ openFds (Posix.recv fd len peek k).2
  send : ∀ fd buf len (k : K), openFds k ⊆ openFds (Posix.send fd buf len k).2
  shutdownWr : ∀ fd (k : K), openFds k ⊆ openFds (Posix.shutdownWr fd k).2

namespace Logged

variable {K : Type*} [Posix K] [FileTable K] {held : Set ℤ} {k k' : Logged K}

/-- The file descriptors `held` are those that were given out and not closed. -/
structure Holds (held : Set ℤ) (k : Logged K) : Prop where
  outstanding_eq : outstanding k.log = held
  isOpen : held ⊆ FileTable.openFds k.inner
  proper : Proper k.log

/-- What is not noted keeps the log and the open file descriptors. -/
def Unnoted (k k' : Logged K) : Prop :=
  k'.log = k.log ∧ FileTable.openFds k.inner ⊆ FileTable.openFds k'.inner

theorem Unnoted.trans {a b c : Logged K} (h : Unnoted a b) (h' : Unnoted b c) : Unnoted a c :=
  ⟨h'.1.trans h.1, h.2.trans h'.2⟩

/-- What is held is still held when nothing was noted. -/
theorem Holds.unnoted (h : Holds held k) (hk : Unnoted k k') : Holds held k' where
  outstanding_eq := hk.1.symm ▸ h.outstanding_eq
  isOpen := h.isOpen.trans hk.2
  proper := hk.1.symm ▸ h.proper

/-- One file descriptor is closed. -/
theorem Holds.close (h : Holds held k) {fd : ℤ} (hfd : fd ∈ held) :
    Holds (held \ {fd}) (Posix.close fd k) where
  outstanding_eq := by
    rw [← h.outstanding_eq]
    exact outstanding_closed k.log fd
  isOpen := (Set.sdiff_subset_sdiff_left h.isOpen).trans (FileTable.close fd k.inner)
  proper := eachAfter_append.2 ⟨h.proper, h.outstanding_eq.symm ▸ hfd⟩

/-- A call that opens a file descriptor, or fails. -/
theorem Holds.opens (h : Holds held k) {f : K → ℤ × K}
    (hf : Obtains (FileTable.openFds k.inner) (FileTable.openFds (f k.inner).2) (f k.inner).1) :
    let r := Logged.opens f k
    (haveFd r.1 = false ∧ Holds held r.2) ∨
      (haveFd r.1 = true ∧ r.1 ∉ held ∧ Holds (insert r.1 held) r.2) := by
  intro r
  rcases hf.fresh with hno | ⟨h0, hnew, hopen⟩
  · have hfd : haveFd (f k.inner).1 = false := by rw [hno]; rfl
    have hlog : r.2.log = k.log := if_neg (by rw [hfd]; exact Bool.false_ne_true)
    exact .inl ⟨hfd, hlog.symm ▸ h.outstanding_eq, h.isOpen.trans hf.keeps, hlog.symm ▸ h.proper⟩
  · have hfd : haveFd (f k.inner).1 = true := decide_eq_true h0
    have hlog : r.2.log = k.log ++ [opened r.1] := if_pos hfd
    have hnot : r.1 ∉ held := fun hin => hnew (h.isOpen hin)
    refine .inr ⟨hfd, hnot, ?_, Set.insert_subset hopen (h.isOpen.trans hf.keeps), ?_⟩
    · rw [hlog, outstanding_opened, h.outstanding_eq]
    · rw [hlog]
      exact eachAfter_append.2 ⟨h.proper, h.outstanding_eq.symm ▸ hnot⟩

/-! ### File descriptors of one's own -/

/-- The file descriptors that were given out and not closed are one's `own` and those of
`others`, and none is both. -/
structure Owns (own others : Set ℤ) (k : Logged K) : Prop where
  holds : Holds (own ∪ others) k
  apart : ∀ fd ∈ own, fd ∉ others

variable {own others : Set ℤ}

/-- What is owned is still owned. -/
theorem Owns.unnoted (h : Owns own others k) (hk : Unnoted k k') : Owns own others k' :=
  ⟨h.holds.unnoted hk, h.apart⟩

/-- Closing what is one's own leaves the others theirs. -/
theorem Owns.close (h : Owns own others k) {fd : ℤ} (hfd : fd ∈ own) :
    Owns (own \ {fd}) others (Posix.close fd k) where
  holds := by
    have hother : fd ∉ others := h.apart fd hfd
    have hclosed := h.holds.close (.inl hfd)
    rwa [Set.union_sdiff_distrib, Set.sdiff_singleton_eq_self hother] at hclosed
  apart := fun other hown => h.apart other hown.1

/-- What is given out is new to all. -/
theorem Owns.opens (h : Owns own others k) {f : K → ℤ × K}
    (hf : Obtains (FileTable.openFds k.inner) (FileTable.openFds (f k.inner).2) (f k.inner).1) :
    let r := Logged.opens f k
    (haveFd r.1 = false ∧ Owns own others r.2) ∨
      (haveFd r.1 = true ∧ r.1 ∉ own ∧ Owns (insert r.1 own) others r.2) := by
  intro r
  rcases h.holds.opens hf with ⟨hfd, hholds⟩ | ⟨hfd, hnew, hholds⟩
  · exact .inl ⟨hfd, hholds, h.apart⟩
  · refine .inr ⟨hfd, fun hown => hnew (.inl hown), ?_, ?_⟩
    · rwa [Set.insert_union]
    · rintro fd (rfl | hown)
      · exact fun hother => hnew (.inr hother)
      · exact h.apart fd hown

end Logged

namespace HostSocketInfo

open Logged

/-- The file descriptors that the members hold. -/
def fds (s : HostSocketInfo) : Set ℤ :=
  {fd | 0 ≤ fd ∧ (fd = s.listenerSocketFd ∨ fd = s.connectionSocketFd)}

/-- The descriptors of a socket are those of its listener and of its connection. -/
theorem mem_fds {s : HostSocketInfo} {fd : ℤ} :
    fd ∈ s.fds ↔ 0 ≤ fd ∧ (fd = s.listenerSocketFd ∨ fd = s.connectionSocketFd) := Iff.rfl

variable {K : Type*} [Posix K] [FileTable K] {s : HostSocketInfo} {k : Logged K}
  {others : Set ℤ}

/-- **The members say which file descriptors are outstanding** but for those of `others`,
and there is one at most. -/
structure HoldsBeside (others : Set ℤ) (x : HostSocketInfo × Logged K) : Prop where
  owns : Owns x.1.fds others x.2
  exclusive : ¬(0 ≤ x.1.listenerSocketFd ∧ 0 ≤ x.1.connectionSocketFd)

/-- Nobody else has any. -/
structure HoldsFds (x : HostSocketInfo × Logged K) : Prop where
  holds : Holds x.1.fds x.2
  exclusive : ¬(0 ≤ x.1.listenerSocketFd ∧ 0 ≤ x.1.connectionSocketFd)

theorem holdsFds_iff {x : HostSocketInfo × Logged K} : HoldsFds x ↔ HoldsBeside ∅ x where
  mp h := ⟨⟨(Set.union_empty x.1.fds).symm ▸ h.holds, fun _ _ => Set.notMem_empty _⟩, h.exclusive⟩
  mpr h := ⟨Set.union_empty x.1.fds ▸ h.owns.holds, h.exclusive⟩

/-- The calls that set a listener up open and close nothing. -/
theorem setupMoves_unnoted : SetupMoves (Unnoted : Logged K → Logged K → Prop) where
  setReuse fd k := ⟨rfl, FileTable.setReuse fd k.inner⟩
  bind fd port k := ⟨rfl, FileTable.bind fd port k.inner⟩
  fcntlGetFl fd k := ⟨rfl, FileTable.fcntlGetFl fd k.inner⟩
  fcntlSetFl fd flags k := ⟨rfl, FileTable.fcntlSetFl fd flags k.inner⟩
  listen fd k := ⟨rfl, FileTable.listen fd k.inner⟩

/-- `CloseConnectionSocket` closes what it held, and nothing of the others. -/
theorem HoldsBeside.closeConnectionSocket (h : HoldsBeside others (s, k)) :
    HoldsBeside others (s.closeConnectionSocket k) := by
  refine ⟨?_, fun hboth => absurd hboth.2 (show ¬(0 : ℤ) ≤ -1 by decide)⟩
  have hboth : ¬(0 ≤ s.listenerSocketFd ∧ 0 ≤ s.connectionSocketFd) := h.exclusive
  cases hc : haveFd s.connectionSocketFd with
  | true =>
    have h0 : 0 ≤ s.connectionSocketFd := of_decide_eq_true hc
    have hfds : s.fds \ {s.connectionSocketFd} = (s.closeConnectionSocket k).1.fds := by
      ext fd
      simp only [Set.mem_sdiff, mem_fds, HostSocketInfo.closeConnectionSocket,
        Set.mem_singleton_iff]
      omega
    have hk : (s.closeConnectionSocket k).2 = Posix.close s.connectionSocketFd k := if_pos hc
    rw [← hfds, hk]
    exact h.owns.close ⟨h0, .inr rfl⟩
  | false =>
    have h0 : ¬0 ≤ s.connectionSocketFd := of_decide_eq_false hc
    have hfds : (s.closeConnectionSocket k).1.fds = s.fds := by
      ext fd
      simp only [mem_fds, HostSocketInfo.closeConnectionSocket]
      omega
    have hk : (s.closeConnectionSocket k).2 = k :=
      if_neg (by rw [hc]; exact Bool.false_ne_true)
    rw [hfds, hk]
    exact h.owns

/-- `CloseListenerSocket` closes what it held, and nothing of the others. -/
theorem HoldsBeside.closeListenerSocket (h : HoldsBeside others (s, k)) :
    HoldsBeside others (s.closeListenerSocket k) := by
  refine ⟨?_, fun hboth => absurd hboth.1 (show ¬(0 : ℤ) ≤ -1 by decide)⟩
  have hboth : ¬(0 ≤ s.listenerSocketFd ∧ 0 ≤ s.connectionSocketFd) := h.exclusive
  cases hl : haveFd s.listenerSocketFd with
  | true =>
    have h0 : 0 ≤ s.listenerSocketFd := of_decide_eq_true hl
    have hfds : s.fds \ {s.listenerSocketFd} = (s.closeListenerSocket k).1.fds := by
      ext fd
      simp only [Set.mem_sdiff, mem_fds, HostSocketInfo.closeListenerSocket,
        Set.mem_singleton_iff]
      omega
    have hk : (s.closeListenerSocket k).2 = Posix.close s.listenerSocketFd k := if_pos hl
    rw [← hfds, hk]
    exact h.owns.close ⟨h0, .inl rfl⟩
  | false =>
    have h0 : ¬0 ≤ s.listenerSocketFd := of_decide_eq_false hl
    have hfds : (s.closeListenerSocket k).1.fds = s.fds := by
      ext fd
      simp only [mem_fds, HostSocketInfo.closeListenerSocket]
      omega
    have hk : (s.closeListenerSocket k).2 = k := if_neg (by rw [hl]; exact Bool.false_ne_true)
    rw [hfds, hk]
    exact h.owns

/-- A connection is accepted before the listener is closed; meanwhile both are open. -/
theorem HoldsBeside.acceptConnection (h : HoldsBeside others (s, k)) :
    HoldsBeside others (s.acceptConnection k).2 := by
  have hboth : ¬(0 ≤ s.listenerSocketFd ∧ 0 ≤ s.connectionSocketFd) := h.exclusive
  have hobtains := h.owns.opens (FileTable.accept s.listenerSocketFd k.inner)
  generalize hr : s.acceptConnection k = r
  cases hr ▸ s.acceptConnection_cases k with
  | noListener _ => exact h
  | nothing hl hno =>
    rcases hobtains with ⟨-, howns⟩ | ⟨hfd, -⟩
    · have h0 : 0 ≤ s.listenerSocketFd := of_decide_eq_true hl
      have hnew : ¬0 ≤ (Posix.accept s.listenerSocketFd k).1 := of_decide_eq_false hno
      have hfds : fds { s with connectionSocketFd := (Posix.accept s.listenerSocketFd k).1 } =
          s.fds := by
        ext fd
        simp only [mem_fds]
        omega
      refine ⟨?_, fun h' => hnew h'.2⟩
      rw [hfds]
      exact howns
    · exact absurd (hno.symm.trans hfd) Bool.false_ne_true
  | accepted hl hfd =>
    rcases hobtains with ⟨hno, -⟩ | ⟨-, hnew, howns⟩
    · exact absurd (hno.symm.trans hfd) Bool.false_ne_true
    · have h0 : 0 ≤ s.listenerSocketFd := of_decide_eq_true hl
      have hfd0 : 0 ≤ (Posix.accept s.listenerSocketFd k).1 := of_decide_eq_true hfd
      have hin : s.listenerSocketFd ∈ s.fds := ⟨h0, .inl rfl⟩
      have hne : (Posix.accept s.listenerSocketFd k).1 ≠ s.listenerSocketFd :=
        fun heq => hnew (show (Posix.accept s.listenerSocketFd k).1 ∈ s.fds from heq.symm ▸ hin)
      have hfds : insert (Posix.accept s.listenerSocketFd k).1 s.fds \ {s.listenerSocketFd} =
          (s.withConnection (Posix.accept s.listenerSocketFd k).1).fds := by
        ext fd
        simp only [Set.mem_sdiff, Set.mem_insert_iff, mem_fds, withConnection,
          Set.mem_singleton_iff]
        omega
      refine ⟨?_, fun h' => absurd h'.1 (show ¬(0 : ℤ) ≤ -1 by decide)⟩
      rw [← hfds]
      exact howns.close (.inr hin)

/-- Opening a listener holds what `socket` has opened, or has closed it again. -/
theorem HoldsBeside.openListener (h : HoldsBeside others (s, k)) (hl : ¬0 ≤ s.listenerSocketFd)
    (hc : ¬0 ≤ s.connectionSocketFd) (port mapped : UInt16) :
    HoldsBeside others (s.openListener port mapped k).2 := by
  have hobtains := h.owns.opens (FileTable.socket k.inner)
  have hopened : haveFd (Posix.socket k).1 = true → ∀ k', Unnoted (Posix.socket k).2 k' →
      HoldsBeside others ({ s with listenerSocketFd := (Posix.socket k).1 }, k') := by
    intro hfd k' moved
    rcases hobtains with ⟨hno, -⟩ | ⟨-, hnew, howns⟩
    · exact absurd (hno.symm.trans hfd) Bool.false_ne_true
    · have h0 : 0 ≤ (Posix.socket k).1 := of_decide_eq_true hfd
      have hfds : fds { s with listenerSocketFd := (Posix.socket k).1 } =
          insert (Posix.socket k).1 s.fds := by
        ext fd
        simp only [Set.mem_insert_iff, mem_fds]
        omega
      refine ⟨?_, fun h' => hc h'.2⟩
      rw [hfds]
      exact howns.unnoted moved
  generalize hr : s.openListener port mapped k = r
  cases hr ▸ openListener_cases (R := Unnoted) Unnoted.trans setupMoves_unnoted port mapped s k with
  | noSocket hno =>
    rcases hobtains with ⟨-, howns⟩ | ⟨hfd, -⟩
    · have hnew : ¬0 ≤ (Posix.socket k).1 := of_decide_eq_false hno
      have hfds : fds { s with listenerSocketFd := (Posix.socket k).1 } = s.fds := by
        ext fd
        simp only [mem_fds]
        omega
      refine ⟨?_, fun h' => hnew h'.1⟩
      rw [hfds]
      exact howns
    · exact absurd (hno.symm.trans hfd) Bool.false_ne_true
  | cleanedUp hfd moved _ => exact (hopened hfd _ moved).closeListenerSocket
  | left hfd moved _ => exact hopened hfd _ moved
  | listening hfd moved _ =>
    exact ⟨(hopened hfd _ moved).owns, (hopened hfd _ moved).exclusive⟩

/-- **`InitializeTcpListener`** closes what was held before it opens anything. -/
theorem HoldsBeside.initializeTcpListener (h : HoldsBeside others (s, k))
    (portMap : List (UInt16 × UInt16)) (port : UInt16) :
    HoldsBeside others (s.initializeTcpListener portMap port k).2 := by
  have hclosed := h.closeConnectionSocket
  have hno : ¬(0 : ℤ) ≤ -1 := by decide
  rcases s.initializeTcpListener_cases portMap port k with
    ⟨-, -, hr⟩ | ⟨-, -, hr⟩ | ⟨hl, hr⟩
  · exact hr ▸ hclosed
  · exact hr ▸ hclosed.closeListenerSocket.openListener hno hno _ _
  · exact hr ▸ hclosed.openListener (of_decide_eq_false hl) hno _ _

/-- What the functions that change a socket keep. -/
theorem kept_holdsBeside :
    Kept (fun _ _ _ => True) (HoldsBeside others : HostSocketInfo × Logged K → Prop) := by
  have hrecv : ∀ (len : ℕ) (peek : Bool) (s : HostSocketInfo) (k : Logged K),
      HoldsBeside others (s, k) →
      HoldsBeside others (s, (Posix.recv s.connectionSocketFd len peek k).2) := fun len peek s k h =>
    ⟨h.owns.unnoted ⟨rfl, FileTable.recv _ len peek k.inner⟩, h.exclusive⟩
  have heof : ∀ (s : HostSocketInfo) (k : Logged K), HoldsBeside others (s, k) →
      haveFd s.connectionSocketFd = true →
      HoldsBeside others ({ s with canReadFromConnection := false }, k) :=
    fun s k h _ => ⟨h.owns, h.exclusive⟩
  refine ⟨fun s k h => HoldsBeside.closeConnectionSocket h,
    fun s k h => HoldsBeside.closeListenerSocket h,
    fun s k h => HoldsBeside.acceptConnection h, fun s k h => ?_, fun buf len s k h => ?_, ?_, ?_⟩
  · rw [disconnectConnectionSocket]
    split_ifs
    · exact ⟨h.owns.unnoted ⟨rfl, FileTable.shutdownWr _ k.inner⟩, h.exclusive⟩
    · exact h
  · rw [HostSocketInfo.send]
    split_ifs
    · exact ⟨h.owns.unnoted ⟨rfl, FileTable.send _ buf len k.inner⟩, h.exclusive⟩
    · exact h
  · intro len peek s k r h _ hr
    exact recvInternal_kept (fun s k h => HoldsBeside.closeConnectionSocket h) hrecv heof h hr
  · intro s k r h _ hr
    exact isConnectionHalfClosed_kept hrecv heof h hr

/-- Closing its connection, for a socket alone. -/
theorem HoldsFds.closeConnectionSocket (h : HoldsFds (s, k)) :
    HoldsFds (s.closeConnectionSocket k) :=
  holdsFds_iff.2 (holdsFds_iff.1 h).closeConnectionSocket

/-- Closing its listener, for a socket alone. -/
theorem HoldsFds.closeListenerSocket (h : HoldsFds (s, k)) : HoldsFds (s.closeListenerSocket k) :=
  holdsFds_iff.2 (holdsFds_iff.1 h).closeListenerSocket

/-- Listening, for a socket alone. -/
theorem HoldsFds.initializeTcpListener (h : HoldsFds (s, k)) (portMap : List (UInt16 × UInt16))
    (port : UInt16) : HoldsFds (s.initializeTcpListener portMap port k).2 :=
  holdsFds_iff.2 ((holdsFds_iff.1 h).initializeTcpListener portMap port)

/-- **Every public operation of a socket** keeps what it holds and what is outstanding the same. -/
theorem kept_holdsFds :
    Kept (fun _ _ _ => True) (HoldsFds : HostSocketInfo × Logged K → Prop) := by
  have heq : (HoldsFds : HostSocketInfo × Logged K → Prop) = HoldsBeside ∅ :=
    funext fun _ => propext holdsFds_iff
  exact heq ▸ kept_holdsBeside

/-- What the rest of the process may do: it does not close the file descriptors that
are outstanding. -/
def LeavesFds (k k' : Logged K) : Prop :=
  k'.log = k.log ∧ ∀ fd ∈ outstanding k.log,
    fd ∈ FileTable.openFds k.inner → fd ∈ FileTable.openFds k'.inner

/-- **No file descriptor is leaked or closed twice.**  In every run of a host socket,
whatever the system calls return, the file descriptors that were given out and not
closed are at every point those that the members hold, which is one at most.  None is
closed that is not outstanding, and the destructor closes the last. -/
theorem descriptors_kept {portMap : List (UInt16 × UInt16)} {k₀ : K} {log : List (Op × Answer)}
    {x : HostSocketInfo × Logged K}
    (h : Run (perform portMap) (Beside LeavesFds) (fun _ _ => True) ({}, ⟨k₀, []⟩) log x) :
    outstanding x.2.log = x.1.fds ∧
      ¬(0 ≤ x.1.listenerSocketFd ∧ 0 ≤ x.1.connectionSocketFd) ∧
      Proper (destroy x).2.log ∧ outstanding (destroy x).2.log = ∅ := by
  have hno : ¬(0 : ℤ) ≤ -1 := by decide
  have hnew : (({} : HostSocketInfo)).fds = ∅ :=
    Set.eq_empty_of_forall_notMem fun fd hfd => by
      simp only [mem_fds] at hfd
      omega
  have hx : HoldsFds x := by
    refine h.state_invariant ⟨⟨hnew.symm, ?_, eachAfter_nil⟩, fun hboth => hno hboth.1⟩ ?_ ?_
    · exact hnew ▸ Set.empty_subset _
    · intro x op r hx _ hr
      exact kept_holdsFds.perform hx (allows_true x op)
        (fun port _ => hx.initializeTcpListener portMap port) hr
    · rintro x y hx ⟨heq, hlog, hopen⟩
      have hheld := hx.holds
      refine ⟨⟨?_, fun fd hfd => ?_, hlog.symm ▸ hheld.proper⟩, heq.symm ▸ hx.exclusive⟩
      · rw [hlog, heq]
        exact hheld.outstanding_eq
      · rw [heq] at hfd
        exact hopen fd (hheld.outstanding_eq.symm ▸ hfd) (hheld.isOpen hfd)
  have hdestroyed : HoldsFds (destroy x) := hx.closeConnectionSocket.closeListenerSocket
  refine ⟨hx.holds.outstanding_eq, hx.exclusive, hdestroyed.holds.proper, ?_⟩
  rw [hdestroyed.holds.outstanding_eq]
  exact hnew

end HostSocketInfo

/-- The file descriptors of the small kernel. -/
instance : FileTable LocalKernel where
  openFds k := {fd | fd < k.nextFd}
  socket k :=
    have hlt : (k.nextFd : ℤ) < (k.nextFd + 1 : ℕ) := by omega
    ⟨fun _ hfd => lt_trans hfd hlt, .inr ⟨Int.natCast_nonneg _, lt_irrefl (k.nextFd : ℤ), hlt⟩⟩
  accept fd k := by
    have hle : k.nextFd ≤ k.newFd fd := le_max_left _ _
    simp only [Posix.accept]
    split
    · exact ⟨subset_rfl, .inl rfl⟩
    · refine ⟨fun other (hother : other < k.nextFd) => ?_, .inr ⟨Int.natCast_nonneg _, ?_, ?_⟩⟩
      · show other < (k.newFd fd + 1 : ℕ)
        omega
      · show ¬(k.newFd fd : ℤ) < k.nextFd
        omega
      · show (k.newFd fd : ℤ) < (k.newFd fd + 1 : ℕ)
        omega
  close _ _ := Set.sdiff_subset
  setReuse _ _ := subset_rfl
  bind _ _ _ := subset_rfl
  fcntlGetFl _ _ := subset_rfl
  fcntlSetFl _ _ _ := subset_rfl
  listen _ _ := subset_rfl
  recv fd len peek k := by
    simp only [Posix.recv]
    split_ifs <;> exact subset_rfl
  send _ _ _ _ := subset_rfl
  shutdownWr _ _ := subset_rfl

namespace HostSocketInfo

/-- A listener on port 80; the connection that waits is broken. -/
def listeningLogged : HostSocketInfo × Logged LocalKernel :=
  (initializeTcpListener [] 80 {} ⟨{ waiting := [{ broken := true }] }, []⟩).2

/-- The connection is accepted. -/
def acceptedLogged : HostSocketInfo × Logged LocalKernel :=
  (listeningLogged.1.acceptConnection listeningLogged.2).2

/-- The broken connection is closed when it is read from. -/
theorem descriptors_kept_broken :
    ∃ r, perform [] (.recv 8) acceptedLogged = some r ∧
      r.2.2.log = [.opened 3, .opened 4, .closed 3, .closed 4] ∧
      outstanding (destroy r.2).2.log = ∅ := by
  let r := (perform [] (.recv 8) acceptedLogged).get rfl
  have hr : perform [] (.recv 8) acceptedLogged = some r := (Option.some_get _).symm
  have hlistening : Run (perform []) (Beside LeavesFds) (fun _ _ => True)
      ({}, ⟨({ waiting := [{ broken := true }] } : LocalKernel), []⟩) _ listeningLogged :=
    .call (r := (.ofBool true, listeningLogged)) .start trivial
      (show perform [] (.initializeTcpListener 80) _ = _ from rfl)
  have haccepted := hlistening.call (r := (.ofBool true, acceptedLogged)) trivial
    (show perform [] .acceptConnection _ = _ from rfl)
  exact ⟨r, hr, by decide, (descriptors_kept (haccepted.call trivial hr)).2.2.2⟩

end HostSocketInfo
end McuNet
