/-
# The order of the system calls

`extras/host/ethernet5500/host_socket_info.cpp`, with all that calls it.

A file descriptor has to be treated in an order: one that `socket` gave out is made
reusable, bound to a port, made non-blocking and set to listen, and only then are
connections accepted from it; bytes are sent and received through those that `accept` gave
out.  `Stage` says how far a file descriptor is, by the calls that succeeded, and
`SysCall.InOrder` that every call was made at the stage for it.

Whatever fails, no run of all the users of the network departs from the order
(`Sharing.calls_inOrder`).  So `accept` never blocks, and what listens for a port listens
on the port that the flag `tcp_server_port_map` has for it.
-/

import McuNet.Host.SharedDescriptors

namespace McuNet

/-- What has been done with a file descriptor. -/
inductive Stage where
  | notOpen
  | created
  | reusable
  | bound (port : UInt16)
  | nonBlocking (port : UInt16)
  | listening (port : UInt16)
  | connected
  deriving DecidableEq, Repr

/-- `O_NONBLOCK` was set. -/
def Stage.unblock : Stage → Stage
  | .bound port => .nonBlocking port
  | stage => stage

/-- `listen` has succeeded. -/
def Stage.listen : Stage → Stage
  | .nonBlocking port => .listening port
  | stage => stage

/-- A system call, and what it returned as far as it matters. -/
inductive SysCall where
  | socket (result : ℤ)
  | setReuse (fd : ℤ) (done : Bool)
  | bind (fd : ℤ) (port : UInt16) (done : Bool)
  | fcntlGetFl (fd : ℤ) (flags : ℤ)
  | fcntlSetFl (fd : ℤ) (flags : ℕ) (done : Bool)
  | listen (fd : ℤ) (done : Bool)
  | accept (fd result : ℤ)
  | recv (fd : ℤ)
  | send (fd : ℤ)
  | shutdownWr (fd : ℤ)
  | close (fd : ℤ)
  deriving DecidableEq, Repr

namespace SysCall

/-- The file descriptor whose stage the call may change. -/
def target : SysCall → ℤ
  | .socket result => result
  | .setReuse fd _ | .bind fd _ _ | .fcntlGetFl fd _ | .fcntlSetFl fd _ _ | .listen fd _ => fd
  | .accept _ result => result
  | .recv fd | .send fd | .shutdownWr fd | .close fd => fd

/-- The stage of its target after the call. -/
def advance (stage : Stage) : SysCall → Stage
  | .socket result => if haveFd result then .created else stage
  | .setReuse _ done => if done then .reusable else stage
  | .bind _ port done => if done then .bound port else stage
  | .fcntlGetFl _ flags =>
    if 0 ≤ flags ∧ flags.toNat &&& oNonblock ≠ 0 then stage.unblock else stage
  | .fcntlSetFl _ flags done => if done ∧ flags &&& oNonblock ≠ 0 then stage.unblock else stage
  | .listen _ done => if done then stage.listen else stage
  | .accept _ result => if haveFd result then .connected else stage
  | .recv _ | .send _ | .shutdownWr _ => stage
  | .close _ => .notOpen

/-- All stages after the call. -/
def after (stages : ℤ → Stage) (c : SysCall) : ℤ → Stage :=
  Function.update stages c.target (c.advance (stages c.target))

/-- The stages to which the calls have led. -/
def stages (calls : List SysCall) : ℤ → Stage := calls.foldl after fun _ => .notOpen

/-- The file descriptor is at the stage for the call. -/
def Timely (stages : ℤ → Stage) : SysCall → Prop
  | .socket _ => True
  | .setReuse fd _ => stages fd = .created
  | .bind fd _ _ => stages fd = .reusable
  | .fcntlGetFl fd _ | .fcntlSetFl fd _ _ => ∃ port, stages fd = .bound port
  | .listen fd _ => ∃ port, stages fd = .nonBlocking port
  | .accept fd _ => ∃ port, stages fd = .listening port
  | .recv fd | .send fd | .shutdownWr fd => stages fd = .connected
  | .close fd => stages fd ≠ .notOpen

/-- **Every call was made at the stage for it.** -/
def InOrder (calls : List SysCall) : Prop :=
  EachAfter (fun before c => c.Timely (stages before)) calls

variable {calls : List SysCall} {c : SysCall}

theorem stages_append : stages (calls ++ [c]) = c.after (stages calls) := by
  rw [stages, List.foldl_append]
  rfl

theorem after_of_ne {stages : ℤ → Stage} {fd : ℤ} (h : fd ≠ c.target) :
    c.after stages fd = stages fd :=
  Function.update_of_ne h _ _

theorem after_target (stages : ℤ → Stage) : c.after stages c.target = c.advance (stages c.target) :=
  Function.update_self _ _ _

/-- A call that leaves its target where it is. -/
theorem after_of_advance {stages : ℤ → Stage} (h : c.advance (stages c.target) = stages c.target) :
    c.after stages = stages := by
  rw [after, h, Function.update_eq_self]

end SysCall

open SysCall

/-- The kernel with, as a ghost, the calls that were made. -/
structure Journaled (K : Type*) where
  inner : K
  calls : List SysCall := []

namespace Journaled

variable {K : Type*}

/-- A call is noted with what it returned. -/
def note {α : Type*} (f : K → α × K) (c : α → SysCall) (k : Journaled K) : α × Journaled K :=
  ((f k.inner).1, ⟨(f k.inner).2, k.calls ++ [c (f k.inner).1]⟩)

/-- A call that is not noted. -/
def skip {α : Type*} (f : K → α × K) (k : Journaled K) : α × Journaled K :=
  ((f k.inner).1, { k with inner := (f k.inner).2 })

instance [Posix K] : Posix (Journaled K) where
  socket := note Posix.socket .socket
  setReuse fd := note (Posix.setReuse fd) (.setReuse fd)
  bind fd port := note (Posix.bind fd port) (.bind fd port)
  fcntlGetFl fd := note (Posix.fcntlGetFl fd) (.fcntlGetFl fd)
  fcntlSetFl fd flags := note (Posix.fcntlSetFl fd flags) (.fcntlSetFl fd flags)
  listen fd := note (Posix.listen fd) (.listen fd)
  accept fd := note (Posix.accept fd) (.accept fd)
  recv fd len peek := note (Posix.recv fd len peek) fun _ => .recv fd
  send fd buf len := note (Posix.send fd buf len) fun _ => .send fd
  shutdownWr fd := note (Posix.shutdownWr fd) fun _ => .shutdownWr fd
  close fd k := ⟨Posix.close fd k.inner, k.calls ++ [.close fd]⟩

instance [McuCore K] : McuCore (Journaled K) where
  millis := skip McuCore.millis
  elapsedMillis t := skip (McuCore.elapsedMillis t)
  getWriteError := skip McuCore.getWriteError

instance [Posix K] [FileTable K] : FileTable (Journaled K) where
  openFds k := FileTable.openFds k.inner
  socket k := FileTable.socket k.inner
  accept fd k := FileTable.accept fd k.inner
  close fd k := FileTable.close fd k.inner
  setReuse fd k := FileTable.setReuse fd k.inner
  bind fd port k := FileTable.bind fd port k.inner
  fcntlGetFl fd k := FileTable.fcntlGetFl fd k.inner
  fcntlSetFl fd flags k := FileTable.fcntlSetFl fd flags k.inner
  listen fd k := FileTable.listen fd k.inner
  recv fd len peek k := FileTable.recv fd len peek k.inner
  send fd buf len k := FileTable.send fd buf len k.inner
  shutdownWr fd k := FileTable.shutdownWr fd k.inner

instance [Posix K] [McuCore K] [FileTable K] [CoreKeepsFds K] : CoreKeepsFds (Journaled K) where
  millis k := CoreKeepsFds.millis k.inner
  elapsedMillis t k := CoreKeepsFds.elapsedMillis t k.inner
  getWriteError k := CoreKeepsFds.getWriteError k.inner

end Journaled

/-- The stages of the file descriptors. -/
def Logged.stages {K : Type*} (k : Logged (Journaled K)) : ℤ → Stage := SysCall.stages k.inner.calls

namespace HostSocketInfo

/-! ### The listener and the connection -/

/-- **What a socket holds has come to its stage**: its connection was accepted, and if it has
a port, its listener listens on what the port is mapped to. -/
structure Standing (portMap : List (UInt16 × UInt16)) (stages : ℤ → Stage) (s : HostSocketInfo) :
    Prop where
  listener : haveFd s.listenerSocketFd = true → stages s.listenerSocketFd ≠ .notOpen ∧
    (s.tcpPort ≠ 0 → stages s.listenerSocketFd = .listening (portMapLookup portMap s.tcpPort))
  noListener : haveFd s.listenerSocketFd = false → s.tcpPort = 0
  connection : haveFd s.connectionSocketFd = true → stages s.connectionSocketFd = .connected

/-- The stages of other file descriptors do not matter. -/
theorem Standing.congr {portMap : List (UInt16 × UInt16)} {stages stages' : ℤ → Stage}
    {s : HostSocketInfo} (h : Standing portMap stages s)
    (heq : ∀ fd ∈ s.fds, stages' fd = stages fd) : Standing portMap stages' s where
  listener hl := heq _ ⟨of_decide_eq_true hl, .inl rfl⟩ ▸ h.listener hl
  noListener := h.noListener
  connection hc := heq _ ⟨of_decide_eq_true hc, .inr rfl⟩ ▸ h.connection hc

variable {K : Type*} {portMap : List (UInt16 × UInt16)} {others : Set ℤ} {stages₀ : ℤ → Stage}
  {s : HostSocketInfo} {k j : Logged (Journaled K)} {c : SysCall}

/-- The calls were made in order, and those that others hold are where they were. -/
structure Ordered (others : Set ℤ) (stages₀ : ℤ → Stage) (k : Logged (Journaled K)) : Prop where
  inOrder : InOrder k.inner.calls
  others : ∀ fd ∈ others, k.stages fd = stages₀ fd

/-- **One more call**, in time and for no file descriptor of others. -/
theorem Ordered.note (h : Ordered others stages₀ k)
    (hcalls : j.inner.calls = k.inner.calls ++ [c]) (timely : c.Timely k.stages)
    (hc : ∀ fd ∈ others, fd ≠ c.target) :
    Ordered others stages₀ j ∧ j.stages = c.after k.stages := by
  have hstages : j.stages = c.after k.stages := by
    rw [Logged.stages, hcalls]
    exact stages_append
  refine ⟨⟨?_, fun fd hfd => ?_⟩, hstages⟩
  · rw [hcalls]
    exact eachAfter_append.2 ⟨h.inOrder, timely⟩
  · rw [hstages, after_of_ne (hc fd hfd)]
    exact h.others fd hfd

/-- A call that leaves all stages as they are. -/
theorem Ordered.use (h : Ordered others stages₀ k)
    (hcalls : j.inner.calls = k.inner.calls ++ [c]) (timely : c.Timely k.stages)
    (hsame : c.advance (k.stages c.target) = k.stages c.target) :
    Ordered others stages₀ j ∧ j.stages = k.stages := by
  have hstages : j.stages = k.stages := by
    rw [Logged.stages, hcalls, stages_append]
    exact after_of_advance hsame
  refine ⟨⟨?_, fun fd hfd => hstages ▸ h.others fd hfd⟩, hstages⟩
  rw [hcalls]
  exact eachAfter_append.2 ⟨h.inOrder, timely⟩

/-- The socket without its connection. -/
theorem Standing.disconnected {stages stages' : ℤ → Stage} (h : Standing portMap stages s)
    (heq : haveFd s.listenerSocketFd = true →
      stages' s.listenerSocketFd = stages s.listenerSocketFd) (read write : Bool) :
    Standing portMap stages'
      { s with
        connectionSocketFd := -1, canReadFromConnection := read, canWriteToConnection := write }
    where
  listener hl := heq hl ▸ h.listener hl
  noListener := h.noListener
  connection hc := absurd hc Bool.false_ne_true

/-- The socket without its listener. -/
theorem Standing.unlistening {stages stages' : ℤ → Stage} (h : Standing portMap stages s)
    (heq : haveFd s.connectionSocketFd = true →
      stages' s.connectionSocketFd = stages s.connectionSocketFd) : Standing portMap stages'
      { s with listenerSocketFd := -1, tcpPort := 0, mappedTcpPort := 0 } where
  listener hl := absurd hl Bool.false_ne_true
  noListener _ := rfl
  connection hc := heq hc ▸ h.connection hc

variable [Posix K] [FileTable K]

omit [FileTable K] in
/-- A file descriptor is closed. -/
theorem Ordered.close (h : Ordered others stages₀ k) {fd : ℤ} (hfd : fd ∉ others)
    (hopen : k.stages fd ≠ .notOpen) : Ordered others stages₀ (Posix.close fd k) ∧
      (Posix.close fd k).stages = Function.update k.stages fd .notOpen := by
  refine h.note (c := .close fd) rfl hopen ?_
  rintro _ hother rfl
  exact hfd hother

/-- **A socket whose calls were in order**, beside others. -/
structure Proceeds (portMap : List (UInt16 × UInt16)) (others : Set ℤ) (stages₀ : ℤ → Stage)
    (x : HostSocketInfo × Logged (Journaled K)) : Prop where
  ordered : Ordered others stages₀ x.2
  standing : Standing portMap x.2.stages x.1

section Closing

variable (hb : HoldsBeside others (s, k)) (h : Proceeds portMap others stages₀ (s, k))

include hb h

theorem proceeds_closeConnectionSocket :
    Proceeds portMap others stages₀ (s.closeConnectionSocket k) := by
  have hexclusive : ¬(0 ≤ s.listenerSocketFd ∧ 0 ≤ s.connectionSocketFd) := hb.exclusive
  have hstanding : Standing portMap k.stages s := h.standing
  unfold closeConnectionSocket
  split_ifs with hc
  · have h0 : 0 ≤ s.connectionSocketFd := of_decide_eq_true hc
    have hopen : k.stages s.connectionSocketFd ≠ .notOpen := by
      rw [hstanding.connection hc]
      exact nofun
    obtain ⟨hordered, hstages⟩ := h.ordered.close (hb.owns.apart _ ⟨h0, .inr rfl⟩) hopen
    refine ⟨hordered, hstanding.disconnected (fun hl => ?_) _ _⟩
    rw [hstages]
    refine Function.update_of_ne (fun heq => hexclusive ⟨?_, h0⟩) _ _
    exact heq ▸ h0
  · exact ⟨h.ordered, hstanding.disconnected (fun _ => rfl) _ _⟩

theorem proceeds_closeListenerSocket :
    Proceeds portMap others stages₀ (s.closeListenerSocket k) := by
  have hexclusive : ¬(0 ≤ s.listenerSocketFd ∧ 0 ≤ s.connectionSocketFd) := hb.exclusive
  have hstanding : Standing portMap k.stages s := h.standing
  unfold closeListenerSocket
  split_ifs with hl
  · have h0 : 0 ≤ s.listenerSocketFd := of_decide_eq_true hl
    obtain ⟨hordered, hstages⟩ := h.ordered.close (hb.owns.apart _ ⟨h0, .inl rfl⟩)
      (hstanding.listener hl).1
    refine ⟨hordered, hstanding.unlistening fun hc => ?_⟩
    rw [hstages]
    refine Function.update_of_ne (fun heq => hexclusive ⟨h0, ?_⟩) _ _
    exact heq.symm ▸ h0
  · exact ⟨h.ordered, hstanding.unlistening fun _ => rfl⟩

/-- A connection is accepted from a listener, which is closed then. -/
theorem proceeds_acceptConnection (hport : haveFd s.listenerSocketFd = true → s.tcpPort ≠ 0) :
    Proceeds portMap others stages₀ (s.acceptConnection k).2 := by
  have hstanding : Standing portMap k.stages s := h.standing
  have hobtains := hb.owns.opens (FileTable.accept s.listenerSocketFd k.inner)
  have hcalls : (Posix.accept s.listenerSocketFd k).2.inner.calls = k.inner.calls ++
      [.accept s.listenerSocketFd (Posix.accept s.listenerSocketFd k).1] := rfl
  have htimely : haveFd s.listenerSocketFd = true → Timely k.stages
      (.accept s.listenerSocketFd (Posix.accept s.listenerSocketFd k).1) :=
    fun hl => ⟨_, (hstanding.listener hl).2 (hport hl)⟩
  generalize hr : s.acceptConnection k = r
  cases hr ▸ s.acceptConnection_cases k with
  | noListener _ => exact h
  | nothing hl hno =>
    obtain ⟨hordered, hstages⟩ := h.ordered.use hcalls (htimely hl) (if_neg (by
      rw [hno]
      exact Bool.false_ne_true))
    refine ⟨hordered, ?_, hstanding.noListener, fun hc => absurd (hno.symm.trans hc) nofun⟩
    exact fun hl => hstages ▸ hstanding.listener hl
  | accepted hl hfd =>
    rcases hobtains with ⟨hno, -⟩ | ⟨-, hnew, howns⟩
    · exact absurd (hno.symm.trans hfd) Bool.false_ne_true
    · have h0 : 0 ≤ s.listenerSocketFd := of_decide_eq_true hl
      have hmine : s.listenerSocketFd ∈ s.fds := ⟨h0, .inl rfl⟩
      have hfresh : ∀ fd ∈ others, fd ≠ (Posix.accept s.listenerSocketFd k).1 := by
        intro fd hother heq
        exact howns.apart _ (.inl rfl) (heq ▸ hother)
      have hne : s.listenerSocketFd ≠ (Posix.accept s.listenerSocketFd k).1 :=
        fun heq => hnew (heq ▸ hmine)
      obtain ⟨haccepted, hstages⟩ := h.ordered.note hcalls (htimely hl) hfresh
      have hlistens :
          (Posix.accept s.listenerSocketFd k).2.stages s.listenerSocketFd ≠ .notOpen := by
        rw [hstages, after_of_ne hne]
        exact (hstanding.listener hl).1
      obtain ⟨hordered, hclosed⟩ := haccepted.close (hb.owns.apart _ hmine) hlistens
      refine ⟨hordered, fun h' => absurd h' Bool.false_ne_true, fun _ => rfl, fun _ => ?_⟩
      have hconnected : (Posix.accept s.listenerSocketFd k).2.stages
          (Posix.accept s.listenerSocketFd k).1 = .connected := by
        rw [hstages]
        exact (after_target k.stages).trans (if_pos hfd)
      rw [hclosed]
      exact (Function.update_of_ne hne.symm _ _).trans hconnected

end Closing

/-! ### The way to a listener -/

section Opening

omit [FileTable K]

variable {fd : ℤ} {stage : Stage} {port : UInt16}

/-- The calls were in order, and a file descriptor that no others hold is at this stage. -/
structure At (others : Set ℤ) (stages₀ : ℤ → Stage) (fd : ℤ) (stage : Stage)
    (k : Logged (Journaled K)) : Prop where
  ordered : Ordered others stages₀ k
  notOthers : fd ∉ others
  reached : k.stages fd = stage

omit [Posix K] in
theorem At.note (h : At others stages₀ fd stage k) (hcalls : j.inner.calls = k.inner.calls ++ [c])
    (htarget : c.target = fd) (timely : c.Timely k.stages) :
    At others stages₀ fd (c.advance stage) j := by
  obtain ⟨hordered, hstages⟩ := h.ordered.note hcalls timely fun _ hother heq =>
    h.notOthers (htarget ▸ heq ▸ hother)
  refine ⟨hordered, h.notOthers, ?_⟩
  have htarget' := after_target (c := c) k.stages
  rw [htarget, h.reached] at htarget'
  rw [hstages]
  exact htarget'

/-- `O_NONBLOCK` is among flags that it was added to. -/
theorem or_oNonblock (flags : ℕ) : (flags ||| oNonblock) &&& oNonblock ≠ 0 := by
  rw [Nat.and_or_distrib_right, Nat.and_self]
  intro h
  exact absurd (Nat.or_eq_zero_iff.1 h).2 (by decide)

theorem At.setNonBlocking (h : At others stages₀ fd (.bound port) k) :
    let r := setNonBlocking fd k
    At others stages₀ fd (if r.1 then .nonBlocking port else .bound port) r.2 := by
  let flags := Posix.fcntlGetFl fd k
  have hget := h.note (j := flags.2) (c := .fcntlGetFl fd flags.1) rfl rfl ⟨port, h.reached⟩
  dsimp only
  unfold HostSocketInfo.setNonBlocking
  by_cases hfails : flags.1 < 0
  · rw [show advance (.bound port) (.fcntlGetFl fd flags.1) = .bound port from
      if_neg fun hset => not_le.2 hfails hset.1] at hget
    rw [if_pos hfails]
    exact hget
  · by_cases hset : flags.1.toNat &&& oNonblock ≠ 0
    · rw [show advance (.bound port) (.fcntlGetFl fd flags.1) = .nonBlocking port from
        if_pos ⟨not_lt.1 hfails, hset⟩] at hget
      rw [if_neg hfails, if_pos hset]
      exact hget
    · rw [if_neg hfails, if_neg hset]
      rw [show advance (.bound port) (.fcntlGetFl fd flags.1) = .bound port from
        if_neg fun h => hset h.2] at hget
      have hmade := hget.note (j := (Posix.fcntlSetFl fd (flags.1.toNat ||| oNonblock) flags.2).2)
        (c := .fcntlSetFl fd (flags.1.toNat ||| oNonblock) _) rfl rfl ⟨port, hget.reached⟩
      simp only [advance, or_oNonblock, ne_eq, not_false_eq_true, and_true] at hmade
      exact hmade

/-- A listener that was not finished is closed. -/
theorem At.cleanUp (h : At others stages₀ fd stage k) (hstage : stage ≠ .notOpen)
    (hfd : haveFd fd = true) (hc : haveFd s.connectionSocketFd = false) :
    Proceeds portMap others stages₀ (closeListenerSocket { s with listenerSocketFd := fd } k) := by
  have hclosed := h.ordered.close h.notOthers (h.reached.symm ▸ hstage)
  have hk : (closeListenerSocket { s with listenerSocketFd := fd } k).2 = Posix.close fd k :=
    if_pos hfd
  refine ⟨hk ▸ hclosed.1, fun hl => absurd hl Bool.false_ne_true, fun _ => rfl, fun hopen => ?_⟩
  exact absurd (hc.symm.trans hopen) Bool.false_ne_true

end Opening

/-- **A listener is opened**, or the attempt is given up at some stage. -/
theorem proceeds_openListener (hb : HoldsBeside others (s, k))
    (h : Proceeds portMap others stages₀ (s, k)) (hl : haveFd s.listenerSocketFd = false)
    (hc : haveFd s.connectionSocketFd = false) (port : UInt16) :
    Proceeds portMap others stages₀ (s.openListener port (portMapLookup portMap port) k).2 := by
  have hnoPort : s.tcpPort = 0 := h.standing.noListener hl
  have hnotOpen : ∀ {p : Prop}, haveFd s.connectionSocketFd = true → p :=
    fun hopen => absurd (hc.symm.trans hopen) Bool.false_ne_true
  let mapped := portMapLookup portMap port
  let fd := Posix.socket k
  have hcalls : fd.2.inner.calls = k.inner.calls ++ [.socket fd.1] := rfl
  have hcreated : haveFd fd.1 = true → At others stages₀ fd.1 .created fd.2 := by
    intro hfd
    rcases hb.owns.opens (FileTable.socket k.inner) with ⟨hno, -⟩ | ⟨-, -, howns⟩
    · exact absurd (hno.symm.trans hfd) Bool.false_ne_true
    · have hnew : fd.1 ∉ others := howns.apart _ (.inl rfl)
      obtain ⟨hordered, hstages⟩ := h.ordered.note hcalls trivial
        (show ∀ other ∈ others, other ≠ fd.1 from fun other hother heq => hnew (heq ▸ hother))
      refine ⟨hordered, hnew, ?_⟩
      rw [hstages]
      exact (after_target k.stages).trans (if_pos hfd)
  let reuse := Posix.setReuse fd.1 fd.2
  have hreuse : haveFd fd.1 = true →
      At others stages₀ fd.1 (if reuse.1 then .reusable else .created) reuse.2 := fun hfd =>
    (hcreated hfd).note (c := .setReuse fd.1 reuse.1) rfl rfl (hcreated hfd).reached
  let bound := Posix.bind fd.1 mapped reuse.2
  have hbound : haveFd fd.1 = true → reuse.1 = true →
      At others stages₀ fd.1 (if bound.1 then .bound mapped else .reusable) bound.2 := by
    intro hfd h1
    have hready := hreuse hfd
    rw [if_pos h1] at hready
    exact hready.note (c := .bind fd.1 mapped bound.1) rfl rfl hready.reached
  let nonBlocking := setNonBlocking fd.1 bound.2
  have hnonBlocking : haveFd fd.1 = true → reuse.1 = true → bound.1 = true →
      At others stages₀ fd.1 (if nonBlocking.1 then .nonBlocking mapped else .bound mapped)
        nonBlocking.2 := by
    intro hfd h1 h2
    have hready := hbound hfd h1
    rw [if_pos h2] at hready
    exact hready.setNonBlocking
  let listening := Posix.listen fd.1 nonBlocking.2
  have hlistening : haveFd fd.1 = true → reuse.1 = true → bound.1 = true →
      nonBlocking.1 = true → At others stages₀ fd.1
        (if listening.1 then .listening mapped else .nonBlocking mapped) listening.2 := by
    intro hfd h1 h2 h3
    have hready := hnonBlocking hfd h1 h2
    rw [if_pos h3] at hready
    exact hready.note (c := .listen fd.1 listening.1) rfl rfl ⟨mapped, hready.reached⟩
  unfold openListener
  dsimp only
  split_ifs with hfd h1 h2 h3 h4
  · have hdone := hlistening hfd h1 h2 h3
    rw [if_pos h4] at hdone
    refine ⟨hdone.ordered, fun _ => ?_, fun hno => ?_, hnotOpen⟩
    · refine ⟨?_, fun _ => hdone.reached⟩
      exact hdone.reached.symm ▸ nofun
    · exact absurd (hno.symm.trans hfd) Bool.false_ne_true
  · have hready := hlistening hfd h1 h2 h3
    rw [if_neg h4] at hready
    exact hready.cleanUp nofun hfd hc
  · -- the listener is not closed
    have hready := hnonBlocking hfd h1 h2
    rw [if_neg h3] at hready
    refine ⟨hready.ordered, fun _ => ?_, fun _ => hnoPort, hnotOpen⟩
    refine ⟨?_, fun hport => absurd hnoPort hport⟩
    exact hready.reached.symm ▸ nofun
  · have hready := hbound hfd h1
    rw [if_neg h2] at hready
    exact hready.cleanUp nofun hfd hc
  · have hready := hreuse hfd
    rw [if_neg h1] at hready
    exact hready.cleanUp nofun hfd hc
  · obtain ⟨hordered, -⟩ := h.ordered.use hcalls trivial (if_neg hfd)
    exact ⟨hordered, fun hl' => absurd hl' hfd, fun _ => hnoPort, hnotOpen⟩

/-! ### The steps of a socket -/

omit [Posix K] [FileTable K] in
/-- A call for the connection. -/
theorem Proceeds.use (h : Proceeds portMap others stages₀ (s, k))
    (hc : haveFd s.connectionSocketFd = true) (hcalls : j.inner.calls = k.inner.calls ++ [c])
    (htimely : k.stages s.connectionSocketFd = .connected → c.Timely k.stages)
    (hsame : ∀ stage, c.advance stage = stage) : Proceeds portMap others stages₀ (s, j) := by
  have hconnected : k.stages s.connectionSocketFd = .connected := h.standing.connection hc
  obtain ⟨hordered, hstages⟩ := h.ordered.use hcalls (htimely hconnected) (hsame _)
  exact ⟨hordered, hstages.symm ▸ h.standing⟩

omit [FileTable K] in
/-- A call of `recv`. -/
theorem Proceeds.recv (h : Proceeds portMap others stages₀ (s, k))
    (hc : haveFd s.connectionSocketFd = true) (len : ℕ) (peek : Bool) :
    Proceeds portMap others stages₀ (s, (Posix.recv s.connectionSocketFd len peek k).2) :=
  h.use hc (c := .recv s.connectionSocketFd) rfl id fun _ => rfl

omit [Posix K] [FileTable K] in
/-- The members that say whether bytes may be read and written do not matter. -/
theorem Proceeds.marked (h : Proceeds portMap others stages₀ (s, k)) (read disconnecting : Bool) :
    Proceeds portMap others stages₀
      ({ s with canReadFromConnection := read, disconnecting := disconnecting }, k) :=
  ⟨h.ordered, h.standing.listener, h.standing.noListener, h.standing.connection⟩

/-- **A step of a socket** keeps its calls in order. -/
theorem proceeds_step {x y : HostSocketInfo × Logged (Journaled K)} (hb : HoldsBeside others x)
    (h : Proceeds portMap others stages₀ x) (hxy : Step portMap x y) :
    Proceeds portMap others stages₀ y := by
  cases hxy with
  | closeConnectionSocket _ _ => exact proceeds_closeConnectionSocket hb h
  | closeListenerSocket _ _ => exact proceeds_closeListenerSocket hb h
  | initializeTcpListener port s k =>
    have hclosed := proceeds_closeConnectionSocket hb h
    have hno : haveFd (-1) = false := rfl
    rcases s.initializeTcpListener_cases portMap port k with
      ⟨-, -, hr⟩ | ⟨-, -, hr⟩ | ⟨hl, hr⟩
    · exact hr ▸ hclosed
    · rw [hr]
      refine proceeds_openListener hb.closeConnectionSocket.closeListenerSocket ?_ hno hno port
      exact proceeds_closeListenerSocket hb.closeConnectionSocket hclosed
    · rw [hr]
      exact proceeds_openListener hb.closeConnectionSocket hclosed hl hno port
  | acceptConnection _ _ hport => exact proceeds_acceptConnection hb h hport
  | disconnectConnectionSocket s k =>
    unfold disconnectConnectionSocket
    split_ifs with hc
    · have hused := h.use hc (j := (Posix.shutdownWr s.connectionSocketFd k).2)
        (c := .shutdownWr s.connectionSocketFd) rfl id fun _ => rfl
      exact hused.marked s.canReadFromConnection true
    · exact h
  | send buf len s k =>
    unfold HostSocketInfo.send
    split_ifs with hc
    · exact h.use hc (c := .send s.connectionSocketFd) rfl id fun _ => rfl
    · exact h
  | @recvInternal len peek s k r hr =>
    cases recvInternal_cases hr with
    | skipped _ => exact h
    | ended live _ => exact (h.recv live.1 len peek).marked false s.disconnecting
    | got live _ => exact h.recv live.1 len peek
    | blocked live _ _ => exact h.recv live.1 len peek
    | lost live _ _ =>
      refine proceeds_closeConnectionSocket ?_ (h.recv live.1 len peek)
      exact ⟨hb.owns.unnoted ⟨rfl, FileTable.recv _ len peek k.inner⟩, hb.exclusive⟩
  | @isConnectionHalfClosed s k r hr =>
    cases isConnectionHalfClosed_returns hr with
    | notOpen _ => exact h
    | known _ _ => exact h
    | byte live _ => exact h.recv live.1 1 true
    | ended live _ => exact (h.recv live.1 1 true).marked false s.disconnecting

end HostSocketInfo

/-! ### All sockets -/

namespace HostNetwork

open HostSocketInfo

variable {K : Type*} [Posix K] [FileTable K] [McuCore K] [CoreKeepsFds K]
  {w : HostNetwork (Logged (Journaled K))}

/-- **The calls for all sockets were in order.** -/
structure AllProceed (w : HostNetwork (Logged (Journaled K))) : Prop where
  inOrder : InOrder w.kernel.inner.calls
  standing : ∀ n, n < kMaxSockets → Standing w.tcpServerPortMap w.kernel.stages (w.sockets n)

omit [CoreKeepsFds K] in
theorem AllProceed.step (h : AllProceed w) (hall : HoldsAll w)
    {w' : HostNetwork (Logged (Journaled K))} (hw : Step w w') : AllProceed w' := by
  cases hw with
  | @socket n x range step =>
    have hbefore : Proceeds w.tcpServerPortMap (w.fdsBut n) w.kernel.stages
        (w.sockets n, w.kernel) := ⟨⟨h.inOrder, fun _ _ => rfl⟩, h.standing n range⟩
    have hproceeds := proceeds_step (hall.beside range) hbefore step
    refine ⟨hproceeds.ordered.inOrder, fun m hm => ?_⟩
    by_cases hmn : m = n
    · subst hmn
      rw [sockets_withSocket_self]
      exact hproceeds.standing
    · rw [sockets_withSocket_of_ne _ hmn]
      refine (h.standing m hm).congr fun fd hfd => ?_
      exact hproceeds.ordered.others fd ⟨m, hm, hmn, hfd⟩
  | core step =>
    cases step with
    | millis _ => exact ⟨h.inOrder, h.standing⟩
    | elapsedMillis _ _ => exact ⟨h.inOrder, h.standing⟩
    | getWriteError _ => exact ⟨h.inOrder, h.standing⟩
  | marked _ _ => exact ⟨h.inOrder, h.standing⟩

theorem AllProceed.steps (h : AllProceed w) (hall : HoldsAll w)
    {w' : HostNetwork (Logged (Journaled K))} (hw : Relation.ReflTransGen Step w w') :
    AllProceed w' := by
  suffices hboth : AllProceed w' ∧ HoldsAll w' from hboth.1
  induction hw with
  | refl => exact ⟨h, hall⟩
  | tail _ hstep ih => exact ⟨ih.1.step ih.2 hstep, ih.2.step hstep⟩

omit [FileTable K] [CoreKeepsFds K] in
/-- No step changes the flag. -/
theorem tcpServerPortMap_steps {K : Type*} [Posix K] [McuCore K] {w w' : HostNetwork K}
    (hw : Relation.ReflTransGen Step w w') : w'.tcpServerPortMap = w.tcpServerPortMap := by
  induction hw with
  | refl => rfl
  | tail _ hstep ih =>
    refine Eq.trans ?_ ih
    cases hstep with
    | socket _ _ => rfl
    | core _ => rfl
    | marked _ _ => rfl

end HostNetwork

/-! ### Runs -/

namespace Sharing

open HostNetwork HostSocketInfo

variable {ι K L : Type*} [Posix K] [FileTable K] [McuCore K] [CoreKeepsFds K] [DecidableEq ι]
  [ServerSocketListener L]

/-- The rest of the process and the peers act, and leave the file descriptors that are
outstanding alone. -/
def LeavesCalls (x y : Sharing ι (Logged (Journaled K)) L) : Prop :=
  LeavesFds x y ∧ y.fleet.net.network.kernel.inner.calls = x.fleet.net.network.kernel.inner.calls

variable {x : Sharing ι (Logged (Journaled K)) L}

/-- **The system calls are made in order.**  In every run of any number of server sockets
and Ethernet servers on one network, whatever the system calls return, every one of them
is made for a file descriptor that is at the stage for it; the connections of the sockets
were accepted, and a listener with a port listens on the port that the flag has for it.
So it is when the chip is set up again. -/
theorem calls_inOrder {ports : ι → UInt16} {listeners : ι → L}
    {portMap : List (UInt16 × UInt16)} {k₀ : K} {log : List (SharedOp ι × Unit)}
    (h : Run exec LeavesCalls (fun _ _ => True)
      (start ports listeners portMap (⟨⟨k₀, []⟩, []⟩ : Logged (Journaled K))) log x) :
    let w := x.fleet.net.network
    InOrder w.kernel.inner.calls ∧
      (∀ n, n < kMaxSockets → Standing portMap w.kernel.stages (w.sockets n)) ∧
      ∀ e r, EthernetClass.setupW5500 e w = some r → InOrder r.2.kernel.inner.calls := by
  intro w
  obtain ⟨hsound, hall, hflag⟩ : Sound x ∧ AllProceed w ∧ w.tcpServerPortMap = portMap := by
    refine h.state_invariant (I := fun x => Sound x ∧ AllProceed x.fleet.net.network ∧
      x.fleet.net.network.tcpServerPortMap = portMap) ?_ ?_ ?_
    · have hstart := sound_start ports listeners portMap (⟨k₀, []⟩ : Journaled K)
      refine ⟨hstart, ⟨eachAfter_nil, fun n _ => ?_⟩, rfl⟩
      exact ⟨fun hl => absurd hl Bool.false_ne_true, fun _ => rfl,
        fun hc => absurd hc Bool.false_ne_true⟩
    · rintro y op r ⟨hy, hall, hflag⟩ _ hr
      obtain ⟨-, -, hsteps⟩ := steps_exec hy.ready hr
      exact ⟨hy.exec hr, hall.steps hy.holdsAll hsteps, (tcpServerPortMap_steps hsteps).trans hflag⟩
    · rintro y z ⟨hy, hall, hflag⟩ ⟨hyz, hcalls⟩
      have hz : Sound z := hy.outside hyz
      obtain ⟨k, -, rfl⟩ := hyz
      have hstages : k.stages = y.fleet.net.network.kernel.stages := congrArg SysCall.stages hcalls
      refine ⟨hz, ⟨?_, fun n hn => ?_⟩, hflag⟩
      · exact hcalls.symm ▸ hall.inOrder
      · exact (hall.standing n hn).congr fun fd _ => congrFun hstages fd
  refine ⟨hall.inOrder, hflag ▸ hall.standing, fun e r hr => ?_⟩
  rw [EthernetClass.eq_closeAllSockets hr]
  exact (hall.steps hsound.holdsAll (EthernetClass.steps_closeAllSockets w)).inOrder

/-- A server socket for port 81, and Ethernet servers; port 80 is mapped to port 8080, and a
peer waits. -/
def unusedJournaled : Sharing Unit (Logged (Journaled LocalKernel)) Scripted :=
  start (fun _ => 81) (fun _ => {}) [(80, 8080)] ⟨⟨{ waiting := [{ unread := [72] }] }, []⟩, []⟩

/-- An Ethernet server listens for port 80 on port 8080.  The server socket listens on
port 81, and is connected. -/
theorem calls_inOrder_mapped :
    ∃ log x, Run exec LeavesCalls (fun _ _ => True) unusedJournaled log x ∧
      let w := x.fleet.net.network
      (w.sockets 0).tcpPort = 80 ∧ w.kernel.stages 3 = .listening 8080 ∧
        w.kernel.stages 4 = .notOpen ∧ w.kernel.stages 5 = .connected ∧
        InOrder w.kernel.inner.calls := by
  let begun := (exec (.begin 80) unusedJournaled).get rfl
  let found := (exec .proceed begun.2).get (by decide +kernel)
  let listening := (exec .proceed found.2).get (by decide +kernel)
  let idle := (exec .finish listening.2).get (by decide +kernel)
  let picked := (exec (.call () .pickClosedSocket) idle.2).get (by decide +kernel)
  let polled := (exec (.call () .performIo) picked.2).get (by decide +kernel)
  have hbegun : exec (.begin 80) unusedJournaled = some begun := (Option.some_get _).symm
  have hfound : exec .proceed begun.2 = some found := (Option.some_get _).symm
  have hlistening : exec .proceed found.2 = some listening := (Option.some_get _).symm
  have hidle : exec .finish listening.2 = some idle := (Option.some_get _).symm
  have hpicked : exec (.call () .pickClosedSocket) idle.2 = some picked := (Option.some_get _).symm
  have hpolled : exec (.call () .performIo) picked.2 = some polled := (Option.some_get _).symm
  have hlistens : Run exec LeavesCalls (fun _ _ => True) unusedJournaled _ listening.2 :=
    ((Run.start.call trivial hbegun).call trivial hfound).call trivial hlistening
  have hrun : Run exec LeavesCalls (fun _ _ => True) unusedJournaled _ polled.2 :=
    ((hlistens.call trivial hidle).call trivial hpicked).call trivial hpolled
  refine ⟨_, polled.2, hrun, by decide +kernel, by decide +kernel, by decide +kernel,
    by decide +kernel, ?_⟩
  exact (calls_inOrder hrun).1

end Sharing
end McuNet
