/-
# What a status poll of a host socket says

`HostSocketInfo::SocketStatus` and `HostSocketInfo::IsConnectionHalfClosed`.

`SocketStatus` accepts a connection that waits, and probes the connection that there
is for one byte.  The probe takes a byte and the end of the stream for the only
answers of `recv`: on an open connection on which nothing has arrived yet, and on one
that was reset, a `CHECK` fails and the process ends.  When the end of the stream was
noticed before there is no probe.  In all other states the poll returns, and tells the
truth (`pollsRight_iff`).
-/

import McuNet.Host.Fields

namespace McuNet
namespace HostSocketInfo

variable {K : Type*} [Posix K] [StreamKernel K]

/-- What the status of a socket should be: a connection is half closed at the end of
the stream, and established before. -/
def trueStatus (x : HostSocketInfo × K) : UInt8 :=
  if haveFd x.1.connectionSocketFd then
    if (stream x).AtEnd then kStatusCloseWait else kStatusEstablished
  else if haveFd x.1.listenerSocketFd then kStatusListening
  else kStatusClosed

/-- **A poll is right**: both calls return, and the status is that of the socket once
it has accepted a connection that waits. -/
structure PollsRight (x : HostSocketInfo × K) : Prop where
  halfClosed : (x.1.isConnectionHalfClosed x.2).isSome = true
  status : (x.1.socketStatus x.2).map Prod.fst = some (trueStatus (x.1.acceptConnection x.2).2)

/-- The connection, if there is one, can be told from its next byte: there is one, or
the end of the stream, which is all that is left when the connection is not taken to be
readable any more. -/
def Tellable (x : HostSocketInfo × K) : Prop :=
  haveFd x.1.connectionSocketFd = true →
    if x.1.canReadFromConnection then
      (stream x).broken = false ∧ ((stream x).unread ≠ [] ∨ (stream x).shutdown = true)
    else (stream x).AtEnd

variable {x : HostSocketInfo × K}

/-- A socket without a connection needs no probe. -/
theorem tellable_of_notOpen (h : haveFd x.1.connectionSocketFd = false) : Tellable x :=
  fun hc => absurd (h.symm.trans hc) Bool.false_ne_true

/-- **The probe of a connection.** -/
theorem probe_iff (hc : haveFd x.1.connectionSocketFd = true) :
    ((x.1.isConnectionHalfClosed x.2).isSome = true ∧
      (x.1.connectionStatus x.2).map Prod.fst = some (trueStatus x)) ↔ Tellable x := by
  have htrue : trueStatus x = if (stream x).AtEnd then kStatusCloseWait else kStatusEstablished :=
    if_pos hc
  have htell : Tellable x ↔ if x.1.canReadFromConnection then
      (stream x).broken = false ∧ ((stream x).unread ≠ [] ∨ (stream x).shutdown = true)
      else (stream x).AtEnd := ⟨fun h => h hc, fun h _ => h⟩
  rw [connectionStatus, isConnected, if_pos hc, htell, htrue]
  have hprobe := isConnectionHalfClosed_stream x
  generalize x.1.isConnectionHalfClosed x.2 = r at hprobe
  cases hprobe with
  | notOpen h => exact absurd (h.symm.trans hc) Bool.false_ne_true
  | known _ known =>
    simp only [known, Bool.false_eq_true, if_false]
    refine ⟨fun hright => ?_, fun hend => ⟨rfl, congrArg some (if_pos hend).symm⟩⟩
    by_contra hend
    have hstatus := Option.some.inj hright.2
    rw [if_neg hend] at hstatus
    exact absurd hstatus (show kStatusCloseWait ≠ kStatusEstablished by decide)
  | byte h live waiting after =>
    rw [if_pos h.2]
    have hnot : ¬(stream x).AtEnd := fun hend => waiting hend.1
    exact iff_of_true ⟨rfl, congrArg some (if_neg hnot).symm⟩ ⟨live, .inl waiting⟩
  | ended h live atEnd after =>
    rw [if_pos h.2]
    exact iff_of_true ⟨rfl, congrArg some (if_pos atEnd).symm⟩ ⟨live, .inr atEnd.2⟩
  | nothing h live empty more =>
    rw [if_pos h.2]
    refine iff_of_false (fun hright => Bool.false_ne_true hright.1) fun htell => ?_
    rcases htell.2 with hwaiting | hshut
    · exact hwaiting empty
    · exact Bool.false_ne_true (more.symm.trans hshut)
  | lost h broken =>
    rw [if_pos h.2]
    refine iff_of_false (fun hright => Bool.false_ne_true hright.1) fun htell => ?_
    exact Bool.false_ne_true (htell.1.symm.trans broken)

/-- The members say whether the socket listens. -/
theorem FieldsAgree.listening {s : HostSocketInfo} (h : s.FieldsAgree)
    (hl : haveFd s.listenerSocketFd = true) :
    s.isUnused = some false ∧ s.isTcpListener = some s.tcpPort ∧ s.tcpPort ≠ 0 ∧
      haveFd s.connectionSocketFd = false := by
  have htcp : s.tcpPort ≠ 0 := h.ports.1 (haveFd_iff.1 hl)
  have hmapped : s.mappedTcpPort ≠ 0 := h.mapped.1 htcp
  have hc : haveFd s.connectionSocketFd = false :=
    haveFd_eq_false_iff.2 fun hc => h.exclusive ⟨haveFd_iff.1 hl, hc⟩
  have htcp' : 0 < s.tcpPort := UInt16.pos_iff_ne_zero.2 htcp
  have hmapped' : 0 < s.mappedTcpPort := UInt16.pos_iff_ne_zero.2 hmapped
  refine ⟨?_, ?_, htcp, hc⟩
  · rw [HostSocketInfo.isUnused, if_pos hl, if_pos ⟨htcp', hmapped', hc⟩]
  · rw [isTcpListener, if_pos hl, if_pos htcp']

theorem FieldsAgree.connected {s : HostSocketInfo} (h : s.FieldsAgree)
    (hl : haveFd s.listenerSocketFd = false) :
    s.isUnused = some (!haveFd s.connectionSocketFd) ∧ s.isTcpListener = some 0 := by
  have hl' := haveFd_eq_false_iff.1 hl
  have htcp : s.tcpPort = 0 := by_contra fun hne => hl' (h.ports.2 hne)
  have hmapped : s.mappedTcpPort = 0 := by_contra fun hne => h.mapped.2 hne htcp
  refine ⟨?_, ?_⟩
  · rw [HostSocketInfo.isUnused, hl, if_neg Bool.false_ne_true, if_pos ⟨htcp, hmapped⟩]
  · rw [isTcpListener, hl, if_neg Bool.false_ne_true, if_pos htcp]

section AnyKernel

omit [StreamKernel K]

/-- `SocketStatus` of a listener accepts what it can. -/
theorem FieldsAgree.socketStatus_listening (h : x.1.FieldsAgree)
    (hl : haveFd x.1.listenerSocketFd = true) :
    x.1.socketStatus x.2 =
      if (x.1.acceptConnection x.2).1 = true then
        (x.1.acceptConnection x.2).2.1.connectionStatus (x.1.acceptConnection x.2).2.2
      else some (kStatusListening, (x.1.acceptConnection x.2).2) := by
  obtain ⟨hunused, hport, hne, -⟩ := h.listening hl
  simp only [socketStatus, hunused, hport]
  exact if_pos hne

/-- `SocketStatus` without a listener. -/
theorem FieldsAgree.socketStatus_connected (h : x.1.FieldsAgree)
    (hl : haveFd x.1.listenerSocketFd = false) :
    x.1.socketStatus x.2 =
      if haveFd x.1.connectionSocketFd = true then x.1.connectionStatus x.2
      else some (kStatusClosed, x) := by
  obtain ⟨hunused, hport⟩ := h.connected hl
  split_ifs with hc
  · simp only [socketStatus, hunused, hport, hc, Bool.not_true]
    exact if_neg fun h0 => h0 rfl
  · simp only [socketStatus, hunused, Bool.eq_false_of_not_eq_true hc, Bool.not_false]

/-- Without a connection there is nothing to probe. -/
theorem isSome_probe_of_notOpen (hc : haveFd x.1.connectionSocketFd = false) :
    (x.1.isConnectionHalfClosed x.2).isSome = true := by
  rw [isConnectionHalfClosed, hc, if_neg Bool.false_ne_true]
  rfl

/-- The status of a connection is not read without a probe. -/
theorem isSome_probe_of_status (hc : haveFd x.1.connectionSocketFd = true) {status : UInt8}
    (h : (x.1.connectionStatus x.2).map Prod.fst = some status) :
    (x.1.isConnectionHalfClosed x.2).isSome = true := by
  obtain ⟨r, hr, -⟩ := Option.map_eq_some_iff.1 h
  rw [connectionStatus, isConnected, if_pos hc] at hr
  obtain ⟨half, hhalf, -⟩ := Option.map_eq_some_iff.1 hr
  exact Option.isSome_iff_exists.2 ⟨half, hhalf⟩

end AnyKernel

/-- **A poll of a socket whose members agree.** -/
theorem FieldsAgree.polls_iff (h : x.1.FieldsAgree) :
    PollsRight x ↔ Tellable (x.1.acceptConnection x.2).2 := by
  rw [show PollsRight x ↔ _ from ⟨fun hright => And.intro hright.halfClosed hright.status,
    fun hboth => ⟨hboth.1, hboth.2⟩⟩]
  cases hl : haveFd x.1.listenerSocketFd with
  | true =>
    have hprobe := isSome_probe_of_notOpen (h.listening hl).2.2.2
    rw [h.socketStatus_listening hl]
    have hcases := x.1.acceptConnection_cases x.2
    generalize x.1.acceptConnection x.2 = a at hcases
    cases hcases with
    | noListener hno => exact absurd (hno.symm.trans hl) Bool.false_ne_true
    | nothing _ hno =>
      rw [if_neg Bool.false_ne_true]
      refine iff_of_true ⟨hprobe, congrArg some ?_⟩ (tellable_of_notOpen hno)
      rw [trueStatus]
      simp only [hno, hl, Bool.false_eq_true, if_true, if_false]
    | accepted _ hfd =>
      rw [if_pos rfl]
      refine Iff.trans ⟨fun hright => ⟨?_, hright.2⟩, fun hright => ⟨hprobe, hright.2⟩⟩
        (probe_iff hfd)
      exact isSome_probe_of_status hfd hright.2
  | false =>
    rw [acceptConnection_of_noListener hl, h.socketStatus_connected hl]
    split_ifs with hc
    · exact probe_iff hc
    · have hno := Bool.eq_false_of_not_eq_true hc
      refine iff_of_true ⟨isSome_probe_of_notOpen hno, congrArg some ?_⟩ (tellable_of_notOpen hno)
      rw [trueStatus]
      simp only [hno, hl, Bool.false_eq_true, if_false]

/-- **Polls of a host socket.**  In every run of a host socket in which
`InitializeTcpListener` leaves no listener behind, and at every point of it, a poll
returns and tells the truth if and only if the connection that there is, or that
waits to be accepted, can be told from its next byte. -/
theorem pollsRight_iff {portMap : List (UInt16 × UInt16)} {k₀ : K} {log : List (Op × Answer)}
    (h : Run (perform portMap) (Beside fun _ _ => True)
      (fun x op => PortsNonzero portMap op ∧ ¬LeavesListener portMap x op) ({}, k₀) log x) :
    PollsRight x ↔ Tellable (x.1.acceptConnection x.2).2 :=
  (fieldsAgree_iff h).1.polls_iff

/-- A connection is accepted on which nothing has arrived yet: the poll that accepts it
ends the process. -/
theorem pollsRight_counterexample :
    (listening80 [{}]).1.socketStatus (listening80 [{}]).2 = none ∧
      ¬PollsRight (listening80 [{}]) := by
  have hnone : (listening80 [{}]).1.socketStatus (listening80 [{}]).2 = none := rfl
  refine ⟨hnone, fun h => ?_⟩
  have hstatus := h.status
  rw [hnone] at hstatus
  exact absurd hstatus nofun

/-- A connection is accepted on which two bytes have arrived. -/
theorem pollsRight_iff_twoBytes : PollsRight (listening80 [{ unread := [72, 105] }]) :=
  (pollsRight_iff (run_listening80 _)).2 fun _ => ⟨rfl, .inl (List.cons_ne_nil _ _)⟩

end HostSocketInfo
end McuNet
