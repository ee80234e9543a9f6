/-
# Undocumented status values

The `default` case of `ServerSocket::PerformIO`.

The chip sometimes reports a status byte that is not documented, and `PerformIO`
means to ignore it: it puts the remembered status back.  The comparison with the
remembered status comes before that, though, and takes every byte that is not
open for the end of an open connection.

A run of polls with some extra ones, whose status reads are undocumented, is
compared with the run without them.  What happens outside is a parameter: every
poll is made in a state of the platform of its own, and a poll that is not extra
is made in the same state in both runs.  The extra polls are invisible exactly
when none of them meets an open remembered status (`extraPolls_iff`).
-/

import McuNet.Core.History
import McuNet.Embedded.W5500

namespace McuNet
namespace ServerSocket

variable {W L : Type*} [Platform W] [ServerSocketListener L]

/-- A call of `PerformIO` in the given state of the platform; `extra` marks the
inserted ones. -/
structure PollAt (W : Type*) where
  net : W
  extra : Bool

/-- Polls one after the other, each in its own state of the platform. -/
def polls (x : ServerSocket W L) (l : List (PollAt W)) : ServerSocket W L :=
  l.foldl (fun y p => performIo { y with net := p.net }) x

/-- The status read of every extra poll returns an undocumented byte. -/
def ExtrasUndocumented (x : ServerSocket W L) (l : List (PollAt W)) : Prop :=
  ∀ p ∈ l, p.extra = true → (Platform.socketStatus x.sockNum p.net).1 ∉ SnSR.documented

instance (x : ServerSocket W L) (l : List (PollAt W)) : Decidable (x.ExtrasUndocumented l) :=
  inferInstanceAs (Decidable (∀ p ∈ l, _ → _))

/-- Every extra poll leaves the members of the server socket unchanged. -/
def ExtrasChangeNothing (x : ServerSocket W L) (l : List (PollAt W)) : Prop :=
  EachAfter (fun before p => p.extra = true →
    let y := x.polls before
    let z := x.polls (before ++ [p])
    z.sockNum = y.sockNum ∧ z.lastStatus = y.lastStatus ∧ z.disconnectData = y.disconnectData) l

/-- No extra poll meets an open remembered status. -/
def NoExtraWhileOpen (x : ServerSocket W L) (l : List (PollAt W)) : Prop :=
  EachAfter (fun before p => p.extra = true →
    ((x.polls before).hasSocket && statusIsOpen (x.polls before).lastStatus) = false) l

theorem polls_append (x : ServerSocket W L) (l : List (PollAt W)) (p : PollAt W) :
    x.polls (l ++ [p]) = performIo { x.polls l with net := p.net } := by
  rw [polls, List.foldl_append]
  rfl

theorem sockNum_polls (x : ServerSocket W L) (l : List (PollAt W)) :
    (x.polls l).sockNum = x.sockNum := by
  induction l using List.reverseRecOn with
  | nil => rfl
  | append_singleton l p ih =>
    rw [polls_append]
    exact (performIo_poll _).sockNum.trans ih

/-- The state of the platform in which a run starts does not matter to the
callbacks: every poll is made in its own. -/
theorem callbacks_polls_net (x : ServerSocket W L) (w : W) (l : List (PollAt W)) :
    (polls { x with net := w } l).callbacks = (x.polls l).callbacks := by
  cases l with
  | nil => rfl
  | cons p l => rfl

/-- **A poll of an undocumented byte**, when the remembered status is not open,
changes nothing. -/
theorem performIo_undocumented (x : ServerSocket W L)
    (hread : (Platform.socketStatus x.sockNum x.net).1 ∉ SnSR.documented)
    (hno : (x.hasSocket && statusIsOpen x.lastStatus) = false) :
    ∃ w, x.performIo = { x with net := w } := by
  have hread : x.refreshStatus.lastStatus ∉ SnSR.documented := hread
  have hwas (has : x.hasSocket = true) : statusIsOpen x.lastStatus ≠ true := by
    rw [has, Bool.true_and] at hno
    exact ne_of_eq_of_ne hno Bool.false_ne_true
  generalize hy : x.performIo = y
  cases hy ▸ x.performIo_poll with
  | released _ => exact ⟨x.net, rfl⟩
  | lost has was _ => exact absurd was (hwas has)
  | closed _ _ now => exact absurd (now ▸ by decide) hread
  | listening _ _ now =>
    rcases now with now | now
    · exact absurd (now ▸ by decide) hread
    · exact absurd (now ▸ by decide) hread
  | connected _ _ now => exact absurd (mem_documented_of_open now) hread
  | canRead has was _ => exact absurd was (hwas has)
  | closeWait has was _ => exact absurd was (hwas has)
  | closing _ _ now => exact absurd (mem_documented_of_closing now) hread
  | stuck _ _ _ known => exact absurd known hread
  | initializing _ _ now => exact absurd (now ▸ by decide) hread
  | undocumented _ _ _ => exact ⟨x.refreshStatus.net, rfl⟩

/-- A poll of an undocumented byte, when the remembered status is open, replaces
it. -/
theorem performIo_undocumented_open (x : ServerSocket W L)
    (hread : (Platform.socketStatus x.sockNum x.net).1 ∉ SnSR.documented)
    (hopen : (x.hasSocket && statusIsOpen x.lastStatus) = true) :
    x.performIo.lastStatus ≠ x.lastStatus := by
  obtain ⟨has, was⟩ := Bool.and_eq_true_iff.1 hopen
  have hno := statusIsOpen_of_not_documented hread
  have hlast : x.performIo.lastStatus = x.refreshStatus.lastStatus := by
    rw [performIo, if_pos has, dispatch, if_pos (by
      rw [was, show statusIsOpen x.refreshStatus.lastStatus = false from hno]; rfl)]
    rcases x.refreshStatus.noticeLoss_cases with ⟨-, heq⟩ | ⟨-, -, hlast, -, -⟩
    · rw [heq]
    · exact hlast
  intro heq
  have hread : x.refreshStatus.lastStatus ∉ SnSR.documented := hread
  rw [← hlast, heq] at hread
  exact hread (mem_documented_of_open was)

/-- While no extra poll meets an open status, the callbacks are those of the run
without the extra polls. -/
theorem callbacks_polls_filter (x : ServerSocket W L) (l : List (PollAt W))
    (hextra : x.ExtrasUndocumented l) (hno : x.NoExtraWhileOpen l) :
    (x.polls l).callbacks = (x.polls (l.filter fun p => !p.extra)).callbacks := by
  induction l generalizing x with
  | nil => rfl
  | cons p l ih =>
    have hx := hno [] p l rfl
    let y := performIo { x with net := p.net }
    have hextra' : y.ExtrasUndocumented l := by
      intro q hq
      rw [show y.sockNum = x.sockNum from (performIo_poll _).sockNum]
      exact hextra q (List.mem_cons_of_mem p hq)
    have hno' : y.NoExtraWhileOpen l := hno.tail
    have ih := ih y hextra' hno'
    cases hp : p.extra with
    | false =>
      rw [List.filter_cons_of_pos (by rw [hp]; rfl)]
      exact ih
    | true =>
      rw [List.filter_cons_of_neg (by rw [hp]; decide)]
      obtain ⟨w, hw⟩ := performIo_undocumented { x with net := p.net }
        (hextra p List.mem_cons_self hp) (hx hp)
      have hy : y = { x with net := w } := hw
      rw [hy] at ih
      show (y.polls l).callbacks = _
      rw [hy]
      exact ih.trans (callbacks_polls_net x w _)

/-- **When undocumented bytes are invisible.**  In any state, for any polls with
extra ones inserted anywhere whose status reads are undocumented: the extra polls
change nothing and the callbacks are the same as without them, if and only if no
extra poll meets an open remembered status. -/
theorem extraPolls_iff (x : ServerSocket W L) (l : List (PollAt W))
    (hextra : x.ExtrasUndocumented l) :
    (x.ExtrasChangeNothing l ∧
      (x.polls l).callbacks = (x.polls (l.filter fun p => !p.extra)).callbacks) ↔
    x.NoExtraWhileOpen l := by
  have hread (before : List (PollAt W)) (p : PollAt W) (after : List (PollAt W))
      (hl : l = before ++ p :: after) (hp : p.extra = true) :
      (Platform.socketStatus (x.polls before).sockNum p.net).1 ∉ SnSR.documented := by
    rw [sockNum_polls]
    exact hextra p (hl ▸ List.mem_append_right before List.mem_cons_self) hp
  constructor
  · rintro ⟨hsame, -⟩ before p after hl hp
    by_contra hopen
    refine performIo_undocumented_open { x.polls before with net := p.net }
      (hread before p after hl hp) (Bool.eq_true_of_not_eq_false hopen) ?_
    have := (hsame before p after hl hp).2.1
    rwa [polls_append] at this
  · intro hno
    refine ⟨fun before p after hl hp => ?_, x.callbacks_polls_filter l hextra hno⟩
    obtain ⟨w, hw⟩ := performIo_undocumented { x.polls before with net := p.net }
      (hread before p after hl hp) (hno before p after hl hp)
    rw [polls_append, hw]
    exact ⟨rfl, rfl, rfl⟩

/-- A poll with the given status on socket `0`. -/
def pollAt (status : UInt8) (extra : Bool) : PollAt (EmbeddedNetwork StatusChip) where
  net := ({ chip := {} } : EmbeddedNetwork StatusChip).turns 0 status
  extra := extra

/-- The extra poll comes after the peer has closed the connection. -/
theorem extraPolls_iff_closed :
    let l := [pollAt SnSR.closed false, pollAt 0x11 true, pollAt SnSR.established false]
    (accepted {}).ExtrasChangeNothing l ∧
      ((accepted {}).polls l).callbacks =
        ((accepted {}).polls (l.filter fun p => !p.extra)).callbacks := by
  intro l
  refine (extraPolls_iff (accepted {}) l (by decide)).2 ?_
  have hl : l = (([] ++ [pollAt SnSR.closed false]) ++ [pollAt 0x11 true]) ++
    [pollAt SnSR.established false] := rfl
  rw [NoExtraWhileOpen, hl, eachAfter_append, eachAfter_append, eachAfter_append]
  exact ⟨⟨⟨eachAfter_nil, by decide⟩, by decide⟩, by decide⟩

/-- **An undocumented byte that ends a connection.**  The poll of `0x11` in the
middle of an established connection makes the listener believe that it ended,
and the next one announces the same connection again. -/
theorem extraPolls_counterexample :
    ¬ ∀ (x : ServerSocket (EmbeddedNetwork StatusChip) Scripted) (l : List (PollAt _)),
      Reaches (fun _ _ => True) (fun _ _ => True) x → x.ExtrasUndocumented l →
      x.ExtrasChangeNothing l ∧
        (x.polls l).callbacks = (x.polls (l.filter fun p => !p.extra)).callbacks := by
  intro h
  have hextra : (accepted {}).ExtrasUndocumented
      [pollAt 0x11 true, pollAt SnSR.established false] := by decide
  have := (h (accepted {}) _ (reaches_accepted {} (fun _ => trivial) (fun _ => trivial)) hextra).2
  exact absurd this (by decide)

end ServerSocket
end McuNet
