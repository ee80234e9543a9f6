/-
# Sessions: a start, any number of middles, one end

Many callback interfaces promise the same shape of call sequence: a session is
opened, then any number of things happen in it, then it is over, and only after
that the next one may be opened.  A session may also end without a closing
signal, when the receiver of a signal ends it itself while it handles it; the
flag `last` of a signal says so.

`IsSession` is one complete session and `Follows` a prefix of a sequence of
them, the language `(start more* end)*` cut off anywhere.  `Phase.next` is the
two-state automaton of the language; `follows_of_foldlM` says that what the
automaton accepts is in it, which turns a statement about a whole sequence of
calls into an invariant of the automaton's state.
-/

import Mathlib.Data.List.Induction
import Mathlib.Data.List.Infix

namespace McuNet
namespace Session

/-- One call to the receiver; with `last` the receiver ended the session during
the call. -/
inductive Signal where
  | start (last : Bool)
  | more (last : Bool)
  | stop
  deriving DecidableEq, Repr

/-- Whether a session is open. -/
inductive Phase where
  | idle
  | active
  deriving DecidableEq, Repr

/-- The phase after a signal that has `last` set or not. -/
def Phase.after (last : Bool) : Phase := if last then .idle else .active

/-- The automaton of the protocol: `none` on a signal that is out of place. -/
def Phase.next : Phase → Signal → Option Phase
  | .idle, .start last => some (Phase.after last)
  | .active, .more last => some (Phase.after last)
  | .active, .stop => some .idle
  | _, _ => none

/-- A complete session: ended by the receiver in the first call, or opened and
ended later, by the receiver or by `stop`. -/
inductive IsSession : List Signal → Prop where
  | short : IsSession [.start true]
  | long (n : ℕ) {e : Signal} (he : e = .more true ∨ e = .stop) :
      IsSession (.start false :: (List.replicate n (.more false) ++ [e]))

/-- A prefix of a sequence of complete sessions. -/
def Follows (l : List Signal) : Prop :=
  ∃ ss : List (List Signal), (∀ s ∈ ss, IsSession s) ∧ l <+: ss.flatten

/-- What the automaton has read when it is in phase `p`: complete sessions, and
in the active phase an open one after them. -/
def ReadIn (l : List Signal) : Phase → Prop
  | .idle => ∃ ss : List (List Signal), (∀ s ∈ ss, IsSession s) ∧ l = ss.flatten
  | .active => ∃ (ss : List (List Signal)) (n : ℕ), (∀ s ∈ ss, IsSession s) ∧
      l = ss.flatten ++ .start false :: List.replicate n (.more false)

/-- A finished session is one more complete session. -/
theorem ReadIn.idle_of_session {l s : List Signal} {ss : List (List Signal)}
    (hss : ∀ s ∈ ss, IsSession s) (hs : IsSession s) (hl : l = ss.flatten ++ s) :
    ReadIn l .idle := by
  refine ⟨ss ++ [s], fun t ht => ?_, by simp [hl]⟩
  rcases List.mem_append.1 ht with ht | ht
  · exact hss t ht
  · exact List.mem_singleton.1 ht ▸ hs

/-- One signal keeps the reading. -/
theorem ReadIn.next {l : List Signal} {p q : Phase} {e : Signal} (h : ReadIn l p)
    (hq : p.next e = some q) : ReadIn (l ++ [e]) q := by
  cases p with
  | idle =>
    obtain ⟨ss, hss, rfl⟩ := h
    cases e with
    | start last =>
      obtain rfl := Option.some.inj hq
      cases last with
      | true => exact ReadIn.idle_of_session hss .short rfl
      | false => exact ⟨ss, 0, hss, rfl⟩
    | more last => cases hq
    | stop => cases hq
  | active =>
    obtain ⟨ss, n, hss, rfl⟩ := h
    cases e with
    | start last => cases hq
    | more last =>
      obtain rfl := Option.some.inj hq
      cases last with
      | true => exact ReadIn.idle_of_session hss (.long n (.inl rfl)) (by simp)
      | false => exact ⟨ss, n + 1, hss, by simp [List.replicate_succ']⟩
    | stop =>
      obtain rfl := Option.some.inj hq
      exact ReadIn.idle_of_session hss (.long n (.inr rfl)) (by simp)

/-- **What the automaton has read.** -/
theorem readIn_of_foldlM (l : List Signal) :
    ∀ {p : Phase}, l.foldlM Phase.next .idle = some p → ReadIn l p := by
  induction l using List.reverseRecOn with
  | nil =>
    intro p h
    obtain rfl := Option.some.inj h
    exact ⟨[], by simp, rfl⟩
  | append_singleton l e ih =>
    intro q h
    rw [List.foldlM_append] at h
    obtain ⟨p, hp, hq⟩ := Option.bind_eq_some_iff.1 h
    have hq : p.next e = some q := by simpa using hq
    exact (ih hp).next hq

/-- **What the automaton accepts follows the protocol.**  An open session is
completed by a `stop`. -/
theorem follows_of_foldlM {l : List Signal} {p : Phase}
    (h : l.foldlM Phase.next .idle = some p) : Follows l := by
  cases p with
  | idle =>
    obtain ⟨ss, hss, rfl⟩ := readIn_of_foldlM l h
    exact ⟨ss, hss, List.prefix_rfl⟩
  | active =>
    obtain ⟨ss, n, hss, rfl⟩ := readIn_of_foldlM l h
    obtain ⟨tt, htt, he⟩ := ReadIn.idle_of_session hss (.long n (.inr rfl)) rfl
    exact ⟨tt, htt, he ▸ ⟨[.stop], by simp⟩⟩

end Session
end McuNet
