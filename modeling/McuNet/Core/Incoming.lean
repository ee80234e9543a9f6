/-
# The receiving side of a stream

What a peer sends waits in a queue until it is taken out.  `Incoming` has what was
taken out and what is waiting; together they are what was sent.  More may arrive, the
peer may shut its side down, after which it sends nothing, and reading may begin to fail
because the connection is broken (`Arrives`); only the receiver takes out, from the front
(`Incoming.take`).
-/

import Mathlib.Data.List.Infix

namespace McuNet

/-- What was taken out of a stream, what is waiting, whether the peer has shut down its
side, and whether the connection is broken: that is not what the peer has done, but that
reading reports an error from now on.  A connection that a peer has reset while bytes were
waiting is `broken` once these were taken out. -/
structure Incoming (α : Type*) where
  taken : List α := []
  unread : List α := []
  shutdown : Bool := false
  broken : Bool := false
  deriving DecidableEq, Repr

namespace Incoming

variable {α : Type*} {i j l : Incoming α}

/-- What the peer has sent. -/
def sent (i : Incoming α) : List α := i.taken ++ i.unread

/-- The end of the stream: nothing is waiting, and nothing will come. -/
def AtEnd (i : Incoming α) : Prop := i.unread = [] ∧ i.shutdown = true

instance [DecidableEq α] (i : Incoming α) : Decidable i.AtEnd :=
  inferInstanceAs (Decidable (_ ∧ _))

/-- Take out the first `n`, or as many as there are. -/
def take (n : ℕ) (i : Incoming α) : Incoming α :=
  { i with taken := i.taken ++ i.unread.take n, unread := i.unread.drop n }

@[simp] theorem take_zero (i : Incoming α) : i.take 0 = i := by
  simp only [take, List.take_zero, List.append_nil, List.drop_zero]

/-- What may happen to a stream while nothing is taken out of it. -/
structure Arrives (i j : Incoming α) : Prop where
  taken : j.taken = i.taken
  unread : i.unread <+: j.unread
  shutdown : i.shutdown = true → j.shutdown = true ∧ j.unread = i.unread
  broken : i.broken = true → j.broken = true

theorem Arrives.refl (i : Incoming α) : i.Arrives i := ⟨rfl, List.prefix_rfl, fun h => ⟨h, rfl⟩, id⟩

theorem Arrives.trans (h : i.Arrives j) (h' : j.Arrives l) : i.Arrives l where
  taken := h'.taken.trans h.taken
  unread := h.unread.trans h'.unread
  shutdown hs :=
    ⟨(h'.shutdown (h.shutdown hs).1).1, (h'.shutdown (h.shutdown hs).1).2.trans (h.shutdown hs).2⟩
  broken := h'.broken ∘ h.broken

/-- The end of the stream is the end. -/
theorem Arrives.atEnd (h : i.Arrives j) (he : i.AtEnd) : j.AtEnd :=
  ⟨(h.shutdown he.2).2.trans he.1, (h.shutdown he.2).1⟩

end Incoming

end McuNet
