/-
# Programs that call operations

A program over a set of operations is a tree: it is done with a value, or it
calls one operation and continues with a subtree for every reply.  A handler
runs the operations on a state; the tree is finite along every branch, so a run
always ends, but how many operations it makes, and which, may depend on every
reply it got.  It is the general form of "client code that may call the methods
of an object any number of times and in any order".

`Program.run_invariant` is the only rule the rest of the development needs: what
every operation preserves, every program preserves.
-/

import Mathlib.Tactic.TypeStar

namespace McuNet

/-- A program with operations in `Op`, replies in `Res` and a value in `α`. -/
inductive Program (Op Res α : Type*) where
  | done (a : α)
  | call (op : Op) (next : Res → Program Op Res α)

namespace Program

variable {Op Res α σ : Type*}

/-- Run a program on a state, each operation through the handler. -/
def run (handle : Op → σ → Res × σ) : Program Op Res α → σ → α × σ
  | .done a, s => (a, s)
  | .call op next, s => (next (handle op s).1).run handle (handle op s).2

/-- The program that makes the given calls in order and ignores the replies. -/
def script (ops : List Op) (a : α) : Program Op Res α :=
  ops.foldr (fun op p => .call op fun _ => p) (.done a)

variable {handle : Op → σ → Res × σ}

/-- **What every operation preserves, every program preserves.** -/
theorem run_invariant {I : σ → Prop} (h : ∀ op s, I s → I (handle op s).2)
    (p : Program Op Res α) {s : σ} (hs : I s) : I (p.run handle s).2 := by
  induction p generalizing s with
  | done a => exact hs
  | call op next ih => exact ih _ (h op s hs)

end Program

end McuNet
