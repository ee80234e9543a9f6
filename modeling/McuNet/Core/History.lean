/-
# Histories

A history is a list that grows at its end.  `EachAfter P l` says that every
entry of `l` stands in the relation `P` to the entries before it; it is what
"never", "only after" and "at most once" become for a log of events.  A new entry
has to be checked against the history so far and nothing else
(`eachAfter_append`).
-/

import Mathlib.Data.List.Induction

namespace McuNet

variable {α : Type*} {P : List α → α → Prop}

/-- Every entry of `l` is in the relation `P` to what stands before it. -/
def EachAfter (P : List α → α → Prop) (l : List α) : Prop :=
  ∀ before a after, l = before ++ a :: after → P before a

@[simp] theorem eachAfter_nil : EachAfter P [] := by
  intro before a after h
  exact absurd h (by simp)

/-- **The rule for a new entry.** -/
theorem eachAfter_append {l : List α} {a : α} :
    EachAfter P (l ++ [a]) ↔ EachAfter P l ∧ P l a := by
  constructor
  · intro h
    refine ⟨fun before b after hl => h before b (after ++ [a]) ?_, h l a [] rfl⟩
    rw [hl, List.append_assoc, List.cons_append]
  · rintro ⟨h, ha⟩ before b after hl
    rcases List.eq_nil_or_concat after with rfl | ⟨after, c, rfl⟩
    · obtain ⟨rfl, hb⟩ := List.append_inj' hl rfl
      exact List.singleton_inj.1 hb ▸ ha
    · rw [List.concat_eq_append, ← List.cons_append, ← List.append_assoc] at hl
      exact h before b after (List.append_inj' hl rfl).1

/-- A history of one more entry at the front. -/
theorem EachAfter.tail {l : List α} {a : α} (h : EachAfter P (a :: l)) :
    EachAfter (fun before b => P (a :: before) b) l := fun before b after hl =>
  h (a :: before) b after (congrArg (a :: ·) hl)

end McuNet
