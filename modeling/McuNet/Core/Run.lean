/-
# Runs of an object in its surroundings

An object has operations, which may fail to return, and what surrounds it moves on
between them.  A run is a finite sequence of both.  `Run` keeps the log of the
operations and their results; every operation of the run is made in a state in
which `ok` allows it, so that `Run` with a condition is "every run whose steps all
meet the condition".

`Run.invariant` is the rule for what holds at every point of a run, and `Run.progress`
the one for what is used up in it.  Two objects of which one is seen in the other have
the same runs (`Abstracts.run_iff`).
-/

import Mathlib.Tactic.TypeStar

namespace McuNet

variable {σ Op Res : Type*}

/-- A run from `start`, with its log and the state it has reached.  `exec` is what an
operation returns and leaves behind, if it returns, and `outside` what may happen
between two operations. -/
inductive Run (exec : Op → σ → Option (Res × σ)) (outside : σ → σ → Prop)
    (ok : σ → Op → Prop) (start : σ) : List (Op × Res) → σ → Prop where
  | start : Run exec outside ok start [] start
  | call {log x op r} (before : Run exec outside ok start log x) (meets : ok x op)
      (result : exec op x = some r) : Run exec outside ok start (log ++ [(op, r.1)]) r.2
  | outside {log x y} (before : Run exec outside ok start log x) (moves : outside x y) :
      Run exec outside ok start log y

namespace Run

variable {exec : Op → σ → Option (Res × σ)} {outside : σ → σ → Prop} {ok : σ → Op → Prop}
  {start x : σ} {log : List (Op × Res)}

/-- **What holds of a log and a state at every point of a run.** -/
theorem invariant {I : List (Op × Res) → σ → Prop} (h : Run exec outside ok start log x)
    (hstart : I [] start)
    (hcall : ∀ log x op r, I log x → ok x op → exec op x = some r → I (log ++ [(op, r.1)]) r.2)
    (houtside : ∀ log x y, I log x → outside x y → I log y) : I log x := by
  induction h with
  | start => exact hstart
  | call _ meets result ih => exact hcall _ _ _ _ ih meets result
  | outside _ moves ih => exact houtside _ _ _ ih moves

/-- What holds of a state at every point of a run. -/
theorem state_invariant {I : σ → Prop} (h : Run exec outside ok start log x) (hstart : I start)
    (hcall : ∀ x op r, I x → ok x op → exec op x = some r → I r.2)
    (houtside : ∀ x y, I x → outside x y → I y) : I x :=
  h.invariant (I := fun _ => I) hstart (fun _ => hcall) (fun _ => houtside)

/-- **The rule for progress.**  What every operation lowers, as long as there is
something left of it, is used up after as many operations. -/
theorem progress {I : σ → Prop} (left : σ → Nat) (h : Run exec outside ok start log x)
    (hstart : I start)
    (hcall : ∀ x op r, I x → ok x op → exec op x = some r → I r.2 ∧ left r.2 ≤ left x - 1)
    (houtside : ∀ x y, I x → outside x y → I y ∧ left y ≤ left x) :
    I x ∧ left x ≤ left start - log.length := by
  refine h.invariant (I := fun log x => I x ∧ left x ≤ left start - log.length)
    ⟨hstart, Nat.le_refl _⟩ ?_ ?_
  · rintro log x op r ⟨hx, hleft⟩ hok hr
    obtain ⟨hr, hlower⟩ := hcall x op r hx hok hr
    refine ⟨hr, ?_⟩
    rw [List.length_append, List.length_singleton]
    omega
  · rintro log x y ⟨hx, hleft⟩ hxy
    obtain ⟨hy, hlower⟩ := houtside x y hx hxy
    exact ⟨hy, Nat.le_trans hlower hleft⟩

end Run

/-! ### One object seen in another -/

variable {τ : Type*}

/-- **In the states `I`, an object is seen in another** through `view`: a call returns the
same, or does not return, in both, and what may happen to one may happen to the other. -/
structure Abstracts (view : σ → τ) (I : σ → Prop) (exec : Op → σ → Option (Res × σ))
    (outside : σ → σ → Prop) (exec' : Op → τ → Option (Res × τ)) (outside' : τ → τ → Prop) :
    Prop where
  commutes : ∀ x op, I x → (exec op x).map (fun r => (r.1, view r.2)) = exec' op (view x)
  keeps : ∀ x op r, I x → exec op x = some r → I r.2
  forth : ∀ x y, I x → outside x y → I y ∧ outside' (view x) (view y)
  back : ∀ x v, I x → outside' (view x) v → ∃ y, outside x y ∧ view y = v

namespace Abstracts

variable {view : σ → τ} {I : σ → Prop} {exec : Op → σ → Option (Res × σ)}
  {outside : σ → σ → Prop} {exec' : Op → τ → Option (Res × τ)} {outside' : τ → τ → Prop}
  {ok : τ → Op → Prop} {start : σ} {log : List (Op × Res)}

/-- A run as it is seen. -/
theorem run_view (h : Abstracts view I exec outside exec' outside') (hstart : I start) {x : σ}
    (hx : Run exec outside (fun x op => ok (view x) op) start log x) :
    I x ∧ Run exec' outside' ok (view start) log (view x) := by
  induction hx with
  | start => exact ⟨hstart, .start⟩
  | @call _ x op r _ meets result ih =>
    have hseen : exec' op (view x) = some (r.1, view r.2) := by
      rw [← h.commutes x op ih.1, result]
      rfl
    exact ⟨h.keeps x op r ih.1 result, ih.2.call meets hseen⟩
  | @outside _ x y _ moves ih =>
    obtain ⟨hy, hseen⟩ := h.forth x y ih.1 moves
    exact ⟨hy, ih.2.outside hseen⟩

/-- **Both objects have the same runs.** -/
theorem run_iff (h : Abstracts view I exec outside exec' outside') (hstart : I start) {v : τ} :
    Run exec' outside' ok (view start) log v ↔
      ∃ x, Run exec outside (fun x op => ok (view x) op) start log x ∧ I x ∧ view x = v := by
  constructor
  · intro hv
    induction hv with
    | start => exact ⟨start, .start, hstart, rfl⟩
    | @call _ _ op r _ meets result ih =>
      obtain ⟨x, hx, hI, rfl⟩ := ih
      rw [← h.commutes x op hI] at result
      cases hr : exec op x with
      | none => exact absurd (hr ▸ result) nofun
      | some q =>
        rw [hr] at result
        obtain rfl := Option.some.inj result
        exact ⟨q.2, hx.call meets hr, h.keeps x op q hI hr, rfl⟩
    | outside _ moves ih =>
      obtain ⟨x, hx, hI, rfl⟩ := ih
      obtain ⟨y, hy, rfl⟩ := h.back x _ hI moves
      exact ⟨y, hx.outside hy, (h.forth x y hI hy).1, rfl⟩
  · rintro ⟨x, hx, -, rfl⟩
    exact (h.run_view hstart hx).2

end Abstracts

end McuNet
