/-
# Programs whose surroundings move on

The surroundings of a program may move on before each of its calls, and after the
last.  A call is made in a state in which `may` allows it, and it may end everything.
`promised` is what has to hold whenever an operation is called.

`Safe Q p s` says that a program that is about to run, or has run in part, keeps the
promises, and that `Q` holds of its value when it is done, also when the surroundings
have moved on since.  It is built from the last call to the first
(`Safe.of_done`, `Safe.of_call`, `Safe.bind`), and taken apart along a run
(`Safe.outside`, `Safe.promise`, `Safe.step`, `Safe.value`).
-/

import McuNet.Core.Program

namespace McuNet

/-- What a program can call, and what happens around it. -/
structure Surroundings (Op Res σ : Type*) where
  handle : Op → σ → Option (Res × σ)
  outside : σ → σ → Prop
  refl : ∀ s, outside s s
  trans : ∀ {s t u}, outside s t → outside t u → outside s u
  may : Op → σ → Prop
  promised : Op → σ → Prop

namespace Program

variable {Op Res α β σ : Type*}

/-- One program after the other. -/
def bind : Program Op Res α → (α → Program Op Res β) → Program Op Res β
  | .done a, f => f a
  | .call op next, f => .call op fun r => (next r).bind f

/-- The program keeps the promises, and ends in `Q`. -/
def Safe (E : Surroundings Op Res σ) (Q : α → σ → Prop) : Program Op Res α → σ → Prop
  | .done a, s => ∀ t, E.outside s t → Q a t
  | .call op next, s => ∀ t, E.outside s t →
      E.promised op t ∧ ∀ r, E.may op t → E.handle op t = some r → (next r.1).Safe E Q r.2

namespace Safe

variable {E : Surroundings Op Res σ} {Q : α → σ → Prop} {p : Program Op Res α} {s t : σ}

/-! ### Along a run -/

/-- What was safe stays so whatever happens outside. -/
theorem outside (h : p.Safe E Q s) (ht : E.outside s t) : p.Safe E Q t := by
  cases p with
  | done a => exact fun u hu => h u (E.trans ht hu)
  | call op next => exact fun u hu => h u (E.trans ht hu)

/-- A program that is done has its postcondition. -/
theorem value {a : α} (h : (.done a : Program Op Res α).Safe E Q s) : Q a s := h s (E.refl s)

/-- The next call is made as was promised. -/
theorem promise {op : Op} {next : Res → Program Op Res α}
    (h : (Program.call op next).Safe E Q s) : E.promised op s := (h s (E.refl s)).1

/-- **After a call the rest of the program is safe**, if the call went as it may. -/
theorem step {op : Op} {next : Res → Program Op Res α} (h : (Program.call op next).Safe E Q s)
    (hmay : E.may op s) {r : Res × σ} (hr : E.handle op s = some r) :
    (next r.1).Safe E Q r.2 := (h s (E.refl s)).2 r hmay hr

/-! ### How a program is shown to be safe -/

/-- What the surroundings keep. -/
def Stable (E : Surroundings Op Res σ) (P : σ → Prop) : Prop := ∀ s t, P s → E.outside s t → P t

/-- A value with a postcondition that nothing outside can break. -/
theorem of_done {a : α} (hQ : Stable E (Q a)) (h : Q a s) :
    (.done a : Program Op Res α).Safe E Q s := fun t ht => hQ s t h ht

/-- **The rule for a call**, from what is known before it. -/
theorem of_call {P : σ → Prop} (hP : Stable E P) {op : Op} {next : Res → Program Op Res α}
    (hs : P s) (hpromise : ∀ t, P t → E.promised op t)
    (hnext : ∀ t r, P t → E.may op t → E.handle op t = some r → (next r.1).Safe E Q r.2) :
    (Program.call op next).Safe E Q s :=
  fun t ht => ⟨hpromise t (hP s t hs ht), fun r => hnext t r (hP s t hs ht)⟩

/-- **The rule for one program after the other.** -/
theorem bind {Q' : β → σ → Prop} {f : α → Program Op Res β} (h : p.Safe E Q s)
    (hf : ∀ a t, Q a t → (f a).Safe E Q' t) : (p.bind f).Safe E Q' s := by
  induction p generalizing s with
  | done a => exact hf a s h.value
  | call op next ih =>
    intro t ht
    obtain ⟨hpromise, hnext⟩ := h t ht
    exact ⟨hpromise, fun r hmay hr => ih r.1 (hnext r hmay hr)⟩

end Safe

end Program

end McuNet
