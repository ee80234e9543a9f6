/-
# Texts of entries, and maps built one entry at a time

A text is split at every separator, where empty pieces are left out (`pieces`), or at
the first one (`halves`).  Both undo what puts the text together, as long as the
separator is not in the parts (`pieces_intercalate`, `halves_append`).

A map is filled with one entry after the other, and the first key that is there
already ends it (`emplaceAll`).  This succeeds if and only if no key is there twice
(`isSome_emplaceAll`), the order of the entries makes no difference (`emplaceAll_perm`),
and the entries of a map build the map (`emplaceAll_toList`).
-/

import Mathlib

namespace McuNet

/-! ### Texts -/

section Texts

variable {α : Type*} [DecidableEq α] {sep : α}

/-- The pieces of a text between separators, less the empty ones. -/
def pieces (sep : α) (text : List α) : List (List α) := (text.splitOn sep).filter (· ≠ [])

/-- The text before the first separator, and the text after it. -/
def halves (sep : α) (text : List α) : List α × List α :=
  (text.takeWhile (· ≠ sep), (text.dropWhile (· ≠ sep)).drop 1)

/-- **The pieces of a text that was put together** are what it was put together from. -/
theorem pieces_intercalate {parts : List (List α)} (hne : ∀ part ∈ parts, part ≠ [])
    (hsep : ∀ part ∈ parts, sep ∉ part) : pieces sep ([sep].intercalate parts) = parts := by
  have hall : parts.filter (· ≠ []) = parts :=
    List.filter_eq_self.2 fun part hpart => decide_eq_true (hne part hpart)
  by_cases hnil : parts = []
  · subst hnil
    rfl
  · rw [pieces, List.splitOn_intercalate sep hsep hnil, hall]

theorem halves_append {a b : List α} (h : sep ∉ a) : halves sep (a ++ sep :: b) = (a, b) := by
  have hne : ∀ x ∈ a, decide (x ≠ sep) = true := by
    intro x hx
    exact decide_eq_true fun heq => h (heq ▸ hx)
  rw [halves, List.takeWhile_append_of_pos hne, List.dropWhile_append_of_pos hne]
  simp

end Texts

/-! ### Maps -/

section Maps

open Std

variable {α β : Type*} {cmp : α → α → Ordering} [TransCmp cmp] [LawfulEqCmp cmp]
  {m : ExtTreeMap α β cmp} {l : List (α × β)}

/-- Put entries into a map until one of them is there already. -/
def emplaceAll : List (α × β) → ExtTreeMap α β cmp → Option (ExtTreeMap α β cmp)
  | [], m => some m
  | (k, v) :: rest, m => if k ∈ m then none else emplaceAll rest (m.insert k v)

/-- The entries can be put into the map: no key is there twice. -/
structure Fresh (l : List (α × β)) (m : ExtTreeMap α β cmp) : Prop where
  nodup : (l.map Prod.fst).Nodup
  not_mem : ∀ k ∈ l.map Prod.fst, k ∉ m

theorem fresh_cons {k : α} {v : β} : Fresh ((k, v) :: l) m ↔ k ∉ m ∧ Fresh l (m.insert k v) := by
  constructor
  · rintro ⟨hnodup, hnot⟩
    obtain ⟨hk, hrest⟩ := List.nodup_cons.1 hnodup
    refine ⟨hnot k List.mem_cons_self, hrest, fun j hj hmem => ?_⟩
    rcases ExtTreeMap.mem_insert.1 hmem with heq | hm
    · exact hk (LawfulEqCmp.eq_of_compare heq ▸ hj)
    · exact hnot j (List.mem_cons_of_mem _ hj) hm
  · rintro ⟨hk, hnodup, hnot⟩
    have hnew : k ∉ l.map Prod.fst := fun hmem => hnot k hmem ExtTreeMap.mem_insert_self
    refine ⟨List.nodup_cons.2 ⟨hnew, hnodup⟩, fun j hj hm => ?_⟩
    rcases List.mem_cons.1 hj with rfl | hj
    · exact hk hm
    · exact hnot j hj (ExtTreeMap.mem_insert.2 (.inr hm))

omit [LawfulEqCmp cmp] in
theorem fresh_empty : Fresh l (∅ : ExtTreeMap α β cmp) ↔ (l.map Prod.fst).Nodup :=
  ⟨fun h => h.nodup, fun h => ⟨h, fun _ _ => ExtTreeMap.not_mem_empty⟩⟩

/-- **Filling a map succeeds if and only if no key is there twice.** -/
theorem isSome_emplaceAll : (emplaceAll l m).isSome ↔ Fresh l m := by
  induction l generalizing m with
  | nil => exact iff_of_true rfl ⟨List.nodup_nil, nofun⟩
  | cons e rest ih =>
    rw [fresh_cons, ← ih, emplaceAll]
    by_cases hk : e.1 ∈ m
    · rw [if_pos hk]
      exact iff_of_false nofun fun h => h.1 hk
    · rw [if_neg hk, and_iff_right hk]

/-- **What is in the map in the end**: what was put in, and what was there before. -/
theorem getElem?_emplaceAll {m' : ExtTreeMap α β cmp} (h : emplaceAll l m = some m') (k : α)
    (v : β) : m'[k]? = some v ↔ (k, v) ∈ l ∨ m[k]? = some v := by
  induction l generalizing m with
  | nil =>
    obtain rfl := Option.some.inj h
    exact (or_iff_right List.not_mem_nil).symm
  | cons e rest ih =>
    have hfresh : Fresh (e :: rest) m := isSome_emplaceAll.1 (h ▸ rfl)
    have hnone : m[e.1]? = none := ExtTreeMap.getElem?_eq_none (fresh_cons.1 hfresh).1
    rw [emplaceAll, if_neg (fresh_cons.1 hfresh).1] at h
    rw [ih h, List.mem_cons, or_assoc, or_left_comm]
    refine or_congr_right ?_
    rw [ExtTreeMap.getElem?_insert]
    by_cases hk : cmp e.1 k = .eq
    · obtain rfl := LawfulEqCmp.eq_of_compare hk
      rw [if_pos hk, hnone, Option.some.injEq]
      simp [Prod.ext_iff, eq_comm]
    · have hne : k ≠ e.1 := by
        rintro rfl
        exact hk ReflCmp.compare_self
      rw [if_neg hk]
      simp [Prod.ext_iff, hne]

/-- **The order of the entries** makes no difference. -/
theorem emplaceAll_perm {l' : List (α × β)} (h : l.Perm l') : emplaceAll l m = emplaceAll l' m := by
  have hfresh : Fresh l m ↔ Fresh l' m := by
    have hmap := h.map Prod.fst
    exact ⟨fun hf => ⟨hmap.nodup_iff.1 hf.nodup, fun k hk => hf.not_mem k (hmap.mem_iff.2 hk)⟩,
      fun hf => ⟨hmap.nodup_iff.2 hf.nodup, fun k hk => hf.not_mem k (hmap.mem_iff.1 hk)⟩⟩
  rw [← isSome_emplaceAll, ← isSome_emplaceAll] at hfresh
  cases hl : emplaceAll l m with
  | none =>
    rw [hl] at hfresh
    exact (Option.not_isSome_iff_eq_none.1 (mt hfresh.2 nofun)).symm
  | some n =>
    rw [hl] at hfresh
    obtain ⟨n', hn'⟩ := Option.isSome_iff_exists.1 (hfresh.1 rfl)
    rw [hn']
    refine congrArg some (ExtTreeMap.ext_getElem? fun k => Option.ext fun v => ?_)
    rw [getElem?_emplaceAll hl, getElem?_emplaceAll hn', h.mem_iff]

omit [LawfulEqCmp cmp] in
/-- The keys of a map are different. -/
theorem nodup_map_fst_toList : (m.toList.map Prod.fst).Nodup := by
  rw [List.nodup_iff_pairwise_ne, List.pairwise_map]
  refine ExtTreeMap.distinct_keys_toList.imp fun {a b} hcmp heq => hcmp ?_
  rw [heq]
  exact ReflCmp.compare_self

/-- **The entries of a map build the map.** -/
theorem emplaceAll_toList : emplaceAll m.toList ∅ = some m := by
  have hfresh : Fresh m.toList (∅ : ExtTreeMap α β cmp) := fresh_empty.2 nodup_map_fst_toList
  obtain ⟨n, hn⟩ := Option.isSome_iff_exists.1 (isSome_emplaceAll.2 hfresh)
  rw [hn]
  refine congrArg some (ExtTreeMap.ext_getElem? fun k => Option.ext fun v => ?_)
  rw [getElem?_emplaceAll hn, ExtTreeMap.mem_toList_iff_getElem?_eq_some,
    ExtTreeMap.getElem?_empty, or_iff_left nofun]

/-- The first entry of a key in the list of a map is the only one. -/
theorem lookup_toList [BEq α] [LawfulBEq α] (k : α) : m.toList.lookup k = m[k]? := by
  refine Option.ext fun v => ?_
  rw [← ExtTreeMap.mem_toList_iff_getElem?_eq_some, List.lookup_eq_some_iff]
  constructor
  · rintro ⟨l₁, l₂, heq, -⟩
    rw [heq]
    exact List.mem_append_right _ List.mem_cons_self
  · intro hmem
    obtain ⟨l₁, l₂, heq⟩ := List.append_of_mem hmem
    refine ⟨l₁, l₂, heq, fun p hp => bne_iff_ne.2 fun hk => ?_⟩
    have hnodup : (m.toList.map Prod.fst).Nodup := nodup_map_fst_toList
    rw [heq, List.map_append, List.map_cons, hk] at hnodup
    exact (List.nodup_append.1 hnodup).2.2 _ (List.mem_map_of_mem hp) _ List.mem_cons_self rfl

end Maps
end McuNet
