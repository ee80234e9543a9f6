/-
# The order of addresses

The comparison operators of `src/ethernet_address.cpp`, `src/ip_address.cpp` and
`src/addresses.cpp`, and `operator==` of `extras/host/arduino/ip_address.h`.

Addresses are kept in sets that are sorted by `operator<`, where two addresses are the
same if neither is less.  Ethernet addresses are compared with `memcmp`, Internet
addresses by a loop, and `Addresses` by the one and then the other.  Together they sort
addresses as the bytes of their entries in the EEPROM (`lt_iff_entry`), which is a strict
total order in which just equal addresses are the same (`strictTotalOrder_lt`).
-/

import Mathlib.Data.List.Lex
import McuNet.Device.Addresses

namespace McuNet

/-! ### Comparing bytes -/

/-- `memcmp` of as many bytes as both have. -/
def memcmp : List UInt8 → List UInt8 → ℤ
  | a :: as, b :: bs => if a = b then memcmp as bs else (a.toNat : ℤ) - b.toNat
  | _, _ => 0

/-- The bytes as numbers, which are sorted one after the other. -/
def byteValues (bytes : List UInt8) : List ℕ := bytes.map UInt8.toNat

theorem byteValues_inj {as bs : List UInt8} : byteValues as = byteValues bs ↔ as = bs :=
  (List.map_injective_iff.2 fun _ _ => UInt8.toNat_inj.1).eq_iff

/-- `memcmp` returns `0` for equal blocks only. -/
theorem memcmp_eq_zero {as bs : List UInt8} (h : as.length = bs.length) :
    memcmp as bs = 0 ↔ as = bs := by
  induction as generalizing bs with
  | nil => exact iff_of_true rfl (List.length_eq_zero_iff.1 h.symm).symm
  | cons a as ih =>
    cases bs with
    | nil => exact absurd h (Nat.succ_ne_zero _)
    | cons b bs =>
      rw [memcmp]
      split_ifs with hab
      · rw [ih (Nat.succ.inj h), hab, List.cons_inj_right]
      · have hne : a.toNat ≠ b.toNat := fun heq => hab (UInt8.toNat_inj.1 heq)
        exact iff_of_false (by omega) fun heq => hab (List.cons.inj heq).1

/-- **`memcmp` sorts as the first byte that differs.** -/
theorem memcmp_neg {as bs : List UInt8} (h : as.length = bs.length) :
    memcmp as bs < 0 ↔ byteValues as < byteValues bs := by
  induction as generalizing bs with
  | nil =>
    obtain rfl := List.length_eq_zero_iff.1 h.symm
    exact iff_of_false (lt_irrefl _) (lt_irrefl _)
  | cons a as ih =>
    cases bs with
    | nil => exact absurd h (Nat.succ_ne_zero _)
    | cons b bs =>
      rw [memcmp, byteValues, List.map_cons, byteValues, List.map_cons, List.cons_lt_cons_iff]
      split_ifs with hab
      · subst hab
        rw [ih (Nat.succ.inj h)]
        simp [byteValues]
      · have hne : a.toNat ≠ b.toNat := fun heq => hab (UInt8.toNat_inj.1 heq)
        omega

/-- Two lists with beginnings of one length are sorted by these, and then by the rest. -/
theorem append_lt_append_iff {α : Type*} [LinearOrder α] {as bs as' bs' : List α}
    (h : as.length = bs.length) :
    as ++ as' < bs ++ bs' ↔ as < bs ∨ (as = bs ∧ as' < bs') := by
  induction as generalizing bs with
  | nil =>
    obtain rfl := List.length_eq_zero_iff.1 h.symm
    simp
  | cons a as ih =>
    cases bs with
    | nil => exact absurd h (Nat.succ_ne_zero _)
    | cons b bs =>
      rw [List.cons_append, List.cons_append, List.cons_lt_cons_iff, List.cons_lt_cons_iff,
        ih (Nat.succ.inj h), List.cons.injEq]
      tauto

/-! ### The operators -/

namespace EthernetAddress

/-- `operator==`. -/
def eq (lhs rhs : EthernetAddress) : Bool := 0 = memcmp lhs.bytes.toList rhs.bytes.toList

/-- `operator<`. -/
def lt (lhs rhs : EthernetAddress) : Bool := memcmp lhs.bytes.toList rhs.bytes.toList < 0

/-- `==` is equality. -/
theorem eq_iff {a b : EthernetAddress} : a.eq b = true ↔ a = b := by
  have hlength : a.bytes.toList.length = b.bytes.toList.length := by simp
  rw [eq, decide_eq_true_iff, eq_comm, memcmp_eq_zero hlength, Vector.toList_inj,
    EthernetAddress.mk.injEq]

/-- `<` compares the bytes, first byte first. -/
theorem lt_iff {a b : EthernetAddress} :
    a.lt b = true ↔ byteValues a.bytes.toList < byteValues b.bytes.toList := by
  rw [lt, decide_eq_true_iff, memcmp_neg (by simp)]

end EthernetAddress

namespace IpAddress

/-- `operator==` of `IPAddress`. -/
def eq (lhs rhs : IpAddress) : Bool :=
  lhs.bytes.get 0 = rhs.bytes.get 0 && lhs.bytes.get 1 = rhs.bytes.get 1 &&
    lhs.bytes.get 2 = rhs.bytes.get 2 && lhs.bytes.get 3 = rhs.bytes.get 3

/-- The loop of `operator<`, over the pairs of bytes that are left. -/
def ltIn : List (UInt8 × UInt8) → Bool
  | [] => false
  | (l, r) :: rest => if l < r then true else if r < l then false else ltIn rest

/-- `operator<`. -/
def lt (lhs rhs : IpAddress) : Bool := ltIn (lhs.bytes.toList.zip rhs.bytes.toList)

/-- `==` is equality. -/
theorem eq_iff {a b : IpAddress} : a.eq b = true ↔ a = b := by
  constructor
  · intro h
    simp only [eq, Bool.and_eq_true, decide_eq_true_eq] at h
    obtain ⟨⟨⟨h0, h1⟩, h2⟩, h3⟩ := h
    suffices hbytes : a.bytes = b.bytes from congrArg IpAddress.mk hbytes
    refine Vector.ext fun i hi => ?_
    obtain rfl | rfl | rfl | rfl : i = 0 ∨ i = 1 ∨ i = 2 ∨ i = 3 := by omega
    · exact h0
    · exact h1
    · exact h2
    · exact h3
  · rintro rfl
    simp [eq]

/-- **The loop sorts as `memcmp` does.** -/
theorem ltIn_zip {as bs : List UInt8} (h : as.length = bs.length) :
    ltIn (as.zip bs) = true ↔ byteValues as < byteValues bs := by
  rw [← memcmp_neg h]
  induction as generalizing bs with
  | nil => exact iff_of_false Bool.false_ne_true (lt_irrefl _)
  | cons a as ih =>
    cases bs with
    | nil => exact absurd h (Nat.succ_ne_zero _)
    | cons b bs =>
      rw [List.zip_cons_cons, ltIn, memcmp]
      rcases lt_trichotomy a.toNat b.toNat with hlt | heq | hgt
      · have hne : a ≠ b := fun heq => absurd (congrArg UInt8.toNat heq) hlt.ne
        rw [if_pos (UInt8.lt_iff_toNat_lt.2 hlt), if_neg hne]
        exact iff_of_true rfl (by omega)
      · obtain rfl := UInt8.toNat_inj.1 heq
        rw [if_neg (UInt8.lt_irrefl a), if_neg (UInt8.lt_irrefl a), if_pos rfl]
        exact ih (Nat.succ.inj h)
      · have hne : a ≠ b := fun heq => absurd (congrArg UInt8.toNat heq) hgt.ne'
        have hno : ¬a < b := fun hlt => absurd (UInt8.lt_iff_toNat_lt.1 hlt) hgt.not_gt
        rw [if_neg hno, if_pos (UInt8.lt_iff_toNat_lt.2 hgt), if_neg hne]
        exact iff_of_false Bool.false_ne_true (by omega)

/-- `<` compares the bytes, first byte first. -/
theorem lt_iff {a b : IpAddress} :
    a.lt b = true ↔ byteValues a.bytes.toList < byteValues b.bytes.toList :=
  ltIn_zip (by simp)

end IpAddress

namespace Addresses

/-- `operator==`. -/
def eq (lhs rhs : Addresses) : Bool := lhs.ethernet.eq rhs.ethernet && lhs.ip.eq rhs.ip

/-- `operator<`. -/
def lt (lhs rhs : Addresses) : Bool :=
  lhs.ethernet.lt rhs.ethernet || (lhs.ethernet.eq rhs.ethernet && lhs.ip.lt rhs.ip)

/-- `==` is equality. -/
theorem eq_iff {a b : Addresses} : a.eq b = true ↔ a = b := by
  obtain ⟨mac, ip⟩ := a
  obtain ⟨mac', ip'⟩ := b
  rw [eq, Bool.and_eq_true, EthernetAddress.eq_iff, IpAddress.eq_iff, Addresses.mk.injEq]

/-- **Addresses are sorted as their entries in the EEPROM.** -/
theorem lt_iff_entry {a b : Addresses} :
    a.lt b = true ↔ byteValues a.entry < byteValues b.entry := by
  have hlength : (byteValues a.ethernet.bytes.toList).length =
      (byteValues b.ethernet.bytes.toList).length := by simp [byteValues]
  have hentry : ∀ c : Addresses, byteValues c.entry =
      byteValues c.ethernet.bytes.toList ++ byteValues c.ip.bytes.toList :=
    fun c => List.map_append
  rw [hentry, hentry, append_lt_append_iff hlength, byteValues_inj, Vector.toList_inj, lt,
    Bool.or_eq_true, Bool.and_eq_true, EthernetAddress.lt_iff, EthernetAddress.eq_iff,
    IpAddress.lt_iff]
  refine or_congr_right (and_congr_left' ?_)
  exact ⟨fun h => congrArg EthernetAddress.bytes h, fun h => congrArg EthernetAddress.mk h⟩

/-- Addresses are what their entries store. -/
theorem entry_inj {a b : Addresses} : a.entry = b.entry ↔ a = b := by
  refine ⟨fun h => ?_, fun h => congrArg entry h⟩
  obtain ⟨hmac, hip⟩ := List.append_inj h (by simp)
  obtain ⟨⟨mac⟩, ⟨ip⟩⟩ := a
  obtain ⟨⟨mac'⟩, ⟨ip'⟩⟩ := b
  obtain rfl := Vector.toList_inj.1 hmac
  obtain rfl := Vector.toList_inj.1 hip
  rfl

/-- **The order of addresses is strict and total**, so that a set that is sorted by it has
each of them once: of two addresses just one is less, or they are equal, which
`operator==` says. -/
theorem strictTotalOrder_lt (a b c : Addresses) :
    a.lt a = false ∧ (a.lt b = true → b.lt c = true → a.lt c = true) ∧
      ((a.lt b = true ∧ b.lt a = false ∧ a.eq b = false) ∨
        (a.lt b = false ∧ b.lt a = false ∧ a.eq b = true) ∨
        (a.lt b = false ∧ b.lt a = true ∧ a.eq b = false)) ∧
      (a.eq b = true ↔ a = b) ∧ (a.lt b = true ↔ byteValues a.entry < byteValues b.entry) := by
  have hno : ∀ {x y : Addresses}, ¬byteValues x.entry < byteValues y.entry → x.lt y = false :=
    fun h => Bool.eq_false_of_not_eq_true (mt lt_iff_entry.1 h)
  have hne : ∀ {x y : Addresses}, byteValues x.entry ≠ byteValues y.entry → x.eq y = false :=
    fun h => Bool.eq_false_of_not_eq_true fun heq => h (eq_iff.1 heq ▸ rfl)
  refine ⟨hno (lt_irrefl _), fun hab hbc => ?_, ?_, eq_iff, lt_iff_entry⟩
  · exact lt_iff_entry.2 ((lt_iff_entry.1 hab).trans (lt_iff_entry.1 hbc))
  · rcases lt_trichotomy (byteValues a.entry) (byteValues b.entry) with h | h | h
    · exact .inl ⟨lt_iff_entry.2 h, hno h.not_gt, hne h.ne⟩
    · have heq : a = b := entry_inj.1 (byteValues_inj.1 h)
      exact .inr (.inl ⟨hno h.not_lt, hno h.not_gt, eq_iff.2 heq⟩)
    · exact .inr (.inr ⟨hno h.not_gt, lt_iff_entry.2 h, hne h.ne'⟩)

end Addresses
end McuNet
