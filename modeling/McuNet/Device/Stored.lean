/-
# The stored addresses that are accepted

`Addresses::ReadEepromEntry` in `src/addresses.cpp`, with its comment in
`src/addresses.h`, and `IpDevice::InitializeNetworking`.

The EEPROM may hold anything.  What is read from it has to be a unicast address, and
to have the `OuiPrefix` if one is given; otherwise it is documented to be rejected with
`FailedPrecondition`.  Only the prefix is compared, which is enough when there is one,
because an `OuiPrefix` is that of unicast addresses.  Without a prefix a multicast
address is accepted, and the chip is programmed with it (`acceptsUsable_iff`).
-/

import McuNet.Device.IpDevice
import Mathlib.Tactic.IntervalCases

namespace McuNet

namespace EthernetAddress

theorem zero_lt_length : 0 < 6 := by decide

/-- A unicast address has the lowest bit of its first byte clear. -/
def IsUnicast (a : EthernetAddress) : Prop := a.bytes.get ⟨0, zero_lt_length⟩ &&& 1 = 0

instance (a : EthernetAddress) : Decidable a.IsUnicast := inferInstanceAs (Decidable (_ = _))

/-- The first three bytes are those of the prefix. -/
def StartsWith (a : EthernetAddress) (p : OuiPrefix) : Prop :=
  a.bytes.toList.take 3 = [p.byte0, p.byte1, p.byte2]

/-- An address that a device may use which has been given a prefix, or none. -/
structure Usable (q : Option OuiPrefix) (a : EthernetAddress) : Prop where
  unicast : a.IsUnicast
  startsWith : ∀ p, q = some p → a.StartsWith p

theorem hasOuiPrefix_iff (a : EthernetAddress) (p : OuiPrefix) :
    a.hasOuiPrefix p = true ↔ a.StartsWith p := by
  have htake : a.bytes.toList.take 3 = [a.bytes[0], a.bytes[1], a.bytes[2]] := by
    refine List.ext_getElem (by simp) fun i hi _ => ?_
    have hlt : i < 3 := lt_of_lt_of_le hi (List.length_take_le _ _)
    interval_cases i <;> simp
  rw [StartsWith, htake, hasOuiPrefix]
  simp only [Bool.and_eq_true, decide_eq_true_eq, List.cons.injEq, and_true, and_assoc]

/-- Clearing the lowest bit leaves it clear. -/
theorem toOuiUnicast_and_one (b : UInt8) : toOuiUnicast b &&& 1 = 0 := by
  rw [toOuiUnicast, UInt8.and_assoc]
  exact UInt8.and_zero

/-- **An address that starts with a prefix is a unicast address.** -/
theorem StartsWith.isUnicast {a : EthernetAddress} {p : OuiPrefix} (h : a.StartsWith p) :
    a.IsUnicast := by
  have hbytes := (a.hasOuiPrefix_iff p).2 h
  simp only [hasOuiPrefix, Bool.and_eq_true, decide_eq_true_eq] at hbytes
  change a.bytes[0] &&& 1 = 0
  rw [hbytes.1.1, ← p.unicast]
  exact toOuiUnicast_and_one p.byte0

/-- **An address that was generated is a unicast address.** -/
theorem isUnicast_generateAddress {R : Type*} [ArduinoRandom R] (q : Option OuiPrefix)
    (a : EthernetAddress) (r : R) : (a.generateAddress q r).1.IsUnicast := by
  change (a.generateAddress q r).1.bytes[0] &&& 1 = 0
  simp only [generateAddress, Vector.getElem_set_self]
  exact toOuiUnicast_and_one _

end EthernetAddress

namespace Addresses

variable {T G H : Type*} [EepromRegionReader G] [EepromTlv T G H]

/-- What the EEPROM holds is what is stored in the entry. -/
theorem holds_iff [LawfulEepromRegionReader G] {eeprom : T} {a : Addresses} : Holds eeprom a ↔
    ∃ region, EepromTlv.findEntry getAddressesTag eeprom = .ok region ∧
      a.StoredIn (EepromRegionReader.rest region) := by
  constructor
  · rintro ⟨region, hfind, hread⟩
    have henough : 10 ≤ (EepromRegionReader.rest region).length := by
      by_contra hfew
      exact a.readFromRegion_of_lt (not_le.1 hfew) (hread a).1
    exact ⟨region, hfind, (hread a).2 ▸ (a.readFromRegion_of_le henough).2⟩
  · rintro ⟨region, hfind, hstored⟩
    refine ⟨region, hfind, fun b => ?_⟩
    obtain ⟨hok, hread⟩ := b.readFromRegion_of_le hstored.enough
    exact ⟨hok, hread.unique hstored⟩

/-- **What is stored is rejected** when it does not have the prefix. -/
theorem readEepromEntry_mismatch {eeprom : T} {a b : Addresses} (h : Holds eeprom a)
    {p : OuiPrefix} (hp : ¬a.ethernet.StartsWith p) :
    (b.readEepromEntry eeprom (some p)).1 =
      .error ⟨.failedPrecondition, "Stored OUI prefix mismatch"⟩ := by
  obtain ⟨region, hfind, hread⟩ := h
  rw [readEepromEntry, hfind]
  dsimp only
  rw [(hread b).1, (hread b).2]
  dsimp only
  rw [if_neg (mt (a.ethernet.hasOuiPrefix_iff p).1 hp)]

/-- No prefix is given, and the EEPROM holds a multicast address. -/
def HoldsMulticast (eeprom : T) (q : Option OuiPrefix) : Prop :=
  q = none ∧ ∃ region, EepromTlv.findEntry getAddressesTag eeprom = .ok region ∧
    ∃ a : Addresses, a.StoredIn (EepromRegionReader.rest region) ∧ ¬a.ethernet.IsUnicast

end Addresses

/-- A chip, with a list of the Ethernet addresses that it was programmed with. -/
structure Programmed (E : Type*) where
  chip : E
  macs : List EthernetAddress := []

variable {T G H R E : Type*} [EthernetChip E]

instance : EthernetChip (Programmed E) where
  setDhcp p := { p with chip := EthernetChip.setDhcp p.chip }
  beginDhcp mac p :=
    let r := EthernetChip.beginDhcp mac p.chip
    (r.1, { chip := r.2, macs := p.macs ++ [mac] })
  macAddress p :=
    let r := EthernetChip.macAddress p.chip
    (r.1, { p with chip := r.2 })
  beginStatic mac ip subnet gateway p :=
    { chip := EthernetChip.beginStatic mac ip subnet gateway p.chip, macs := p.macs ++ [mac] }

namespace IpDevice

/-- **The chip is programmed with one Ethernet address**, and does what it does without
the list. -/
theorem startEthernet_programmed (a : Addresses) (p : Programmed E) :
    let r := startEthernet a p
    (r.1, r.2.1, r.2.2.chip) = startEthernet a p.chip ∧ a.ethernet ∈ r.2.2.macs ∧
      ∀ mac ∈ r.2.2.macs, mac ∈ p.macs ∨ mac = a.ethernet := by
  have hmem : ∀ mac, mac ∈ p.macs ++ [a.ethernet] → mac ∈ p.macs ∨ mac = a.ethernet :=
    fun mac hmac => (List.mem_append.1 hmac).imp_right List.mem_singleton.1
  simp only [startEthernet, EthernetChip.setDhcp, EthernetChip.beginDhcp, EthernetChip.macAddress,
    EthernetChip.beginStatic]
  split_ifs
  · exact ⟨rfl, List.mem_append_right _ (List.mem_singleton_self _), hmem⟩
  · refine ⟨rfl, List.mem_append_right _ (List.mem_singleton_self _), fun mac hmac => ?_⟩
    exact (List.mem_append.1 hmac).elim (hmem mac) fun h => .inr (List.mem_singleton.1 h)
  · exact ⟨rfl, List.mem_append_right _ (List.mem_singleton_self _), hmem⟩

variable [EepromRegionReader G] [EepromRegion H] [EepromTlv T G H] [ArduinoRandom R]

/-- The chip is programmed with the address of the boot. -/
theorem macs_initializeNetworking (a : Addresses) (eeprom : T) (b : Boot R (Programmed E)) :
    let booted := initializeNetworking a eeprom b
    booted.addresses.ethernet ∈ booted.chip.macs ∧
      ∀ mac ∈ booted.chip.macs, mac ∈ b.chip.macs ∨ mac = booted.addresses.ethernet := by
  intro booted
  have hstarted : (booted.status, booted.usingDhcp, booted.chip) =
      startEthernet booted.addresses b.chip := started_initializeNetworking a eeprom b
  obtain ⟨-, hmem, hmacs⟩ := startEthernet_programmed booted.addresses b.chip
  rw [← hstarted] at hmem hmacs
  exact ⟨hmem, hmacs⟩

/-- The addresses of a boot are those it has loaded, or it has generated them. -/
theorem addresses_initializeNetworking (a : Addresses) (eeprom : T) (b : Boot R E) :
    let booted := initializeNetworking a eeprom b
    a.readEepromEntry eeprom b.ouiPrefix = (.ok (), booted.addresses) ∨
      booted.addresses.ethernet.IsUnicast := by
  rcases hload : a.readEepromEntry eeprom b.ouiPrefix with ⟨e | ⟨⟩, loaded⟩
  · simp only [initializeNetworking, hload]
    exact .inr (EthernetAddress.isUnicast_generateAddress _ _ _)
  · simp only [initializeNetworking, hload]
    exact .inl trivial

/-- **Only usable addresses are accepted**: from ten bytes of the entry that are a
usable address, and with `FailedPrecondition` for other ten bytes; and the chip is
programmed with unicast addresses only. -/
structure AcceptsUsable (R E : Type*) [ArduinoRandom R] [EthernetChip E] (eeprom : T)
    (q : Option OuiPrefix) (a : Addresses) : Prop where
  accepted : ∀ s : Addresses, a.readEepromEntry eeprom q = (.ok (), s) →
    (∃ region, EepromTlv.findEntry getAddressesTag eeprom = .ok region ∧
      s.StoredIn (EepromRegionReader.rest region)) ∧ s.ethernet.Usable q
  rejected : ∀ region (s : Addresses), EepromTlv.findEntry getAddressesTag eeprom = .ok region →
    s.StoredIn (EepromRegionReader.rest region) → ¬s.ethernet.Usable q →
      ∃ message, (a.readEepromEntry eeprom q).1 = .error ⟨.failedPrecondition, message⟩
  programmed : ∀ b : Boot R (Programmed E), b.ouiPrefix = q →
    ∀ mac ∈ (initializeNetworking a eeprom b).chip.macs, mac ∈ b.chip.macs ∨ mac.IsUnicast

/-- **When only usable addresses are accepted**: unless no prefix is given and the EEPROM
holds a multicast address. -/
theorem acceptsUsable_iff [LawfulEepromRegionReader G] (eeprom : T) (q : Option OuiPrefix)
    (a : Addresses) : AcceptsUsable R E eeprom q a ↔ ¬Addresses.HoldsMulticast eeprom q := by
  constructor
  · rintro h ⟨rfl, region, hfind, s, hstored, hmulticast⟩
    have hload : a.readEepromEntry eeprom none = (.ok (), s) :=
      Addresses.readEepromEntry_ok.2 ⟨Addresses.holds_iff.2 ⟨region, hfind, hstored⟩, nofun⟩
    exact hmulticast (h.accepted s hload).2.unicast
  · intro h
    have hunicast : ∀ s : Addresses, s.Holds eeprom →
        (∀ p, q = some p → s.ethernet.StartsWith p) → s.ethernet.IsUnicast := by
      intro s hs hstarts
      obtain ⟨region, hfind, hstored⟩ := Addresses.holds_iff.1 hs
      cases q with
      | none => exact by_contra fun hmulticast => h ⟨rfl, region, hfind, s, hstored, hmulticast⟩
      | some p => exact (hstarts p rfl).isUnicast
    have haccepted : ∀ s, a.readEepromEntry eeprom q = (.ok (), s) →
        s.Holds eeprom ∧ s.ethernet.Usable q := by
      intro s hload
      obtain ⟨hs, houi⟩ := Addresses.readEepromEntry_ok.1 hload
      have hstarts : ∀ p, q = some p → s.ethernet.StartsWith p := fun p hp =>
        (s.ethernet.hasOuiPrefix_iff p).1 (houi p hp)
      exact ⟨hs, hunicast s hs hstarts, hstarts⟩
    refine ⟨fun s hload => ?_, fun region s hfind hstored hno => ?_, ?_⟩
    · obtain ⟨hs, husable⟩ := haccepted s hload
      exact ⟨Addresses.holds_iff.1 hs, husable⟩
    · have hs : s.Holds eeprom := Addresses.holds_iff.2 ⟨region, hfind, hstored⟩
      have hother : ¬∀ p, q = some p → s.ethernet.StartsWith p :=
        fun hstarts => hno ⟨hunicast s hs hstarts, hstarts⟩
      cases q with
      | none => exact absurd nofun hother
      | some p =>
        refine ⟨_, Addresses.readEepromEntry_mismatch hs fun hp => hother ?_⟩
        rintro _ ⟨⟩
        exact hp
    · rintro b rfl mac hmac
      refine (macs_initializeNetworking a eeprom b |>.2 mac hmac).imp_right ?_
      rintro rfl
      exact (addresses_initializeNetworking a eeprom b).elim
        (fun hload => (haccepted _ hload).2.unicast) id

/-- An EEPROM that has an entry for the addresses whose ten bytes are all `0xFF`, which is
what erased cells read. -/
def erasedEntry : EntryTable :=
  { free := 50, entries := [(getAddressesTag, List.replicate 10 0xFF)] }

/-- With a prefix the broadcast address that is stored is rejected. -/
theorem acceptsUsable_withPrefix :
    AcceptsUsable Counting ChipWithoutDhcp erasedEntry (some (OuiPrefix.new 0x52 0x44 0x4A))
      unset :=
  (acceptsUsable_iff erasedEntry _ unset).2 fun h => Option.some_ne_none _ h.1

/-- The broadcast address is loaded, and the chip is programmed with it. -/
theorem acceptsUsable_counterexample :
    (unset.readEepromEntry erasedEntry none).1 = .ok () ∧
      (initializeNetworking unset erasedEntry
        ({ ouiPrefix := none, random := ⟨7⟩, chip := { chip := (bootWith false 7).chip } } :
          Boot Counting (Programmed ChipWithoutDhcp))).chip.macs =
        List.replicate 2 ⟨Vector.replicate 6 0xFF⟩ ∧
      ¬AcceptsUsable Counting ChipWithoutDhcp erasedEntry none unset := by
  have hload : unset.readEepromEntry erasedEntry none =
      (.ok (), ⟨⟨Vector.replicate 6 0xFF⟩, ⟨Vector.replicate 4 0xFF⟩⟩) := by rfl
  refine ⟨congrArg Prod.fst hload, by rfl, fun h => ?_⟩
  exact absurd (h.accepted _ hload).2.unicast (by decide)

end IpDevice
end McuNet
