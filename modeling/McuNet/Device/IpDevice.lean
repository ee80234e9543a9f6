/-
# Bringing up a device

`src/ip_device.cpp` and `src/ip_device.h`.

`InitializeNetworking` loads the addresses of the device from the EEPROM, or
generates them and saves them there, and gives them to the Ethernet chip.  After
a boot whose addresses are in the EEPROM, every later boot starts its chip with the
same ones and writes nothing, whatever its random numbers are and with the same
`OuiPrefix` or none (`addresses_kept`).

What `SetupW5500` does to the sockets is in `McuNet.Host.SharedDescriptors`.  The pins
that it sets are left out, as are the retry after a soft reset, which is switched off, and
the log.
-/

import McuNet.Device.Addresses

namespace McuNet

/-- What is used of `Ethernet`, the chip's `EthernetClass`: `setDhcp`, `begin` with
a MAC address, which asks for a DHCP lease, `macAddress`, and `begin` with fixed
addresses. -/
class EthernetChip (E : Type*) where
  setDhcp : E → E
  beginDhcp : EthernetAddress → E → Bool × E
  macAddress : E → EthernetAddress × E
  beginStatic : EthernetAddress → (ip subnet gateway : IpAddress) → E → E

/-- What a boot of the device starts with, apart from the EEPROM. -/
structure Boot (R E : Type*) where
  ouiPrefix : Option OuiPrefix
  random : R
  chip : E

/-- How a boot has ended.  `saved` is the result of `WriteEepromEntry` if it was
called; `usingDhcp` is `using_dhcp_`. -/
structure Booted (T R E : Type*) where
  status : Status
  addresses : Addresses
  saved : Option Status
  usingDhcp : Bool
  eeprom : T
  random : R
  chip : E

namespace IpDevice

variable {T G H R E : Type*}

/-- The subnet mask of the link-local address range. -/
def subnet : IpAddress := ⟨#v[255, 255, 0, 0]⟩

/-- The gateway that `InitializeNetworking` assumes. -/
def gateway (ip : IpAddress) : IpAddress :=
  ⟨#v[ip.bytes[0] &&& subnet.bytes[0], ip.bytes[1] &&& subnet.bytes[1],
    ip.bytes[2] &&& subnet.bytes[2], (ip.bytes[3] &&& subnet.bytes[3]) ||| 1]⟩

/-- `InitializeNetworking` from the first use of the chip on. -/
def startEthernet [EthernetChip E] (a : Addresses) (chip : E) : Status × Bool × E :=
  let dhcp := EthernetChip.beginDhcp a.ethernet (EthernetChip.setDhcp chip)
  if dhcp.1 then (.ok (), true, dhcp.2)
  else
    let mac := EthernetChip.macAddress dhcp.2
    if mac.1 = a.ethernet then
      (.ok (), false, EthernetChip.beginStatic a.ethernet a.ip subnet (gateway a.ip) mac.2)
    else (.error ⟨.notFound, "Found no networking hardware"⟩, false, mac.2)

variable [EepromRegionReader G] [EepromRegion H] [EepromTlv T G H] [ArduinoRandom R]
  [EthernetChip E]

/-- `InitializeNetworking`.  `a` is what the local variable `addresses` holds
before it is set. -/
def initializeNetworking (a : Addresses) (eeprom : T) (b : Boot R E) : Booted T R E :=
  let loaded := a.readEepromEntry eeprom b.ouiPrefix
  match loaded.1 with
  | .ok () =>
    let started := startEthernet loaded.2 b.chip
    { status := started.1, addresses := loaded.2, saved := none, usingDhcp := started.2.1
      eeprom := eeprom, random := b.random, chip := started.2.2 }
  | .error _ =>
    let generated := loaded.2.generateAddresses b.ouiPrefix b.random
    let saved := generated.1.writeEepromEntry eeprom
    let started := startEthernet generated.1 b.chip
    { status := started.1, addresses := generated.1, saved := some saved.1
      usingDhcp := started.2.1, eeprom := saved.2, random := generated.2, chip := started.2.2 }

/-- Boots one after the other, on the same EEPROM. -/
def boots (eeprom : T) : List (Addresses × Boot R E) → List (Booted T R E)
  | [] => []
  | (a, b) :: rest =>
    let booted := initializeNetworking a eeprom b
    booted :: boots booted.eeprom rest

/-- **The chip is started with the addresses of the boot**, and what is returned is what
that returns. -/
theorem started_initializeNetworking (a : Addresses) (eeprom : T) (b : Boot R E) :
    let booted := initializeNetworking a eeprom b
    (booted.status, booted.usingDhcp, booted.chip) = startEthernet booted.addresses b.chip := by
  simp only [initializeNetworking]
  rcases (a.readEepromEntry eeprom b.ouiPrefix).1 with e | ⟨⟩
  · rfl
  · rfl

/-- A boot that finds the addresses it wants in the EEPROM uses them. -/
theorem initializeNetworking_of_holds {eeprom : T} {kept : Addresses} {b : Boot R E}
    (h : kept.Holds eeprom)
    (houi : ∀ p, b.ouiPrefix = some p → kept.ethernet.hasOuiPrefix p = true) (a : Addresses) :
    (initializeNetworking a eeprom b).addresses = kept ∧
      (initializeNetworking a eeprom b).saved = none ∧
      (initializeNetworking a eeprom b).eeprom = eeprom := by
  have hload : a.readEepromEntry eeprom b.ouiPrefix = (.ok (), kept) :=
    Addresses.readEepromEntry_ok.2 ⟨h, houi⟩
  simp only [initializeNetworking, hload, and_self]

/-- After a boot that did not fail to save its addresses, the EEPROM has them, and
the Ethernet address has the prefix that was asked for. -/
theorem holds_initializeNetworking [LawfulEepromRegionReader G] [LawfulEepromRegion H]
    [LawfulEepromTlv T G H] (a : Addresses) (eeprom : T) (b : Boot R E)
    (hsaved : ∀ status, (initializeNetworking a eeprom b).saved = some status →
      status = .ok ()) :
    let booted := initializeNetworking a eeprom b
    booted.addresses.Holds booted.eeprom ∧
      ∀ p, b.ouiPrefix = some p → booted.addresses.ethernet.hasOuiPrefix p = true := by
  rcases hload : a.readEepromEntry eeprom b.ouiPrefix with ⟨e | ⟨⟩, loaded⟩
  · simp only [initializeNetworking, hload] at hsaved ⊢
    refine ⟨Addresses.holds_writeEepromEntry (hsaved _ rfl), fun p hp => ?_⟩
    rw [hp]
    exact EthernetAddress.hasOuiPrefix_generateAddress p _ _
  · simp only [initializeNetworking, hload]
    exact Addresses.readEepromEntry_ok.1 hload

/-- Every boot starts its chip with its addresses. -/
theorem started_boots {eeprom : T} (bs : List (Addresses × Boot R E)) :
    ∀ x ∈ bs.zip (boots eeprom bs),
      (x.2.status, x.2.usingDhcp, x.2.chip) = startEthernet x.2.addresses x.1.2.chip := by
  induction bs generalizing eeprom with
  | nil => exact fun x hx => absurd hx List.not_mem_nil
  | cons b rest ih =>
    rw [boots, List.zip_cons_cons]
    exact List.forall_mem_cons.2 ⟨started_initializeNetworking b.1 eeprom b.2, ih⟩

/-- **A device keeps its addresses.**  After a boot that did not fail to save them,
every later boot, with the same prefix or none and with any random numbers, uses
the addresses of that boot, starts its chip with them and writes nothing to the EEPROM;
and they have the prefix that was asked for. -/
theorem addresses_kept [LawfulEepromRegionReader G] [LawfulEepromRegion H]
    [LawfulEepromTlv T G H] (a : Addresses) (eeprom : T) (b : Boot R E)
    (hsaved : ∀ status, (initializeNetworking a eeprom b).saved = some status →
      status = .ok ())
    (later : List (Addresses × Boot R E))
    (hlater : ∀ c ∈ later, c.2.ouiPrefix = none ∨ c.2.ouiPrefix = b.ouiPrefix) :
    let booted := initializeNetworking a eeprom b
    (booted.status, booted.usingDhcp, booted.chip) = startEthernet booted.addresses b.chip ∧
    (∀ c ∈ boots booted.eeprom later,
      c.addresses = booted.addresses ∧ c.saved = none ∧ c.eeprom = booted.eeprom) ∧
    (∀ x ∈ later.zip (boots booted.eeprom later),
      (x.2.status, x.2.usingDhcp, x.2.chip) = startEthernet booted.addresses x.1.2.chip) ∧
    ∀ p, b.ouiPrefix = some p → booted.addresses.ethernet.hasOuiPrefix p = true := by
  intro booted
  obtain ⟨hholds, houi⟩ : booted.addresses.Holds booted.eeprom ∧
      ∀ p, b.ouiPrefix = some p → booted.addresses.ethernet.hasOuiPrefix p = true :=
    holds_initializeNetworking a eeprom b hsaved
  have hkept : ∀ c ∈ boots booted.eeprom later,
      c.addresses = booted.addresses ∧ c.saved = none ∧ c.eeprom = booted.eeprom := by
    generalize booted.eeprom = kept at hholds ⊢
    induction later with
    | nil => exact fun c hc => absurd hc List.not_mem_nil
    | cons c rest ih =>
      obtain ⟨hc, hrest⟩ := List.forall_mem_cons.1 hlater
      have hask : ∀ p, c.2.ouiPrefix = some p →
          booted.addresses.ethernet.hasOuiPrefix p = true := by
        rcases hc with hc | hc
        · exact fun p hp => absurd (hc.symm.trans hp) nofun
        · exact fun p hp => houi p (hc.symm.trans hp)
      have hboot := initializeNetworking_of_holds hholds hask c.1
      refine List.forall_mem_cons.2 ⟨hboot, ?_⟩
      rw [hboot.2.2]
      exact ih hrest
  refine ⟨started_initializeNetworking a eeprom b, hkept, fun x hx => ?_, houi⟩
  rw [← (hkept x.2 (List.of_mem_zip hx).2).1]
  exact started_boots later x hx

end IpDevice

/-! ### A device that boots three times -/

/-- The bytes of a region that is read, and the cursor. -/
structure RegionBytes where
  bytes : List UInt8
  cursor : ℕ := 0
  deriving DecidableEq, Repr

instance : EepromRegionReader RegionBytes where
  readBytes n region :=
    if h : n ≤ (region.bytes.drop region.cursor).length then
      (some ⟨((region.bytes.drop region.cursor).take n).toArray, by
        rw [List.size_toArray, List.length_take, min_eq_left h]⟩,
        { region with cursor := region.cursor + n })
    else (none, region)
  rest region := region.bytes.drop region.cursor

instance : LawfulEepromRegionReader RegionBytes where
  readBytes_of_le n region h := by
    refine ⟨_, _, dif_pos h, List.toList_toArray, ?_⟩
    exact List.drop_drop.symm
  readBytes_of_lt n region h := congrArg Prod.fst (dif_neg (not_le.2 h))

/-- What was written into a region, and the room that is left. -/
structure RegionBuffer where
  written : List UInt8 := []
  room : ℕ
  deriving DecidableEq, Repr

instance : EepromRegion RegionBuffer where
  writeBytes bytes region :=
    if bytes.length ≤ region.room then
      (true, ⟨region.written ++ bytes, region.room - bytes.length⟩)
    else (false, region)
  write b region :=
    if 1 ≤ region.room then (true, ⟨region.written ++ [b], region.room - 1⟩) else (false, region)
  written region := region.written
  room region := region.room

instance : LawfulEepromRegion RegionBuffer where
  writeBytes_fits bytes region h := by
    simp only [EepromRegion.writeBytes, EepromRegion.written, EepromRegion.room] at h ⊢
    rw [if_pos h]
    exact ⟨rfl, rfl, Nat.sub_add_cancel h⟩
  write_eq _ _ := rfl

/-- An EEPROM with room for some bytes, and its entries. -/
structure EntryTable where
  free : ℕ
  entries : List (EepromTag × List UInt8) := []

instance : EepromTlv EntryTable RegionBytes RegionBuffer where
  findEntry tag eeprom :=
    match eeprom.entries.lookup tag with
    | some bytes => .ok { bytes := bytes }
    | none => .error ⟨.notFound, "Entry not found"⟩
  writeEntryToCursor tag n f eeprom :=
    if n ≤ eeprom.free then
      let r := f { room := n }
      match r.1 with
      | .ok () => (.ok (), ⟨eeprom.free - n, (tag, r.2.written) :: eeprom.entries⟩)
      | .error e => (.error e, eeprom)
    else (.error ⟨.other 8, "Too little room"⟩, eeprom)

instance : LawfulEepromTlv EntryTable RegionBytes RegionBuffer where
  findEntry_written tag n f eeprom h := by
    simp only [EepromTlv.writeEntryToCursor] at h ⊢
    split_ifs at h ⊢ with hroom
    rcases hf : (f { room := n }).1 with e | ⟨⟩
    · rw [hf] at h
      exact absurd h nofun
    · refine ⟨{ room := n }, { bytes := (f { room := n }).2.written }, rfl, rfl, ?_, rfl⟩
      simp only [EepromTlv.findEntry, List.lookup_cons_self]

/-- A generator of the numbers `seed`, `seed + 1`, ... in the range asked for. -/
structure Counting where
  seed : ℤ

instance : ArduinoRandom Counting where
  random howsmall howbig r := (howsmall + r.seed % (howbig - howsmall), ⟨r.seed + 1⟩)

/-- A chip on a network without a DHCP server. -/
structure ChipWithoutDhcp where
  mac : EthernetAddress
  ip : Option IpAddress := none

instance : EthernetChip ChipWithoutDhcp where
  setDhcp chip := chip
  beginDhcp mac chip := (false, { chip with mac := mac })
  macAddress chip := (chip.mac, chip)
  beginStatic mac ip _ _ chip := { chip with mac := mac, ip := some ip }

namespace IpDevice

/-- A boot with the prefix `52-44-4A` or none, and the given random numbers. -/
def bootWith (withPrefix : Bool) (seed : ℤ) : Boot Counting ChipWithoutDhcp where
  ouiPrefix := if withPrefix then some (OuiPrefix.new 0x52 0x44 0x4A) else none
  random := ⟨seed⟩
  chip := { mac := ⟨Vector.replicate 6 0⟩ }

/-- What the local variable holds before it is set. -/
def unset : Addresses := ⟨⟨Vector.replicate 6 0xCC⟩, ⟨Vector.replicate 4 0⟩⟩

theorem addresses_kept_threeBoots :
    let booted := initializeNetworking unset ({ free := 50 } : EntryTable) (bootWith true 7)
    booted.saved = some (.ok ()) ∧
      ∀ c ∈ boots booted.eeprom [(unset, bootWith false 90), (unset, bootWith true 1)],
        c.addresses = booted.addresses ∧ c.saved = none ∧ c.eeprom = booted.eeprom := by
  intro booted
  have hsaved : booted.saved = some (.ok ()) := by rfl
  have hlater : ∀ c ∈ [(unset, bootWith false 90), (unset, bootWith true 1)],
      c.2.ouiPrefix = none ∨ c.2.ouiPrefix = (bootWith true 7).ouiPrefix := by
    intro c hc
    rcases List.mem_pair.1 hc with rfl | rfl
    · exact .inl rfl
    · exact .inr rfl
  exact ⟨hsaved, (addresses_kept unset (⟨50, []⟩ : EntryTable) (bootWith true 7)
    (fun status h => (Option.some.inj (hsaved.symm.trans h)).symm) _ hlater).2.1⟩

end IpDevice
end McuNet
