/-
# The network of a device without DHCP

`IpDevice::InitializeNetworking` of `src/ip_device.cpp`, and the generators of
`src/ethernet_address.cpp` and `src/ip_address.cpp`.

When no DHCP server answers and the chip reads back the Ethernet address that it was
given, a boot configures it with the addresses of the device, the mask of the link-local
range, and the address 1 of the subnet as gateway; when it does not read it back, there is
no hardware, and the boot fails without doing more to the chip.  What is loaded from the
EEPROM is hardly checked.  But it was generated by an earlier
boot, and what is generated is a locally administered unicast address and a link-local
address `169.254.x.y` whose third byte is never 0 and never 255, so the gateway
`169.254.0.1` is another address of the same subnet (`boots_configured`).
-/

import McuNet.Device.Stored

namespace McuNet

/-- What is documented of `random`: the number is in the range asked for. -/
class LawfulRandom (R : Type*) [ArduinoRandom R] : Prop where
  random_mem : ∀ (howsmall howbig : ℤ) (r : R), howsmall < howbig →
    howsmall ≤ (ArduinoRandom.random howsmall howbig r).1 ∧
      (ArduinoRandom.random howsmall howbig r).1 < howbig

/-- A number that is a byte is converted to it. -/
theorem toNat_uint8T {n : ℤ} (h : 0 ≤ n) (h' : n < 256) : ((uint8T n).toNat : ℤ) = n := by
  obtain ⟨m, rfl⟩ := Int.eq_ofNat_of_zero_le h
  have hm : m < 256 := Int.ofNat_lt.1 h'
  have hmod : (((m : ℤ) % 2 ^ 8).toNat) = m := by
    rw [Int.emod_eq_of_lt h (by simpa using h'), Int.toNat_natCast]
  rw [uint8T, hmod, UInt8.toNat_ofNat_of_lt' hm]

/-! ### What is generated -/

namespace EthernetAddress

/-- A locally administered address has the second bit of its first byte set. -/
def IsLocal (a : EthernetAddress) : Prop := a.bytes.get ⟨0, zero_lt_length⟩ &&& 2 = 2

instance (a : EthernetAddress) : Decidable a.IsLocal := inferInstanceAs (Decidable (_ = _))

theorem toOuiUnicast_and_two (b : UInt8) : toOuiUnicast b &&& 2 = 2 := by
  have hmask : (0b11111110 : UInt8) &&& 2 = 2 := by decide
  rw [toOuiUnicast, UInt8.and_assoc, hmask, UInt8.and_comm]
  simp only [UInt8.eq_iff_toBitVec_eq, UInt8.toBitVec_and, UInt8.toBitVec_or]
  ext i hi
  simp only [BitVec.getElem_and, BitVec.getElem_or]
  generalize b.toBitVec[i] = x, UInt8.toBitVec 2 = y
  cases x <;> cases y[i] <;> rfl

/-- **An address that was generated is locally administered.** -/
theorem isLocal_generateAddress {R : Type*} [ArduinoRandom R] (q : Option OuiPrefix)
    (a : EthernetAddress) (r : R) : (a.generateAddress q r).1.IsLocal := by
  change (a.generateAddress q r).1.bytes[0] &&& 2 = 2
  simp only [generateAddress, Vector.getElem_set_self]
  exact toOuiUnicast_and_two _

end EthernetAddress

namespace IpAddress

/-- The address `a.b.c.d`. -/
def ofBytes (a b c d : UInt8) : IpAddress := ⟨#v[a, b, c, d]⟩

/-- A link-local address that may be assigned: the first 256 and the last 256 of the
range are reserved. -/
def LinkLocal (a : IpAddress) : Prop :=
  ∃ third fourth : UInt8, 1 ≤ third.toNat ∧ third.toNat ≤ 254 ∧ a = ofBytes 169 254 third fourth

/-- **An address that was generated is link-local.** -/
theorem linkLocal_generateAddress {R : Type*} [ArduinoRandom R] [LawfulRandom R] (r : R) :
    (generateAddress r).1.LinkLocal := by
  obtain ⟨hlow, hhigh⟩ := LawfulRandom.random_mem 1 255 r (by decide)
  have hthird := toNat_uint8T (by omega) (lt_trans hhigh (by decide))
  exact ⟨_, _, by omega, by omega, rfl⟩

end IpAddress

/-- What a device generates for itself. -/
structure Addresses.Generated (a : Addresses) : Prop where
  unicast : a.ethernet.IsUnicast
  isLocal : a.ethernet.IsLocal
  linkLocal : a.ip.LinkLocal

theorem Addresses.generated_generateAddresses {R : Type*} [ArduinoRandom R] [LawfulRandom R]
    (q : Option OuiPrefix) (a : Addresses) (r : R) : (a.generateAddresses q r).1.Generated where
  unicast := EthernetAddress.isUnicast_generateAddress q a.ethernet r
  isLocal := EthernetAddress.isLocal_generateAddress q a.ethernet r
  linkLocal := IpAddress.linkLocal_generateAddress _

namespace IpDevice

/-! ### One boot -/

/-- The address with the host part cleared. -/
def network (ip : IpAddress) : IpAddress :=
  ⟨Vector.zipWith (· &&& ·) ip.bytes subnet.bytes⟩

/-- **The gateway is another address of the same subnet.** -/
theorem gateway_of_linkLocal {ip : IpAddress} (h : ip.LinkLocal) :
    gateway ip = .ofBytes 169 254 0 1 ∧ network (gateway ip) = network ip ∧ gateway ip ≠ ip := by
  obtain ⟨third, fourth, hlow, -, rfl⟩ := h
  have hfirst : (169 : UInt8) &&& 255 = 169 := by decide
  have hsecond : (254 : UInt8) &&& 255 = 254 := by decide
  have hgateway : gateway (.ofBytes 169 254 third fourth) = .ofBytes 169 254 0 1 := by
    simp [gateway, IpAddress.ofBytes, subnet, hfirst, hsecond]
  refine ⟨hgateway, ?_, ?_⟩
  · rw [hgateway]
    simp [network, IpAddress.ofBytes, subnet, hfirst, hsecond]
  · rw [hgateway]
    intro heq
    have hbytes : [169, 254, 0, 1] = [169, 254, third, fourth] :=
      congrArg (fun a : IpAddress => a.bytes.toList) heq
    simp only [List.cons.injEq] at hbytes
    rw [← hbytes.2.2.1] at hlow
    exact absurd hlow (by decide)

section Chip

variable {E : Type*} [EthernetChip E]

/-- What `begin` with the Ethernet address answers, whether there is a lease, and the chip
then. -/
def asksForLease (mac : EthernetAddress) (chip : E) : Bool × E :=
  EthernetChip.beginDhcp mac (EthernetChip.setDhcp chip)

/-- What the chip answers after that when it is asked for its Ethernet address. -/
def readsBack (mac : EthernetAddress) (chip : E) : EthernetAddress × E :=
  EthernetChip.macAddress (asksForLease mac chip).2

/-- The chip `before` is given the addresses, and a gateway that may be reached. -/
structure Static (a : Addresses) (before chip : E) : Prop where
  begun : chip = EthernetChip.beginStatic a.ethernet a.ip subnet (gateway a.ip) before
  sameSubnet : network (gateway a.ip) = network a.ip
  another : gateway a.ip ≠ a.ip

/-- **How a chip is started**, by its own answers.  There is a lease, and nothing more is
done; or there is none, and the chip reads back its Ethernet address and is given the
addresses; or it does not, so there is no hardware, and nothing more is done. -/
structure Starts (a : Addresses) (chip : E) (r : Status × Bool × E) : Prop where
  leased : (asksForLease a.ethernet chip).1 = true →
    r = (.ok (), true, (asksForLease a.ethernet chip).2)
  static : (asksForLease a.ethernet chip).1 = false →
    (readsBack a.ethernet chip).1 = a.ethernet →
      r.1 = .ok () ∧ r.2.1 = false ∧ Static a (readsBack a.ethernet chip).2 r.2.2
  noHardware : (asksForLease a.ethernet chip).1 = false →
    (readsBack a.ethernet chip).1 ≠ a.ethernet →
      r = (.error ⟨.notFound, "Found no networking hardware"⟩, false,
        (readsBack a.ethernet chip).2)

/-- With a link-local address the gateway may be reached. -/
theorem starts_startEthernet {a : Addresses} (h : a.ip.LinkLocal) (chip : E) :
    Starts a chip (startEthernet a chip) := by
  obtain ⟨-, hnetwork, hne⟩ := gateway_of_linkLocal h
  constructor
  · intro hlease
    exact if_pos hlease
  · intro hno hback
    have hstart : startEthernet a chip = (.ok (), false, EthernetChip.beginStatic a.ethernet a.ip
        subnet (gateway a.ip) (readsBack a.ethernet chip).2) :=
      (if_neg (by rw [← asksForLease, hno]; decide)).trans (if_pos hback)
    rw [hstart]
    exact ⟨rfl, rfl, rfl, hnetwork, hne⟩
  · intro hno hback
    exact (if_neg (by rw [← asksForLease, hno]; decide)).trans (if_neg hback)

end Chip

variable {T G H R E : Type*} [EepromRegionReader G] [EepromRegion H] [EepromTlv T G H]
  [ArduinoRandom R] [EthernetChip E]

/-- **A boot ends as it should**: the addresses are what a device generates for itself,
with the prefix that was asked for, and the chip is started with them. -/
structure Configured (q : Option OuiPrefix) (chip : E) (booted : Booted T R E) : Prop where
  generated : booted.addresses.Generated
  startsWith : ∀ p, q = some p → booted.addresses.ethernet.StartsWith p
  starts : Starts booted.addresses chip (booted.status, booted.usingDhcp, booted.chip)

/-- The EEPROM has no addresses but such that a device has generated. -/
def KeepsGenerated (eeprom : T) : Prop := ∀ a : Addresses, a.Holds eeprom → a.Generated

/-- **One boot.** -/
theorem configured_initializeNetworking [LawfulRandom R] {eeprom : T} (h : KeepsGenerated eeprom)
    (a : Addresses) (b : Boot R E) :
    Configured b.ouiPrefix b.chip (initializeNetworking a eeprom b) := by
  have haddresses : (initializeNetworking a eeprom b).addresses.Generated ∧
      ∀ p, b.ouiPrefix = some p →
        (initializeNetworking a eeprom b).addresses.ethernet.StartsWith p := by
    rcases hload : a.readEepromEntry eeprom b.ouiPrefix with ⟨e | ⟨⟩, loaded⟩
    · simp only [initializeNetworking, hload]
      refine ⟨Addresses.generated_generateAddresses _ _ _, fun p hp => ?_⟩
      rw [hp]
      exact (EthernetAddress.hasOuiPrefix_iff _ p).1
        (EthernetAddress.hasOuiPrefix_generateAddress p _ _)
    · simp only [initializeNetworking, hload]
      obtain ⟨hholds, houi⟩ := Addresses.readEepromEntry_ok.1 hload
      exact ⟨h _ hholds, fun p hp => (EthernetAddress.hasOuiPrefix_iff _ p).1 (houi p hp)⟩
  refine ⟨haddresses.1, haddresses.2, ?_⟩
  rw [started_initializeNetworking a eeprom b]
  exact starts_startEthernet haddresses.1.linkLocal b.chip

/-! ### Boot after boot -/

/-- After a boot that did not fail to save its addresses, the EEPROM has generated ones. -/
theorem keepsGenerated_initializeNetworking [LawfulEepromRegionReader G] [LawfulEepromRegion H]
    [LawfulEepromTlv T G H] [LawfulRandom R] {eeprom : T} (h : KeepsGenerated eeprom)
    (a : Addresses) (b : Boot R E)
    (hsaved : ∀ status, (initializeNetworking a eeprom b).saved = some status → status = .ok ()) :
    KeepsGenerated (initializeNetworking a eeprom b).eeprom := by
  intro kept hkept
  obtain ⟨region, hfind, hread⟩ := hkept
  obtain ⟨region', hfind', hread'⟩ := (holds_initializeNetworking a eeprom b hsaved).1
  obtain rfl : region = region' := Except.ok.inj (hfind.symm.trans hfind')
  have heq : kept = (initializeNetworking a eeprom b).addresses :=
    (hread kept).2.symm.trans (hread' kept).2
  exact heq ▸ (configured_initializeNetworking h a b).generated

/-- **Every boot ends as it should.**  On an EEPROM that has no addresses, or addresses
that a device generated, in any sequence of boots with any random numbers, prefixes and
chips: as long as no boot has failed to save its addresses, the next one uses a locally
administered unicast address and a link-local address that may be assigned, with the
prefix that was asked for.  If `begin` gets no lease and the chip reads back the Ethernet
address, the boot succeeds and the chip is given these addresses, and a gateway that is
another address of the same subnet; if it does not read it back, the boot fails with
`NotFound`, and no addresses are set. -/
theorem boots_configured [LawfulEepromRegionReader G] [LawfulEepromRegion H]
    [LawfulEepromTlv T G H] [LawfulRandom R] {eeprom : T}
    (h : KeepsGenerated eeprom) (bs : List (Addresses × Boot R E))
    {before after : List ((Addresses × Boot R E) × Booted T R E)}
    {x : (Addresses × Boot R E) × Booted T R E}
    (hbs : bs.zip (boots eeprom bs) = before ++ x :: after)
    (hsaved : ∀ y ∈ before, ∀ status, y.2.saved = some status → status = .ok ()) :
    Configured x.1.2.ouiPrefix x.1.2.chip x.2 := by
  induction bs generalizing eeprom before with
  | nil => cases before <;> cases hbs
  | cons b rest ih =>
    rw [boots, List.zip_cons_cons] at hbs
    cases before with
    | nil =>
      obtain rfl := (List.cons.inj hbs).1
      exact configured_initializeNetworking h b.1 b.2
    | cons y before =>
      obtain ⟨rfl, hrest⟩ := List.cons.inj hbs
      obtain ⟨hfirst, hbefore⟩ := List.forall_mem_cons.1 hsaved
      exact ih (keepsGenerated_initializeNetworking h b.1 b.2 hfirst) hrest hbefore

instance : LawfulRandom Counting where
  random_mem howsmall howbig r h := by
    have hpos : 0 < howbig - howsmall := sub_pos.2 h
    have hlow := Int.emod_nonneg r.seed hpos.ne'
    have hhigh := Int.emod_lt_of_pos r.seed hpos
    exact ⟨by simp only [ArduinoRandom.random]; omega, by simp only [ArduinoRandom.random]; omega⟩

/-- A boot that asks for the prefix `02-00-09`. -/
def bootWithOther : Boot Counting ChipWithoutDhcp :=
  { bootWith true 200 with ouiPrefix := some (OuiPrefix.new 2 0 9) }

/-- The first boot asks for a prefix, the second for none, and the third for another one,
which the stored address does not have. -/
def threeBoots : List (Addresses × Boot Counting ChipWithoutDhcp) :=
  [(unset, bootWith true 7), (unset, bootWith false 90), (unset, bootWithOther)]

theorem boots_configured_threeBoots :
    ∃ booted, (boots ({ free := 50 } : EntryTable) threeBoots)[2]? = some booted ∧
      booted.addresses.ip = .ofBytes 169 254 204 204 ∧
      booted.chip.ip = some booted.addresses.ip ∧
      Configured bootWithOther.ouiPrefix bootWithOther.chip booted := by
  have hnone : KeepsGenerated ({ free := 50 } : EntryTable) := by
    rintro a ⟨region, hfind, -⟩
    cases hfind
  have hbs : threeBoots.zip (boots ({ free := 50 } : EntryTable) threeBoots) =
      [_, _] ++ _ :: [] := rfl
  refine ⟨_, rfl, by decide +kernel, by decide +kernel, boots_configured hnone threeBoots hbs ?_⟩
  intro y hy status hstatus
  rcases List.mem_pair.1 hy with rfl | rfl
  · exact (Option.some.inj hstatus).symm
  · cases hstatus

end IpDevice
end McuNet
