/-
# The addresses of a device

`src/ethernet_address.h`, `src/ethernet_address.cpp`, `src/ip_address.cpp`,
`src/addresses.cpp` and `src/eeprom_tags.cpp`.

A device without a factory assigned Ethernet address generates one, together
with an Internet address, and keeps both in an entry of the EEPROM: six bytes and
four.  Addresses that were saved are read back (`Addresses.holds_writeEepromEntry`),
and an Ethernet address that was generated for an `OuiPrefix` has it
(`EthernetAddress.hasOuiPrefix_generateAddress`), which is why the constructor of
`OuiPrefix` normalises its first byte as `GenerateAddress` does.
-/

import McuNet.Device.Eeprom

namespace McuNet

/-- `OuiPrefix::ToOuiUnicast`: a locally administered address that is not a
multicast address. -/
def toOuiUnicast (firstByte : UInt8) : UInt8 := (firstByte ||| 0b00000010) &&& 0b11111110

/-- `OuiPrefix`.  Only its constructor makes one, so the first byte is
normalised. -/
structure OuiPrefix where
  byte0 : UInt8
  byte1 : UInt8
  byte2 : UInt8
  unicast : toOuiUnicast byte0 = byte0
  deriving DecidableEq

theorem toOuiUnicast_idem (b : UInt8) : toOuiUnicast (toOuiUnicast b) = toOuiUnicast b := by
  simp only [toOuiUnicast, UInt8.eq_iff_toBitVec_eq, UInt8.toBitVec_and, UInt8.toBitVec_or]
  ext i hi
  simp only [BitVec.getElem_and, BitVec.getElem_or]
  generalize b.toBitVec[i] = x, UInt8.toBitVec 0b00000010 = y, UInt8.toBitVec 0b11111110 = z
  cases x <;> cases y[i] <;> cases z[i] <;> rfl

/-- The constructor of `OuiPrefix`. -/
def OuiPrefix.new (byte0 byte1 byte2 : UInt8) : OuiPrefix :=
  ⟨toOuiUnicast byte0, byte1, byte2, toOuiUnicast_idem byte0⟩

structure EthernetAddress where
  bytes : Vector UInt8 6
  deriving DecidableEq, Repr

namespace EthernetAddress

variable {R : Type*} [ArduinoRandom R]

/-- The loop of `GenerateAddress`, over the indices that are left. -/
def fillRandom : List (Fin 6) → Vector UInt8 6 → R → Vector UInt8 6 × R
  | [], bytes, r => (bytes, r)
  | i :: rest, bytes, r =>
    let n := ArduinoRandom.random 0 256 r
    fillRandom rest (bytes.set i (uint8T n.1)) n.2

/-- `GenerateAddress`. -/
def generateAddress (ouiPrefix : Option OuiPrefix) (a : EthernetAddress) (r : R) :
    EthernetAddress × R :=
  let filled :=
    match ouiPrefix with
    | some p =>
      fillRandom [3, 4, 5] (((a.bytes.set 0 p.byte0).set 1 p.byte1).set 2 p.byte2) r
    | none => fillRandom [0, 1, 2, 3, 4, 5] a.bytes r
  (⟨filled.1.set 0 (toOuiUnicast filled.1[0])⟩, filled.2)

/-- `ReadFromRegion`. -/
def readFromRegion {G : Type*} [EepromRegionReader G] (a : EthernetAddress) (region : G) :
    Status × EthernetAddress × G :=
  match EepromRegionReader.readBytes 6 region with
  | (some bytes, region) => (.ok (), ⟨bytes⟩, region)
  | (none, region) => (.error ⟨.unknown, "Unable to read MAC from EEPROM"⟩, a, region)

/-- `WriteToRegion`. -/
def writeToRegion {H : Type*} [EepromRegion H] (a : EthernetAddress) (region : H) : Status × H :=
  let r := EepromRegion.writeBytes a.bytes.toList region
  (if r.1 then .ok () else .error ⟨.unknown, "Unable to write MAC to EEPROM"⟩, r.2)

/-- `HasOuiPrefix`. -/
def hasOuiPrefix (a : EthernetAddress) (p : OuiPrefix) : Bool :=
  a.bytes[0] = p.byte0 && a.bytes[1] = p.byte1 && a.bytes[2] = p.byte2

/-- The loop leaves the bytes before the indices it visits. -/
theorem fillRandom_getElem (i : Fin 6) (indices : List (Fin 6)) (h : i ∉ indices)
    (bytes : Vector UInt8 6) (r : R) : (fillRandom indices bytes r).1[i] = bytes[i] := by
  induction indices generalizing bytes r with
  | nil => rfl
  | cons j rest ih =>
    obtain ⟨hj, hrest⟩ := not_or.1 (mt List.mem_cons.2 h)
    rw [fillRandom, ih hrest]
    exact Vector.getElem_set_ne _ _ fun hij => hj (Fin.ext hij.symm)

/-- **An address that is generated for a prefix has it.** -/
theorem hasOuiPrefix_generateAddress (p : OuiPrefix) (a : EthernetAddress) (r : R) :
    (generateAddress (some p) a r).1.hasOuiPrefix p = true := by
  set bytes := ((a.bytes.set 0 p.byte0).set 1 p.byte1).set 2 p.byte2 with hbytes
  have hleft (i : Fin 6) (hi : i ∉ ([3, 4, 5] : List (Fin 6))) :
      (fillRandom [3, 4, 5] bytes r).1[i] = bytes[i] := fillRandom_getElem i _ hi bytes r
  have h0 : (fillRandom [3, 4, 5] bytes r).1[0] = p.byte0 := by
    rw [show (fillRandom [3, 4, 5] bytes r).1[0] = bytes[0] from hleft 0 (by decide), hbytes]
    simp
  have h1 : (fillRandom [3, 4, 5] bytes r).1[1] = p.byte1 := by
    rw [show (fillRandom [3, 4, 5] bytes r).1[1] = bytes[1] from hleft 1 (by decide), hbytes]
    simp
  have h2 : (fillRandom [3, 4, 5] bytes r).1[2] = p.byte2 := by
    rw [show (fillRandom [3, 4, 5] bytes r).1[2] = bytes[2] from hleft 2 (by decide), hbytes]
    simp
  simp [generateAddress, hasOuiPrefix, ← hbytes, h0, h1, h2, p.unicast]

end EthernetAddress

/-- `IpAddress`, with the four bytes of its base class `IPAddress`. -/
structure IpAddress where
  bytes : Vector UInt8 4
  deriving DecidableEq, Repr

namespace IpAddress

/-- `GenerateAddress`: a link-local address. -/
def generateAddress {R : Type*} [ArduinoRandom R] (r : R) : IpAddress × R :=
  let third := ArduinoRandom.random 1 255 r
  let fourth := ArduinoRandom.random 0 256 third.2
  (⟨#v[169, 254, uint8T third.1, uint8T fourth.1]⟩, fourth.2)

/-- `ReadFromRegion`. -/
def readFromRegion {G : Type*} [EepromRegionReader G] (a : IpAddress) (region : G) :
    Status × IpAddress × G :=
  match EepromRegionReader.readBytes 4 region with
  | (some bytes, region) => (.ok (), ⟨bytes⟩, region)
  | (none, region) => (.error ⟨.unknown, "Unable to read IP from EEPROM"⟩, a, region)

section Write

variable {H : Type*} [EepromRegion H]

/-- The writes of `WriteToRegion`, which stop at the first one that fails. -/
def writeBytes : List UInt8 → H → Bool × H
  | [], region => (true, region)
  | b :: bs, region =>
    let r := EepromRegion.write b region
    if r.1 then writeBytes bs r.2 else r

/-- `WriteToRegion`. -/
def writeToRegion (a : IpAddress) (region : H) : Status × H :=
  let r := writeBytes a.bytes.toList region
  (if r.1 then .ok () else .error ⟨.unknown, "Unable to write IP to EEPROM"⟩, r.2)

/-- Byte by byte, bytes for which there is room are appended. -/
theorem writeBytes_fits [LawfulEepromRegion H] {bytes : List UInt8} {region : H}
    (h : bytes.length ≤ EepromRegion.room region) :
    (writeBytes bytes region).1 = true ∧
      EepromRegion.written (writeBytes bytes region).2 = EepromRegion.written region ++ bytes := by
  induction bytes generalizing region with
  | nil => exact ⟨rfl, (List.append_nil _).symm⟩
  | cons b bs ih =>
    rw [List.length_cons] at h
    have hone : [b].length ≤ EepromRegion.room region := by
      rw [List.length_singleton]
      omega
    obtain ⟨hok, hwritten, hroom⟩ := LawfulEepromRegion.writeBytes_fits [b] region hone
    have hrest : bs.length ≤ EepromRegion.room (EepromRegion.writeBytes [b] region).2 := by
      rw [List.length_singleton] at hroom
      omega
    simp only [writeBytes, LawfulEepromRegion.write_eq, hok, if_true]
    refine (ih hrest).imp_right fun hall => hall.trans ?_
    rw [hwritten, List.append_assoc, List.singleton_append]

end Write

end IpAddress

/-- `Addresses`. -/
structure Addresses where
  ethernet : EthernetAddress
  ip : IpAddress
  deriving DecidableEq, Repr

/-- `GetAddressesTag`. -/
def getAddressesTag : EepromTag := { domain := 100, id := 1 }

namespace Addresses

/-- `GenerateAddresses`. -/
def generateAddresses {R : Type*} [ArduinoRandom R] (ouiPrefix : Option OuiPrefix) (a : Addresses)
    (r : R) : Addresses × R :=
  let ethernet := a.ethernet.generateAddress ouiPrefix r
  let ip := IpAddress.generateAddress ethernet.2
  (⟨ethernet.1, ip.1⟩, ip.2)

section Regions

variable {G H : Type*} [EepromRegionReader G] [EepromRegion H]

/-- `ReadFromRegion`. -/
def readFromRegion (a : Addresses) (region : G) : Status × Addresses × G :=
  match a.ethernet.readFromRegion region with
  | (.ok (), ethernet, region) =>
    let r := a.ip.readFromRegion region
    (r.1, ⟨ethernet, r.2.1⟩, r.2.2)
  | (.error e, ethernet, region) => (.error e, ⟨ethernet, a.ip⟩, region)

/-- `WriteToRegion`. -/
def writeToRegion (a : Addresses) (region : H) : Status × H :=
  match a.ethernet.writeToRegion region with
  | (.ok (), region) => a.ip.writeToRegion region
  | (.error e, region) => (.error e, region)

/-- The ten bytes of an entry. -/
def entry (a : Addresses) : List UInt8 := a.ethernet.bytes.toList ++ a.ip.bytes.toList

/-- **Both addresses are written** into a region that has room for ten bytes. -/
theorem writeToRegion_fits [LawfulEepromRegion H] (a : Addresses) {region : H}
    (h : 4 + 6 ≤ EepromRegion.room region) :
    (a.writeToRegion region).1 = .ok () ∧
      EepromRegion.written (a.writeToRegion region).2 =
        EepromRegion.written region ++ a.entry := by
  have hmac : a.ethernet.bytes.toList.length ≤ EepromRegion.room region := by
    rw [Vector.length_toList]
    omega
  obtain ⟨hok, hwritten, hroom⟩ := LawfulEepromRegion.writeBytes_fits _ region hmac
  rw [Vector.length_toList] at hroom
  have hip : a.ip.bytes.toList.length ≤
      EepromRegion.room (EepromRegion.writeBytes a.ethernet.bytes.toList region).2 := by
    rw [Vector.length_toList]
    omega
  obtain ⟨hok', hwritten'⟩ := IpAddress.writeBytes_fits hip
  simp only [writeToRegion, EthernetAddress.writeToRegion, IpAddress.writeToRegion, hok, hok',
    if_true]
  refine ⟨trivial, hwritten'.trans ?_⟩
  rw [hwritten, entry, List.append_assoc]

/-- The addresses are the first ten of the bytes. -/
structure StoredIn (bytes : List UInt8) (a : Addresses) : Prop where
  enough : 10 ≤ bytes.length
  ethernet : a.ethernet.bytes.toList = bytes.take 6
  ip : a.ip.bytes.toList = (bytes.drop 6).take 4

/-- Ten bytes store one pair of addresses. -/
theorem StoredIn.unique {bytes : List UInt8} {a b : Addresses} (ha : a.StoredIn bytes)
    (hb : b.StoredIn bytes) : a = b := by
  obtain ⟨⟨mac⟩, ⟨ip⟩⟩ := a
  obtain ⟨⟨mac'⟩, ⟨ip'⟩⟩ := b
  obtain rfl := Vector.toList_inj.1 (ha.ethernet.trans hb.ethernet.symm)
  obtain rfl := Vector.toList_inj.1 (ha.ip.trans hb.ip.symm)
  rfl

/-- An entry stores its addresses. -/
theorem storedIn_entry (a : Addresses) : a.StoredIn a.entry where
  enough := by
    rw [entry, List.length_append, Vector.length_toList, Vector.length_toList]
  ethernet := (List.take_left' a.ethernet.bytes.length_toList).symm
  ip := by
    rw [entry, List.drop_left' a.ethernet.bytes.length_toList]
    exact (List.take_of_length_le a.ip.bytes.length_toList.le).symm

variable [LawfulEepromRegionReader G]

/-- **Ten bytes are read**, whatever the addresses were before. -/
theorem readFromRegion_of_le (a : Addresses) {region : G}
    (h : 10 ≤ (EepromRegionReader.rest region).length) : (a.readFromRegion region).1 = .ok () ∧
      (a.readFromRegion region).2.1.StoredIn (EepromRegionReader.rest region) := by
  obtain ⟨mac, region', hmac, hmacBytes, hrest⟩ :=
    LawfulEepromRegionReader.readBytes_of_le 6 region (by omega)
  have hleft : 4 ≤ (EepromRegionReader.rest region').length := by
    rw [hrest, List.length_drop]
    omega
  obtain ⟨ip, region'', hip, hipBytes, -⟩ :=
    LawfulEepromRegionReader.readBytes_of_le 4 region' hleft
  simp only [readFromRegion, EthernetAddress.readFromRegion, IpAddress.readFromRegion, hmac, hip]
  exact ⟨trivial, h, hmacBytes, hrest ▸ hipBytes⟩

/-- Fewer bytes are an error. -/
theorem readFromRegion_of_lt (a : Addresses) {region : G}
    (h : (EepromRegionReader.rest region).length < 10) : (a.readFromRegion region).1 ≠ .ok () := by
  by_cases hmac : 6 ≤ (EepromRegionReader.rest region).length
  · obtain ⟨mac, region', hread, -, hrest⟩ :=
      LawfulEepromRegionReader.readBytes_of_le 6 region hmac
    have hleft : (EepromRegionReader.rest region').length < 4 := by
      rw [hrest, List.length_drop]
      omega
    have hip := LawfulEepromRegionReader.readBytes_of_lt 4 region' hleft
    rcases hr : EepromRegionReader.readBytes 4 region' with ⟨none | ip, region''⟩
    · simp only [readFromRegion, EthernetAddress.readFromRegion, IpAddress.readFromRegion, hread, hr]
      intro hok
      cases hok
    · rw [hr] at hip
      cases hip
  · have hread := LawfulEepromRegionReader.readBytes_of_lt 6 region (not_le.1 hmac)
    rcases hr : EepromRegionReader.readBytes 6 region with ⟨none | mac, region'⟩
    · simp only [readFromRegion, EthernetAddress.readFromRegion, hr]
      intro hok
      cases hok
    · rw [hr] at hread
      cases hread

end Regions

section Entry

variable {T G H : Type*} [EepromRegionReader G] [EepromTlv T G H]

/-- `ReadEepromEntry`. -/
def readEepromEntry (eeprom : T) (ouiPrefix : Option OuiPrefix) (a : Addresses) :
    Status × Addresses :=
  match EepromTlv.findEntry getAddressesTag eeprom with
  | .error e => (.error e, a)
  | .ok region =>
    let r := a.readFromRegion region
    match r.1, ouiPrefix with
    | .ok (), some p =>
      if r.2.1.ethernet.hasOuiPrefix p then (.ok (), r.2.1)
      else (.error ⟨.failedPrecondition, "Stored OUI prefix mismatch"⟩, r.2.1)
    | status, _ => (status, r.2.1)

/-- `WriteEepromEntry`. -/
def writeEepromEntry [EepromRegion H] (a : Addresses) (eeprom : T) : Status × T :=
  EepromTlv.writeEntryToCursor getAddressesTag (4 + 6) a.writeToRegion eeprom

/-- What is read does not depend on what the addresses were before. -/
theorem readFromRegion_ok {a : Addresses} {region : G}
    (h : (a.readFromRegion region).1 = .ok ()) (b : Addresses) :
    (b.readFromRegion region).1 = .ok () ∧
      (b.readFromRegion region).2.1 = (a.readFromRegion region).2.1 := by
  rcases hmac : EepromRegionReader.readBytes 6 region with ⟨mac, rest⟩
  cases mac with
  | none =>
    simp only [readFromRegion, EthernetAddress.readFromRegion, hmac] at h
    exact absurd h nofun
  | some mac =>
    rcases hip : EepromRegionReader.readBytes 4 rest with ⟨ip, last⟩
    simp only [readFromRegion, EthernetAddress.readFromRegion, IpAddress.readFromRegion, hmac,
      hip] at h ⊢
    cases ip with
    | none => exact absurd h nofun
    | some ip => exact ⟨rfl, rfl⟩

/-- The EEPROM has an entry for the addresses, and it is `a`. -/
def Holds (eeprom : T) (a : Addresses) : Prop :=
  ∃ region, EepromTlv.findEntry getAddressesTag eeprom = .ok region ∧
    ∀ b : Addresses, (b.readFromRegion region).1 = .ok () ∧ (b.readFromRegion region).2.1 = a

/-- **When loading succeeds**: the addresses are in the EEPROM, and the Ethernet
address has the prefix if one is given. -/
theorem readEepromEntry_ok {eeprom : T} {q : Option OuiPrefix} {a b : Addresses} :
    b.readEepromEntry eeprom q = (.ok (), a) ↔
      Holds eeprom a ∧ ∀ p, q = some p → a.ethernet.hasOuiPrefix p = true := by
  constructor
  · intro h
    rw [readEepromEntry] at h
    rcases hfind : EepromTlv.findEntry getAddressesTag eeprom with e | region
    · rw [hfind] at h
      exact absurd (Prod.mk.inj h).1 nofun
    rw [hfind] at h
    dsimp only at h
    rcases hread : (b.readFromRegion region).1 with e | ⟨⟩
    · rw [hread] at h
      exact absurd (Prod.mk.inj h).1 nofun
    have hregion := readFromRegion_ok hread
    rw [hread] at h
    cases q with
    | none =>
      obtain ⟨-, ha⟩ := Prod.mk.inj h
      exact ⟨⟨region, hfind, ha ▸ hregion⟩, nofun⟩
    | some p =>
      dsimp only at h
      split_ifs at h with hp
      · obtain ⟨-, ha⟩ := Prod.mk.inj h
        refine ⟨⟨region, hfind, ha ▸ hregion⟩, ?_⟩
        rintro _ ⟨⟩
        exact ha ▸ hp
      · exact absurd (Prod.mk.inj h).1 nofun
  · rintro ⟨⟨region, hfind, hregion⟩, houi⟩
    obtain ⟨hok, ha⟩ := hregion b
    rw [readEepromEntry, hfind]
    dsimp only
    rw [hok, ha]
    cases q with
    | none => rfl
    | some p =>
      dsimp only
      rw [if_pos (houi p rfl)]

/-- **What was saved is in the EEPROM.** -/
theorem holds_writeEepromEntry [EepromRegion H] [LawfulEepromRegionReader G]
    [LawfulEepromRegion H] [LawfulEepromTlv T G H] {a : Addresses} {eeprom : T}
    (h : (a.writeEepromEntry eeprom).1 = .ok ()) : Holds (a.writeEepromEntry eeprom).2 a := by
  obtain ⟨region, reader, hnew, hroom, hfind, hrest⟩ := LawfulEepromTlv.findEntry_written _ _ _ _ h
  have hentry : EepromRegionReader.rest reader = a.entry := by
    rw [hrest, (a.writeToRegion_fits hroom.ge).2, hnew, List.nil_append]
  have hstored : a.StoredIn (EepromRegionReader.rest reader) := hentry ▸ a.storedIn_entry
  refine ⟨reader, hfind, fun b => ?_⟩
  obtain ⟨hok, hread⟩ := b.readFromRegion_of_le hstored.enough
  exact ⟨hok, hread.unique hstored⟩

end Entry

end Addresses
end McuNet
