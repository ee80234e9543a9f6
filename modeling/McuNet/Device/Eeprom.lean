/-
# The EEPROM of a device

What `src/addresses.cpp`, `src/ethernet_address.cpp`, `src/ip_address.cpp` and
`src/ip_device.cpp` use of the McuCore library, which is not part of the sources:
statuses, the regions of the EEPROM that are read and written through a cursor,
and the entries that are kept under tags.  Regions, entries and random numbers are
parameters, with classes for what is documented of them.
-/

import Mathlib.Data.UInt

namespace McuNet

/-- The codes of `mcucore::StatusCode` that are named in the sources. -/
inductive StatusCode where
  | unknown
  | notFound
  | failedPrecondition
  | other (code : ℕ)
  deriving DecidableEq, Repr

/-- A `mcucore::Status` that is not OK. -/
structure StatusError where
  code : StatusCode
  message : String
  deriving DecidableEq, Repr

/-- `mcucore::Status`. -/
abbrev Status : Type := Except StatusError Unit

/-- `EepromTag`: what an entry is kept under. -/
structure EepromTag where
  domain : ℕ
  id : ℕ
  deriving DecidableEq, Repr

/-! ### Regions

`EepromRegionReader` and `EepromRegion` are parameters: what the sources use of them, and
what is documented of that, which is that they copy bytes and check the bounds. -/

/-- `EepromRegionReader`: `ReadBytes`, which reads `n` bytes at the cursor, or fails.
`rest` is for the laws: the bytes that are there to be read, from the cursor on. -/
class EepromRegionReader (G : Type*) where
  readBytes : (n : ℕ) → G → Option (Vector UInt8 n) × G
  rest : G → List UInt8

/-- Bytes that are there are read, and the cursor moves past them; too few are not. -/
class LawfulEepromRegionReader (G : Type*) [EepromRegionReader G] : Prop where
  readBytes_of_le : ∀ (n : ℕ) (region : G), n ≤ (EepromRegionReader.rest region).length →
    ∃ bytes region', EepromRegionReader.readBytes n region = (some bytes, region') ∧
      bytes.toList = (EepromRegionReader.rest region).take n ∧
      EepromRegionReader.rest region' = (EepromRegionReader.rest region).drop n
  readBytes_of_lt : ∀ (n : ℕ) (region : G), (EepromRegionReader.rest region).length < n →
    (EepromRegionReader.readBytes n region).1 = none

/-- `EepromRegion` when it is written: `WriteBytes` and `Write`.  `written` and `room` are
for the laws: what was written so far, and for how many bytes there is room after it. -/
class EepromRegion (H : Type*) where
  writeBytes : List UInt8 → H → Bool × H
  write : UInt8 → H → Bool × H
  written : H → List UInt8
  room : H → ℕ

/-- Bytes for which there is room are appended, a single one as a block of one byte. -/
class LawfulEepromRegion (H : Type*) [EepromRegion H] : Prop where
  writeBytes_fits : ∀ (bytes : List UInt8) (region : H), bytes.length ≤ EepromRegion.room region →
    (EepromRegion.writeBytes bytes region).1 = true ∧
      EepromRegion.written (EepromRegion.writeBytes bytes region).2 =
        EepromRegion.written region ++ bytes ∧
      EepromRegion.room (EepromRegion.writeBytes bytes region).2 + bytes.length =
        EepromRegion.room region
  write_eq : ∀ (b : UInt8) (region : H),
    EepromRegion.write b region = EepromRegion.writeBytes [b] region

/-! ### Entries -/

/-- `EepromTlv`, on the contents `T` of the EEPROM, with the regions that it reads (`G`) and
writes (`H`).  `writeEntryToCursor` is given what writes the entry into its region. -/
class EepromTlv (T : Type*) (G H : outParam (Type*)) where
  findEntry : EepromTag → T → Except StatusError G
  writeEntryToCursor : EepromTag → ℕ → (H → Status × H) → T → Status × T

/-- What is documented of entries: one that was written is found, with the bytes that were
written into its region, which was empty and had room for as many bytes as were asked for. -/
class LawfulEepromTlv (T : Type*) (G H : outParam (Type*)) [EepromRegionReader G]
    [EepromRegion H] [EepromTlv T G H] : Prop where
  findEntry_written : ∀ (tag : EepromTag) (n : ℕ) (f : H → Status × H) (eeprom : T),
    (EepromTlv.writeEntryToCursor tag n f eeprom).1 = .ok () →
      ∃ (region : H) (reader : G), EepromRegion.written region = [] ∧
        EepromRegion.room region = n ∧
        EepromTlv.findEntry tag (EepromTlv.writeEntryToCursor tag n f eeprom).2 = .ok reader ∧
        EepromRegionReader.rest reader = EepromRegion.written (f region).2

/-! ### Random numbers -/

/-- `random` of the Arduino library, on the state `R` of the generator: a number
from `howsmall` on and below `howbig`. -/
class ArduinoRandom (R : Type*) where
  random : (howsmall howbig : ℤ) → R → ℤ × R

/-- An integer converted to `uint8_t`. -/
def uint8T (n : ℤ) : UInt8 := UInt8.ofNat (n % 2 ^ 8).toNat

end McuNet
