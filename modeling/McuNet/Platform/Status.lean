/-
# The status byte of a hardware socket

`SnSR` in `extras/host/ethernet5500/w5500.h`, and `StatusIsOpen` and
`StatusIsClosing` in `src/platform_network.cpp`.

A W5500 reports what a hardware socket is doing in one register byte.  Fifteen
values are documented; a read may return any byte, and `ServerSocket` meets the
others in the `default` case of its switch.
-/

import Mathlib.Data.UInt

namespace McuNet

namespace SnSR

/-- `CLOSED`: not in use. -/
def closed : UInt8 := 0x00

/-- `INIT`: opened for TCP, and neither listening nor connecting yet. -/
def init : UInt8 := 0x13

/-- `LISTEN`: waiting for a peer to connect. -/
def listen : UInt8 := 0x14

/-- `SYNSENT`: a connection was asked for. -/
def synSent : UInt8 := 0x15

/-- `SYNRECV`: a peer has asked for a connection. -/
def synRecv : UInt8 := 0x16

/-- `ESTABLISHED`: connected. -/
def established : UInt8 := 0x17

/-- `FIN_WAIT`: this side has ended the connection. -/
def finWait : UInt8 := 0x18

/-- `CLOSING`: both sides have ended it, at the same time. -/
def closing : UInt8 := 0x1A

/-- `TIME_WAIT`: both sides have ended it, and late packets are waited for. -/
def timeWait : UInt8 := 0x1B

/-- `CLOSE_WAIT`: the peer has ended the connection, which can still be written to. -/
def closeWait : UInt8 := 0x1C

/-- `LAST_ACK`: this side has ended it after the peer, and waits for the acknowledgement. -/
def lastAck : UInt8 := 0x1D

/-- `UDP`: opened for UDP. -/
def udp : UInt8 := 0x22

/-- `IPRAW`: opened for IP packets. -/
def ipRaw : UInt8 := 0x32

/-- `MACRAW`: opened for Ethernet frames. -/
def macRaw : UInt8 := 0x42

/-- `PPPOE`: opened for PPPoE. -/
def pppoe : UInt8 := 0x5F

/-- The values the datasheet documents. -/
def documented : List UInt8 :=
  [closed, init, listen, synSent, synRecv, established, finWait, closing, timeWait, closeWait,
    lastAck, udp, ipRaw, macRaw, pppoe]

end SnSR

/-- `MAX_SOCK_NUM`: the hardware sockets are `0` to `7`, and as a socket number
it stands for "no hardware socket". -/
def maxSockNum : UInt8 := 8

/-- `PlatformNetwork::StatusIsOpen`. -/
def statusIsOpen (status : UInt8) : Bool :=
  status == SnSR.established || status == SnSR.closeWait

/-- `PlatformNetwork::StatusIsClosing`. -/
def statusIsClosing (status : UInt8) : Bool :=
  status == SnSR.finWait || status == SnSR.closing || status == SnSR.timeWait ||
    status == SnSR.lastAck

/-- An open status is one of two bytes. -/
theorem statusIsOpen_iff {s : UInt8} :
    statusIsOpen s = true ↔ s = SnSR.established ∨ s = SnSR.closeWait := by
  simp [statusIsOpen]

/-- A connection is open while both sides write to it. -/
theorem statusIsOpen_established : statusIsOpen SnSR.established = true := rfl

/-- It stays open when the peer has ended its side. -/
theorem statusIsOpen_closeWait : statusIsOpen SnSR.closeWait = true := rfl

/-- The four closing statuses. -/
theorem statusIsClosing_iff {s : UInt8} :
    statusIsClosing s = true ↔
      s = SnSR.finWait ∨ s = SnSR.closing ∨ s = SnSR.timeWait ∨ s = SnSR.lastAck := by
  simp [statusIsClosing, or_assoc]

/-- No status is both open and closing. -/
theorem statusIsOpen_of_closing {s : UInt8} (h : statusIsClosing s = true) :
    statusIsOpen s = false := by
  rcases statusIsClosing_iff.1 h with rfl | rfl | rfl | rfl <;> rfl

/-- The open statuses are documented. -/
theorem mem_documented_of_open {s : UInt8} (h : statusIsOpen s = true) : s ∈ SnSR.documented := by
  rcases statusIsOpen_iff.1 h with rfl | rfl <;> decide

/-- The closing statuses are documented. -/
theorem mem_documented_of_closing {s : UInt8} (h : statusIsClosing s = true) :
    s ∈ SnSR.documented := by
  rcases statusIsClosing_iff.1 h with rfl | rfl | rfl | rfl <;> decide

/-- **A byte that is not documented is never taken for an open status.** -/
theorem statusIsOpen_of_not_documented {s : UInt8} (h : s ∉ SnSR.documented) :
    statusIsOpen s = false := by
  by_contra ho
  exact h (mem_documented_of_open (by simpa using ho))

end McuNet
