/-
# What a server socket calls

`src/platform_network_api.cc.inc`, `extras/host/arduino/client.h`,
`src/disconnect_data.h` and `src/disconnect_data.cpp`.

A `ServerSocket` owns very little: nearly everything it decides is read from the
network chip, and everything it does is a call to `PlatformNetwork`, to an
`EthernetClient` or to the clock.  `Platform W` collects these calls as
functions on a state `W`: the chip or the host's kernel, the peers, the clock
and whatever else exists outside the object.  A call may change all of it, so
what the peer and the chip do between two calls is part of the next call.  The
embedded and the host implementation are two instances
(`McuNet.Embedded.Network`, `McuNet.Host.Network`).

`StatusIsOpen` is the same function in both implementations and is not a field.
The remaining functions of the interface are used by the implementations only.
-/

import McuNet.Platform.Status

namespace McuNet

/-- A `const uint8_t*` into a block of memory: the bytes of the block that may
be read, and the position in it. -/
structure Ptr where
  block : List UInt8
  offset : ℕ
  deriving DecidableEq, Repr

/-- The `n` bytes from a pointer on. -/
def Ptr.bytes (p : Ptr) (n : ℕ) : List UInt8 := (p.block.drop p.offset).take n

/-- The part of Arduino's `Client` that a connection uses.  `write` and
`readBuf` are the overloads with a buffer; the sizes and counts are `size_t`
and `int`. -/
structure Client (κ : Type*) where
  write : Ptr → ℕ → κ → ℕ × κ
  getWriteError : κ → ℤ × κ
  available : κ → ℤ × κ
  read : κ → ℤ × κ
  readBuf : ℕ → κ → (ℤ × List UInt8) × κ
  peek : κ → ℤ × κ
  connected : κ → ℤ × κ

namespace Client

variable {κ : Type*}

/-- The client's contract with a caller of `write`: it never reports more bytes
than it was given. -/
def Lawful (client : Client κ) : Prop := ∀ p n k, (client.write p n k).1 ≤ n

/-- Every call of the client changes the state as `R` allows. -/
structure Moves (R : κ → κ → Prop) (client : Client κ) : Prop where
  write : ∀ p n k, R k (client.write p n k).2
  getWriteError : ∀ k, R k (client.getWriteError k).2
  available : ∀ k, R k (client.available k).2
  read : ∀ k, R k (client.read k).2
  readBuf : ∀ n k, R k (client.readBuf n k).2
  peek : ∀ k, R k (client.peek k).2
  connected : ∀ k, R k (client.connected k).2

end Client

/-- The calls a `ServerSocket` and its connections make, on a state `W` that
holds everything outside of them. -/
class Platform (W : Type*) where
  findUnusedSocket : W → ℤ × W
  socketIsTcpListener : UInt8 → W → UInt16 × W
  socketIsInTcpConnectionLifecycle : UInt8 → W → Bool × W
  socketStatus : UInt8 → W → UInt8 × W
  initializeTcpListenerSocket : UInt8 → UInt16 → W → Bool × W
  disconnectSocket : UInt8 → W → Bool × W
  closeSocket : UInt8 → W → Bool × W
  ethernetClient : UInt8 → Client W
  millis : W → UInt32 × W
  elapsedMillis : UInt32 → W → UInt32 × W

/-- `DisconnectData`: whether and when the end of a connection was noticed.  It
starts disconnected, as there is no connection at startup.  `recordedIn` is a
ghost: the state in which the clock was read. -/
structure DisconnectData (W : Type*) where
  disconnected : Bool := true
  disconnectTimeMillis : UInt32 := 0
  recordedIn : Option W := none

namespace DisconnectData

variable {W : Type*} [Platform W]

/-- `DisconnectData::RecordDisconnect`: only the first call after a `Reset`
reads the clock. -/
def recordDisconnect (data : DisconnectData W) (w : W) : DisconnectData W × W :=
  if data.disconnected then (data, w)
  else
    let now := Platform.millis w
    ({ disconnected := true, disconnectTimeMillis := now.1, recordedIn := some w }, now.2)

/-- `DisconnectData::Reset`. -/
def reset : DisconnectData W := { disconnected := false, disconnectTimeMillis := 0 }

/-- `DisconnectData::ElapsedDisconnectTime`. -/
def elapsedDisconnectTime (data : DisconnectData W) (w : W) : UInt32 × W :=
  Platform.elapsedMillis data.disconnectTimeMillis w

/-- Whatever was recorded before, afterwards a disconnect is recorded. -/
@[simp] theorem recordDisconnect_disconnected (data : DisconnectData W) (w : W) :
    (data.recordDisconnect w).1.disconnected = true := by
  unfold recordDisconnect
  split_ifs with h
  · exact h
  · rfl

/-- A second record changes nothing. -/
theorem recordDisconnect_of_disconnected {data : DisconnectData W} (h : data.disconnected = true)
    (w : W) : data.recordDisconnect w = (data, w) := by
  rw [recordDisconnect, if_pos h]

end DisconnectData

end McuNet
