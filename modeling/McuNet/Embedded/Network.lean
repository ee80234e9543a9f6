/-
# The platform network on the chip

The `#else` branches of `src/platform_network.cpp`.

On the Arduino `PlatformNetwork` is a thin layer over the Ethernet5500 library,
which drives the W5500; neither is part of the sources.  `Ethernet5500 C` has
the calls made of them, on a state `C` of the chip, the library and the clock.
The only state of the layer itself is `EthernetClass::_server_port`, the port
that each hardware socket is or was last listening on.
-/

import McuNet.Platform.Interface

namespace McuNet

/-- The calls of the Ethernet5500 library.  `socket` is called with `SnMR::TCP`
and no flags. -/
class Ethernet5500 (C : Type*) where
  status : UInt8 → C → UInt8 × C
  socket : UInt8 → UInt16 → C → C
  listen : UInt8 → C → C
  disconnect : UInt8 → C → C
  close : UInt8 → C → C
  client : UInt8 → Client C
  millis : C → UInt32 × C
  elapsedMillis : UInt32 → C → UInt32 × C

/-- The chip, and `EthernetClass::_server_port`. -/
structure EmbeddedNetwork (C : Type*) where
  chip : C
  serverPort : UInt8 → UInt16 := fun _ => 0

/-- The socket numbers in the order of the loop in `FindUnusedSocket`. -/
def socketNumbers : List UInt8 := (List.range maxSockNum.toNat).map UInt8.ofNat

namespace EmbeddedNetwork

variable {C : Type*} [Ethernet5500 C]

/-- A call that only concerns the chip. -/
def onChip {α : Type*} (call : C → α × C) (w : EmbeddedNetwork C) : α × EmbeddedNetwork C :=
  let r := call w.chip
  (r.1, { w with chip := r.2 })

/-- `SocketStatus`. -/
def socketStatus (n : UInt8) : EmbeddedNetwork C → UInt8 × EmbeddedNetwork C :=
  onChip (Ethernet5500.status n)

/-- `SocketIsClosed`. -/
def socketIsClosed (n : UInt8) (w : EmbeddedNetwork C) : Bool × EmbeddedNetwork C :=
  let status := socketStatus n w
  (status.1 == SnSR.closed, status.2)

/-- The loop of `FindUnusedSocket`, from some socket number on. -/
def findUnusedSocketIn : List UInt8 → EmbeddedNetwork C → ℤ × EmbeddedNetwork C
  | [], w => (-1, w)
  | n :: rest, w =>
    let closed := socketIsClosed n w
    if closed.1 then (n.toNat, closed.2) else findUnusedSocketIn rest closed.2

/-- Status reads leave the remembered ports alone. -/
theorem serverPort_findUnusedSocketIn (l : List UInt8) (w : EmbeddedNetwork C) :
    (findUnusedSocketIn l w).2.serverPort = w.serverPort := by
  induction l generalizing w with
  | nil => rfl
  | cons n rest ih =>
    simp only [findUnusedSocketIn]
    split_ifs
    · rfl
    · exact ih _

/-- `FindUnusedSocket`. -/
def findUnusedSocket : EmbeddedNetwork C → ℤ × EmbeddedNetwork C := findUnusedSocketIn socketNumbers

/-- `SocketIsTcpListener`. -/
def socketIsTcpListener (n : UInt8) (w : EmbeddedNetwork C) : UInt16 × EmbeddedNetwork C :=
  let status := socketStatus n w
  (if status.1 = SnSR.listen then w.serverPort n else 0, status.2)

/-- The statuses for which `SocketIsInTcpConnectionLifecycle` is true. -/
def statusIsInTcpConnectionLifecycle (status : UInt8) : Bool :=
  status ∈ [SnSR.synRecv, SnSR.established, SnSR.closeWait, SnSR.finWait, SnSR.closing,
    SnSR.timeWait, SnSR.lastAck, SnSR.init, SnSR.synSent]

/-- `SocketIsInTcpConnectionLifecycle`. -/
def socketIsInTcpConnectionLifecycle (n : UInt8) (w : EmbeddedNetwork C) :
    Bool × EmbeddedNetwork C :=
  let status := socketStatus n w
  (statusIsInTcpConnectionLifecycle status.1, status.2)

/-- `InitializeTcpListenerSocket`: a socket that is not closed is left alone, and
so is one that was last used for another port. -/
def initializeTcpListenerSocket (n : UInt8) (port : UInt16) (w : EmbeddedNetwork C) :
    Bool × EmbeddedNetwork C :=
  let status := socketStatus n w
  if status.1 = SnSR.closed then
    if w.serverPort n = port ∨ w.serverPort n = 0 then
      (true,
        { chip := Ethernet5500.listen n (Ethernet5500.socket n port status.2.chip)
          serverPort := Function.update w.serverPort n port })
    else (false, status.2)
  else (false, status.2)

/-- `DisconnectSocket`. -/
def disconnectSocket (n : UInt8) (w : EmbeddedNetwork C) : Bool × EmbeddedNetwork C :=
  (true, { w with chip := Ethernet5500.disconnect n w.chip })

/-- `CloseSocket`. -/
def closeSocket (n : UInt8) (w : EmbeddedNetwork C) : Bool × EmbeddedNetwork C :=
  (true, { w with chip := Ethernet5500.close n w.chip })

/-- The library's `EthernetClient` for a socket. -/
def ethernetClient (n : UInt8) : Client (EmbeddedNetwork C) where
  write p size := onChip ((Ethernet5500.client n).write p size)
  getWriteError := onChip (Ethernet5500.client n).getWriteError
  available := onChip (Ethernet5500.client n).available
  read := onChip (Ethernet5500.client n).read
  readBuf size := onChip ((Ethernet5500.client n).readBuf size)
  peek := onChip (Ethernet5500.client n).peek
  connected := onChip (Ethernet5500.client n).connected

instance : Platform (EmbeddedNetwork C) where
  findUnusedSocket := findUnusedSocket
  socketIsTcpListener := socketIsTcpListener
  socketIsInTcpConnectionLifecycle := socketIsInTcpConnectionLifecycle
  socketStatus := socketStatus
  initializeTcpListenerSocket := initializeTcpListenerSocket
  disconnectSocket := disconnectSocket
  closeSocket := closeSocket
  ethernetClient := ethernetClient
  millis := onChip Ethernet5500.millis
  elapsedMillis t := onChip (Ethernet5500.elapsedMillis t)

end EmbeddedNetwork
end McuNet
