/-
# The connection a listener is given

`src/tcp_server_connection.h`, `src/tcp_server_connection.cpp`,
`src/connection.h` and `src/socket_listener.h`.

For each callback `ServerSocket` builds a `TcpServerConnection` on the stack: a
write buffer in front of the socket's `EthernetClient`, and a reference to the
socket's `DisconnectData`, which the constructor resets.  `close` does not wait
for anything: it flushes, starts the disconnect and records that the listener
asked for it.

What a listener does with the connection is a program over its methods
(`McuNet.Core.Program`), so it may call them in any order, any number of times
and depending on what they return.  Only `close` touches the socket's status and
the disconnect record; `call_frame` says so once, and `serve_invariant` reduces
a property of whole callbacks to it.
-/

import McuNet.Connection.WriteBuffered
import McuNet.Core.Program

namespace McuNet

/-- `disconnectData` is a reference to the data of the `ServerSocket`, which has
no access to it while the connection is in use. -/
structure TcpServerConnection (W : Type*) extends WriteBufferedConnection where
  disconnectData : DisconnectData W
  sockNum : UInt8

namespace TcpServerConnection

variable {W : Type*} [Platform W]

/-- `kWriteBufferSize` of `src/server_socket.cpp`. -/
def kWriteBufferSize : ℕ := 255

/-- The constructor, with the buffer that `ServerSocket` allocates for it. -/
def new (sockNum : UInt8) : TcpServerConnection W where
  writeBuffer := List.replicate kWriteBufferSize 0
  writeBufferLimit := kWriteBufferSize
  disconnectData := DisconnectData.reset
  sockNum := sockNum

/-- `flush`, also called by the destructor. -/
def flush (conn : TcpServerConnection W) (w : W) : TcpServerConnection W × W :=
  let r := conn.toWriteBufferedConnection.flush (Platform.ethernetClient conn.sockNum) w
  ({ conn with toWriteBufferedConnection := r.1 }, r.2)

/-- The part of `close` before the disconnect is recorded. -/
def startDisconnect (conn : TcpServerConnection W) (w : W) : TcpServerConnection W × W :=
  let status := Platform.socketStatus conn.sockNum w
  if status.1 = SnSR.established ∨ status.1 = SnSR.closeWait then
    let r := conn.flush status.2
    let status := Platform.socketStatus conn.sockNum r.2
    if status.1 = SnSR.established ∨ status.1 = SnSR.closeWait then
      let d := Platform.disconnectSocket conn.sockNum status.2
      (r.1, (Platform.socketStatus conn.sockNum d.2).2)
    else (r.1, status.2)
  else (conn, status.2)

/-- `close`. -/
def close (conn : TcpServerConnection W) (w : W) : TcpServerConnection W × W :=
  let r := conn.startDisconnect w
  let d := r.1.disconnectData.recordDisconnect r.2
  ({ r.1 with disconnectData := d.1 }, d.2)

end TcpServerConnection

/-- The methods of `Connection`, with those of `Print` that read and clear the
write error. -/
inductive ConnectionOp where
  | write (b : UInt8)
  | writeBuf (buf : List UInt8)
  | availableForWrite
  | flush
  | available
  | read
  | readBuf (size : ℕ)
  | peek
  | connected
  | getWriteError
  | clearWriteError
  | close
  deriving DecidableEq, Repr

/-- What a method returns, and the bytes it put into the caller's buffer. -/
structure Reply where
  value : ℤ := 0
  bytes : List UInt8 := []
  deriving DecidableEq, Repr

/-- A callback under way.  `closed` is a ghost: the listener has called
`close`. -/
structure Serving (W : Type*) where
  conn : TcpServerConnection W
  net : W
  closed : Bool := false

namespace Serving

variable {W : Type*} [Platform W]

/-- The connection's buffer and the platform after a call. -/
def put (s : Serving W) (conn : WriteBufferedConnection) (w : W) : Serving W :=
  { s with conn := { s.conn with toWriteBufferedConnection := conn }, net := w }

/-- A call that the connection passes on to its client. -/
def pass (s : Serving W) (r : ℤ × W) : Reply × Serving W := ({ value := r.1 }, { s with net := r.2 })

/-- One call of the listener. -/
def call (op : ConnectionOp) (s : Serving W) : Reply × Serving W :=
  let client := Platform.ethernetClient (W := W) s.conn.sockNum
  let conn := s.conn.toWriteBufferedConnection
  match op with
  | .write b =>
    let r := conn.write client b s.net
    ({ value := r.1 }, s.put r.2.1 r.2.2)
  | .writeBuf buf =>
    let r := conn.writeBuf client buf s.net
    ({ value := r.1 }, s.put r.2.1 r.2.2)
  | .availableForWrite => ({ value := conn.availableForWrite }, s)
  | .flush =>
    let r := conn.flush client s.net
    ({}, s.put r.1 r.2)
  | .available => s.pass (client.available s.net)
  | .read => s.pass (client.read s.net)
  | .readBuf size =>
    let r := client.readBuf size s.net
    ({ value := r.1.1, bytes := r.1.2 }, { s with net := r.2 })
  | .peek => s.pass (client.peek s.net)
  | .connected => s.pass (client.connected s.net)
  | .getWriteError => ({ value := conn.writeError }, s)
  | .clearWriteError => ({}, s.put { conn with writeError := 0 } s.net)
  | .close =>
    let r := s.conn.close s.net
    ({}, { conn := r.1, net := r.2, closed := true })

/-- A callback: the listener's program runs on a new connection. -/
def serve {α : Type*} (p : Program ConnectionOp Reply α) (sockNum : UInt8) (w : W) :
    α × Serving W :=
  p.run call { conn := TcpServerConnection.new sockNum, net := w }

/-! ### What only `close` changes -/

/-- Two moments of a callback with no `close` between them. -/
structure Frame (R : W → W → Prop) (s t : Serving W) : Prop where
  sockNum : t.conn.sockNum = s.conn.sockNum
  data : t.conn.disconnectData = s.conn.disconnectData
  closed : t.closed = s.closed
  net : R s.net t.net

section Rules

variable {R : W → W → Prop} (refl : ∀ w, R w w) (trans : ∀ {a b c}, R a b → R b c → R a c)

include refl trans

/-- **Only `close` changes more than the buffer and what the client may
change.** -/
theorem call_frame {op : ConnectionOp} (hop : op ≠ .close) (s : Serving W)
    (hm : (Platform.ethernetClient (W := W) s.conn.sockNum).Moves R) :
    Frame R s (s.call op).2 := by
  cases op with
  | write b => exact ⟨rfl, rfl, rfl, WriteBufferedConnection.write_rel refl trans hm b _ _⟩
  | writeBuf buf =>
    exact ⟨rfl, rfl, rfl, WriteBufferedConnection.writeBuf_rel refl trans hm buf _ _⟩
  | availableForWrite => exact ⟨rfl, rfl, rfl, refl _⟩
  | flush => exact ⟨rfl, rfl, rfl, WriteBufferedConnection.flush_rel refl trans hm _ _⟩
  | available => exact ⟨rfl, rfl, rfl, hm.available _⟩
  | read => exact ⟨rfl, rfl, rfl, hm.read _⟩
  | readBuf size => exact ⟨rfl, rfl, rfl, hm.readBuf size _⟩
  | peek => exact ⟨rfl, rfl, rfl, hm.peek _⟩
  | connected => exact ⟨rfl, rfl, rfl, hm.connected _⟩
  | getWriteError => exact ⟨rfl, rfl, rfl, refl _⟩
  | clearWriteError => exact ⟨rfl, rfl, rfl, refl _⟩
  | close => exact absurd rfl hop

/-- **The rule for callbacks.**  What holds of a new connection, survives the
calls that are not `close`, and survives `close`, holds when the callback
returns. -/
theorem serve_invariant (hm : ∀ n, (Platform.ethernetClient (W := W) n).Moves R)
    {I : Serving W → Prop} {α : Type*} (p : Program ConnectionOp Reply α)
    {sockNum : UInt8} {w : W} (hframe : ∀ s t, Frame R s t → I s → I t)
    (hclose : ∀ s, I s → I (s.call .close).2)
    (hnew : I { conn := TcpServerConnection.new sockNum, net := w }) : I (serve p sockNum w).2 := by
  refine p.run_invariant (fun op s hs => ?_) hnew
  by_cases hop : op = .close
  · exact hop ▸ hclose s hs
  · exact hframe s _ (call_frame refl trans hop s (hm _)) hs

end Rules

end Serving
end McuNet
