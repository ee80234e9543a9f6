/-
# A platform whose traffic is recorded

To say what a program on top of `ServerSocket` does with the data, the platform is given
a record of what its clients' reads returned (`Heard`) and of the calls of their `write`
(`Recorded`, from `McuNet.Connection.Stream`).  Both are ghosts: each call does what it
does on the platform inside.
-/

import McuNet.Server.Traffic

namespace McuNet

/-- A platform inside of a larger state, which has clients of its own. -/
@[reducible]
def Platform.within {W V : Type*} [Platform W] (get : V → W) (put : W → V → V)
    (client : UInt8 → Client V) : Platform V where
  findUnusedSocket v :=
    ((Platform.findUnusedSocket (get v)).1, put (Platform.findUnusedSocket (get v)).2 v)
  socketIsTcpListener n v :=
    ((Platform.socketIsTcpListener n (get v)).1, put (Platform.socketIsTcpListener n (get v)).2 v)
  socketIsInTcpConnectionLifecycle n v :=
    ((Platform.socketIsInTcpConnectionLifecycle n (get v)).1,
      put (Platform.socketIsInTcpConnectionLifecycle n (get v)).2 v)
  socketStatus n v :=
    ((Platform.socketStatus n (get v)).1, put (Platform.socketStatus n (get v)).2 v)
  initializeTcpListenerSocket n port v :=
    ((Platform.initializeTcpListenerSocket n port (get v)).1,
      put (Platform.initializeTcpListenerSocket n port (get v)).2 v)
  disconnectSocket n v :=
    ((Platform.disconnectSocket n (get v)).1, put (Platform.disconnectSocket n (get v)).2 v)
  closeSocket n v :=
    ((Platform.closeSocket n (get v)).1, put (Platform.closeSocket n (get v)).2 v)
  ethernetClient := client
  millis v := ((Platform.millis (get v)).1, put (Platform.millis (get v)).2 v)
  elapsedMillis t v :=
    ((Platform.elapsedMillis t (get v)).1, put (Platform.elapsedMillis t (get v)).2 v)

/-- What the platform inside does when it moves no data, carried over to the larger state. -/
theorem ControlMoves.within {W V : Type*} [Platform W] {Q : W → W → Prop} {R : V → V → Prop}
    (inner : ControlMoves Q) (get : V → W) (put : W → V → V) (client : UInt8 → Client V)
    (refl : ∀ v, R v v) (trans : ∀ {a b c}, R a b → R b c → R a c)
    (hput : ∀ v w, Q (get v) w → R v (put w v))
    (havailable : ∀ n v, R v ((client n).available v).2) :
    @ControlMoves V (Platform.within get put client) R :=
  @ControlMoves.mk V (Platform.within get put client) R refl trans
    (fun _ => hput _ _ (inner.findUnusedSocket _))
    (fun n _ => hput _ _ (inner.socketIsTcpListener n _))
    (fun n _ => hput _ _ (inner.socketIsInTcpConnectionLifecycle n _))
    (fun n _ => hput _ _ (inner.socketStatus n _))
    (fun n port _ => hput _ _ (inner.initializeTcpListenerSocket n port _))
    (fun n _ => hput _ _ (inner.disconnectSocket n _))
    (fun n _ => hput _ _ (inner.closeSocket n _)) havailable
    (fun _ => hput _ _ (inner.millis _)) (fun t _ => hput _ _ (inner.elapsedMillis t _))

/-- The bytes that a `read` into a buffer has put there. -/
def bytesRead (r : ℤ × List UInt8) : List UInt8 := r.2.take r.1.toNat

/-- A state and, as a ghost, the bytes that reads from it returned. -/
structure Heard (κ : Type*) where
  inner : κ
  heard : List UInt8 := []

/-- The client with its reads recorded.  `peek` and `available` are for looking only. -/
def Client.hearing {κ : Type*} (client : Client κ) : Client (Heard κ) where
  write p n k := ((client.write p n k.inner).1, { k with inner := (client.write p n k.inner).2 })
  getWriteError k :=
    ((client.getWriteError k.inner).1, { k with inner := (client.getWriteError k.inner).2 })
  available k := ((client.available k.inner).1, { k with inner := (client.available k.inner).2 })
  read k :=
    let r := client.read k.inner
    (r.1, ⟨r.2, k.heard ++ if 0 ≤ r.1 then [UInt8.ofNat r.1.toNat] else []⟩)
  readBuf n k :=
    let r := client.readBuf n k.inner
    (r.1, ⟨r.2, k.heard ++ bytesRead r.1⟩)
  peek k := ((client.peek k.inner).1, { k with inner := (client.peek k.inner).2 })
  connected k := ((client.connected k.inner).1, { k with inner := (client.connected k.inner).2 })

/-- The state inside is another one. -/
def Heard.put {κ : Type*} (k : κ) (v : Heard κ) : Heard κ := { v with inner := k }

/-- Another state of the client, with the same calls recorded. -/
def Recorded.put {κ : Type*} (k : κ) (v : Recorded κ) : Recorded κ := { v with inner := k }

instance {W : Type*} [Platform W] : Platform (Heard W) :=
  Platform.within Heard.inner Heard.put fun n => (Platform.ethernetClient n).hearing

instance {W : Type*} [Platform W] : Platform (Recorded W) :=
  Platform.within Recorded.inner Recorded.put fun n => (Platform.ethernetClient n).recording

/-- A platform with both records. -/
abbrev Taped (W : Type*) := Recorded (Heard W)

namespace Taped

variable {W : Type*} [Platform W]

/-- What the clients' reads have returned, and what their writes have taken. -/
def heard (v : Taped W) : List UInt8 := v.inner.heard

/-- The bytes that the client has taken. -/
def told (v : Taped W) : List UInt8 := WriteCall.taken v.calls

/-- Nothing was recorded in between. -/
def SameTape (v v' : Taped W) : Prop := v.inner.heard = v'.inner.heard ∧ v.calls = v'.calls

theorem control_true : ControlMoves fun _ _ : W => True :=
  ⟨fun _ => trivial, fun _ _ => trivial, fun _ => trivial, fun _ _ => trivial, fun _ _ => trivial,
    fun _ _ => trivial, fun _ _ _ => trivial, fun _ _ => trivial, fun _ _ => trivial,
    fun _ _ => trivial, fun _ => trivial, fun _ _ => trivial⟩

/-- What is heard is heard from the client only. -/
theorem control_sameHeard : ControlMoves fun v v' : Heard W => v.heard = v'.heard :=
  control_true.within Heard.inner Heard.put (fun n => (Platform.ethernetClient n).hearing)
    (fun _ => rfl) Eq.trans (fun _ _ _ => rfl) fun _ _ => rfl

/-- **Only reads and writes are recorded.** -/
theorem control_sameTape : ControlMoves (SameTape (W := W)) :=
  control_sameHeard.within Recorded.inner Recorded.put
    (fun n => (Platform.ethernetClient n).recording) (fun _ => ⟨rfl, rfl⟩)
    (fun h h' => ⟨h.1.trans h'.1, h.2.trans h'.2⟩) (fun _ _ h => ⟨h, rfl⟩) fun _ _ => ⟨rfl, rfl⟩

end Taped
end McuNet
