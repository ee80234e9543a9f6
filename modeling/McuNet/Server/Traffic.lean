/-
# When a server socket touches the data

A `ServerSocket` never reads or writes for itself: bytes move only while the listener
has a connection, in `OnConnect` and `OnCanRead`, and when that connection is
destroyed.  So a relation that everything but the clients' reads and writes respects
holds across every poll that makes no such callback, and from the beginning of a poll
to the callback of one that does (`Poll.control`).

The functions that make no call of a client are the same functions on a platform whose
clients do nothing, where `McuNet.Server.Moves` applies to them.
-/

import McuNet.Connection.Handover
import McuNet.Server.Moves

namespace McuNet

variable {W L : Type*}

/-- The platform with clients that do nothing. -/
@[reducible]
def Platform.muted (P : Platform W) : Platform W := { P with ethernetClient := fun _ => Client.mute }

variable [P : Platform W] {R : W → W → Prop}

/-- Every call of the platform that moves no data changes its state as `R` allows. -/
structure ControlMoves (R : W → W → Prop) : Prop where
  refl : ∀ w, R w w
  trans : ∀ {a b c}, R a b → R b c → R a c
  findUnusedSocket : ∀ w, R w (Platform.findUnusedSocket w).2
  socketIsTcpListener : ∀ n w, R w (Platform.socketIsTcpListener n w).2
  socketIsInTcpConnectionLifecycle : ∀ n w, R w (Platform.socketIsInTcpConnectionLifecycle n w).2
  socketStatus : ∀ n w, R w (Platform.socketStatus n w).2
  initializeTcpListenerSocket : ∀ n port w, R w (Platform.initializeTcpListenerSocket n port w).2
  disconnectSocket : ∀ n w, R w (Platform.disconnectSocket n w).2
  closeSocket : ∀ n w, R w (Platform.closeSocket n w).2
  available : ∀ n w, R w ((Platform.ethernetClient n).available w).2
  millis : ∀ w, R w (Platform.millis w).2
  elapsedMillis : ∀ t w, R w (Platform.elapsedMillis t w).2

/-- On the platform with mute clients these are all calls. -/
theorem ControlMoves.muted (hR : ControlMoves R) : @QuietMoves W P.muted R :=
  @QuietMoves.mk W P.muted R hR.refl hR.trans hR.findUnusedSocket hR.socketIsTcpListener
    hR.socketIsInTcpConnectionLifecycle hR.socketStatus hR.disconnectSocket hR.closeSocket
    (fun _ => Client.mute_moves hR.refl) hR.millis hR.elapsedMillis

/-! ### Connections nothing was written to -/

namespace TcpServerConnection

/-- A connection that was not written to has nothing to flush. -/
theorem flush_new (n : UInt8) (w : W) : (new n : TcpServerConnection W).flush w = (new n, w) := rfl

/-- Closing such a connection moves no data, and leaves nothing to flush. -/
theorem close_new (hR : ControlMoves R) (n : UInt8) (w : W) :
    R w ((new n : TcpServerConnection W).close w).2 ∧
      ∀ v, (((new n : TcpServerConnection W).close w).1.flush v).2 = v := by
  have hread := hR.socketStatus n w
  have hstart : R w ((new n : TcpServerConnection W).startDisconnect w).2 ∧
      ((new n : TcpServerConnection W).startDisconnect w).1 = new n := by
    have hagain : R w (Platform.socketStatus n (Platform.socketStatus n w).2).2 :=
      hR.trans hread (hR.socketStatus _ _)
    simp only [startDisconnect]
    refine iteInduction (motive := fun r : TcpServerConnection W × W => R w r.2 ∧ r.1 = new n)
      (fun _ => ?_) fun _ => ⟨hread, rfl⟩
    refine iteInduction (motive := fun r : TcpServerConnection W × W => R w r.2 ∧ r.1 = new n)
      (fun _ => ?_) fun _ => ⟨hagain, rfl⟩
    exact ⟨hR.trans hagain (hR.trans (hR.disconnectSocket _ _) (hR.socketStatus _ _)), rfl⟩
  obtain ⟨hmoves, hconn⟩ := hstart
  constructor
  · refine hR.trans hmoves ?_
    simp only [close, hconn]
    exact hR.millis _
  · intro v
    simp only [close, flush, hconn]
    rfl

end TcpServerConnection

namespace ServerSocket

/-! ### Between the callbacks -/

section

variable (hR : ControlMoves R) (x : ServerSocket W L)

include hR

/-- `BeginListening` moves no data. -/
theorem control_beginListening : R x.net x.beginListening.2.net :=
  @moves_beginListening W L P.muted R hR.muted x fun _ _ => hR.initializeTcpListenerSocket _ _ _

/-- `PickClosedSocket` moves no data. -/
theorem control_pickClosedSocket : R x.net x.pickClosedSocket.2.net :=
  @moves_pickClosedSocket W L P.muted R hR.muted x
    fun _ _ _ _ => hR.initializeTcpListenerSocket _ _ _

/-- `CloseHardwareSocket` moves no data. -/
theorem control_closeHardwareSocket : R x.net x.closeHardwareSocket.net :=
  @moves_closeHardwareSocket W L P.muted R hR.muted x

/-- `DetectCloseTimeout` moves no data. -/
theorem control_detectCloseTimeout : R x.net x.detectCloseTimeout.net :=
  @moves_detectCloseTimeout W L P.muted R hR.muted x

variable [ServerSocketListener L]

/-- Noticing that a connection is gone moves no data. -/
theorem control_noticeLoss : R x.net x.noticeLoss.net :=
  @moves_noticeLoss W L P.muted R hR.muted x _

/-- The connection that is constructed to close the socket is not written to. -/
theorem control_endHalfClosed : R x.net x.endHalfClosed.net := by
  obtain ⟨hclose, hflush⟩ := TcpServerConnection.close_new hR x.sockNum x.net
  have hread : R x.net x.halfClosed.net := hR.trans hclose (hR.socketStatus _ _)
  refine (?_ : x.endHalfClosed.net = x.halfClosed.net) ▸ hread
  exact hflush x.halfClosed.net

/-- What a poll does before it calls the listener with a connection, if it does. -/
inductive Serves (R : W → W → Prop) (x y : ServerSocket W L) : Prop where
  | quiet (moved : R x.net y.net)
  | connected {z : ServerSocket W L} (unseen : Unseen x z) (moved : R x.net z.net)
      (announced : y = z.announceConnected)
  | canRead {z : ServerSocket W L} (unseen : Unseen x z) (moved : R x.net z.net)
      (announced : y = z.announceCanRead)

/-- **No poll moves data but for the listener.** -/
theorem Poll.control {y : ServerSocket W L} (h : x.Poll y) : Serves R x y := by
  have hread : R x.net x.refreshStatus.net := hR.socketStatus _ _
  have hseen := unseen_refreshStatus x
  cases h with
  | released _ => exact .quiet (hR.refl _)
  | lost _ _ _ => exact .quiet (hR.trans hread (control_noticeLoss hR _))
  | closed _ _ _ => exact .quiet (hR.trans hread (control_beginListening hR _))
  | listening _ _ _ => exact .quiet hread
  | connected _ _ _ => exact .connected hseen hread rfl
  | canRead _ _ _ => exact .canRead hseen hread rfl
  | closeWait _ _ _ =>
    have hasked : R x.net x.refreshStatus.asked.net := hR.trans hread (hR.available _ _)
    rcases x.refreshStatus.handleCloseWait_cases with heq | heq
    · exact .canRead (z := x.refreshStatus.asked) ⟨rfl, rfl, rfl, rfl, rfl⟩ hasked heq
    · rw [heq]
      exact .quiet (hR.trans hasked (control_endHalfClosed hR _))
  | closing _ _ _ => exact .quiet (hR.trans hread (control_detectCloseTimeout hR _))
  | stuck _ _ _ _ => exact .quiet (hR.trans hread (control_closeHardwareSocket hR _))
  | initializing _ _ _ => exact .quiet hread
  | undocumented _ _ _ => exact .quiet hread

end

end ServerSocket
end McuNet
