/-
# A kernel for concrete runs

A kernel that is told what `accept`, `recv` and `send` answer: the first answer
that is left, and when none is left, that there is no connection to accept,
nothing to receive yet, and room for all that is sent.  The other calls succeed.
-/

import McuNet.Host.Network

namespace McuNet

/-- The answers that are left, and the clock. -/
structure ScriptedKernel where
  accepts : List ℤ := []
  recvs : List Received := []
  sends : List ℤ := []
  clock : UInt32 := 0
  deriving Repr

namespace ScriptedKernel

instance : Posix ScriptedKernel where
  socket k := (3, k)
  setReuse _ k := (true, k)
  bind _ _ k := (true, k)
  fcntlGetFl _ k := (0, k)
  fcntlSetFl _ _ k := (true, k)
  listen _ k := (true, k)
  accept _ k := (k.accepts.headD (-1), { k with accepts := k.accepts.tail })
  recv _ _ _ k := (k.recvs.headD (.error .again), { k with recvs := k.recvs.tail })
  send _ _ len k := (max (-1) (min (k.sends.headD len) len), { k with sends := k.sends.tail })
  shutdownWr _ k := (true, k)
  close _ k := k

instance : McuCore ScriptedKernel where
  millis k := (k.clock, k)
  elapsedMillis t k := (k.clock - t, k)
  getWriteError k := (0, k)

end ScriptedKernel
end McuNet
