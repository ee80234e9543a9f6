/-
# A chip whose peers act during calls

A chip for concrete runs in which the peers do not wait: it holds a list of
moves, and every call that is made of it first lets the next one happen, if it
can.  `drives_link` says that its sockets are links.
-/

import McuNet.Embedded.Chip
import McuNet.Server.Link

namespace McuNet

/-- What a peer, or the chip on its behalf, may do to a socket. -/
inductive Move where
  | connect
  | halfClose
  | finish
  | drop
  deriving DecidableEq, Repr

namespace Link

/-- The socket after a move; one that is not possible changes nothing. -/
def moved (l : Link) : Move → Link
  | .connect =>
    if l.use = .armed then connected SnSR.established rfl false (l.serial + 1) l.closes else l
  | .halfClose =>
    match l.use with
    | .conn d => connected SnSR.closeWait rfl d l.serial l.closes
    | _ => l
  | .finish => if l.use = .conn true then finishing l.serial l.closes else l
  | .drop => unused l.serial l.closes

theorem advance_moved (l : Link) (m : Move) : Advance l (l.moved m) := by
  cases m with
  | connect =>
    simp only [moved]
    split_ifs with h
    · exact .accepted h (.inl rfl) rfl rfl
    · exact .same rfl rfl rfl
  | halfClose =>
    simp only [moved]
    split
    · rename_i d h
      exact .same h.symm rfl rfl
    · exact .same rfl rfl rfl
  | finish =>
    simp only [moved]
    split_ifs with h
    · exact .same h.symm rfl rfl
    · exact .same rfl rfl rfl
  | drop => exact .dropped rfl rfl rfl

end Link

/-- The sockets, the moves to come, and the clock. -/
structure LiveChip where
  links : UInt8 → Link := fun _ => .unused 0 0
  moves : List (UInt8 × Move) := []
  clock : UInt32 := 0

namespace LiveChip

/-- Change one socket. -/
def set (c : LiveChip) (n : UInt8) (l : Link) : LiveChip :=
  { c with links := Function.update c.links n l }

/-- The next move happens. -/
def go (c : LiveChip) : LiveChip :=
  match c.moves with
  | [] => c
  | (n, m) :: rest => { c.set n ((c.links n).moved m) with moves := rest }

/-- Every call lets the next move happen.  After `DisconnectSocket` the status
stays as it is until the chip moves on. -/
instance : Ethernet5500 LiveChip where
  status n c := ((c.go.links n).status, c.go)
  socket n _ c := c.go.set n (.unused (c.go.links n).serial (c.go.links n).closes)
  listen n c := c.go.set n (.listening (c.go.links n).serial (c.go.links n).closes)
  disconnect n c :=
    if h : statusIsOpen (c.go.links n).status = true then
      c.go.set n (.connected (c.go.links n).status h true (c.go.links n).serial
        (c.go.links n).closes)
    else c.go
  close n c := c.go.set n (.unused (c.go.links n).serial ((c.go.links n).closes + 1))
  client _ :=
    { write := fun _ size c => (size, c.go)
      getWriteError := fun c => (0, c.go)
      available := fun c => (0, c.go)
      read := fun c => (-1, c.go)
      readBuf := fun _ c => ((0, []), c.go)
      peek := fun c => (-1, c.go)
      connected := fun c => (1, c.go) }
  millis c := (c.clock, c.go)
  elapsedMillis t c := (c.clock - t, c.go)

/-- A move is an advance of every socket. -/
theorem advance_go (c : LiveChip) (n : UInt8) : Link.Advance (c.links n) (c.go.links n) := by
  unfold go
  split
  · exact .same rfl rfl rfl
  · rename_i m move rest _
    show Link.Advance (c.links n) (Function.update c.links m ((c.links m).moved move) n)
    by_cases h : n = m
    · subst h
      rw [Function.update_self]
      exact Link.advance_moved _ _
    · rw [Function.update_of_ne h]
      exact .same rfl rfl rfl

theorem links_set_self (c : LiveChip) (n : UInt8) (l : Link) : (c.set n l).links n = l := by
  unfold set
  exact Function.update_self _ _ _

theorem links_set_of_ne (c : LiveChip) {n m : UInt8} (l : Link) (h : m ≠ n) :
    (c.set n l).links m = c.links m := by
  unfold set
  exact Function.update_of_ne h _ _

/-- A move, and then a change of one socket: the others have only moved. -/
theorem advance_set (c : LiveChip) {n m : UInt8} (l : Link) (h : m ≠ n) :
    Link.Advance (c.links m) ((c.go.set n l).links m) := by
  rw [links_set_of_ne _ _ h]
  exact c.advance_go m

/-- **The sockets of the chip are links.** -/
instance drives_link : Drives link LiveChip where
  view c n := c.links n
  status_eq _ _ := rfl
  status _ c n := c.advance_go n
  listen n port c _ := by
    set c' := Ethernet5500.socket n port c with hc'
    have hsocket : c'.links n = .unused (c.go.links n).serial (c.go.links n).closes :=
      links_set_self _ _ _
    have hgo := c'.advance_go n
    refine ⟨⟨.listening (c'.go.links n).serial (c'.go.links n).closes, rfl, ?_, ?_, ?_⟩,
      fun m hm => ?_⟩
    · exact ((c.advance_go n).serial_le.trans (hsocket ▸ le_rfl)).trans hgo.serial_le
    · exact (hgo.closes_eq.trans (congrArg Link.closes hsocket)).trans (c.advance_go n).closes_eq
    · show Link.Advance _ ((c'.go.set n _).links n)
      rw [links_set_self]
      exact .same rfl rfl rfl
    · exact (c.advance_set _ hm).trans (c'.advance_set _ hm)
  disconnect n c := by
    show link.ActsIn (fun c n => c.links n) n Link.Disconnect c (Ethernet5500.disconnect n c)
    simp only [Ethernet5500.disconnect]
    split_ifs with h
    · refine ⟨.inr ⟨c.go.links n, c.advance_go n, (c.go.links n).conn_of_open h, ?_⟩,
        fun m hm => c.advance_set _ hm⟩
      beta_reduce
      rw [links_set_self]
      exact ⟨rfl, rfl, rfl⟩
    · exact ⟨.inl (c.advance_go n), fun m _ => c.advance_go m⟩
  close n c := by
    refine ⟨?_, fun m hm => c.advance_set _ hm⟩
    show Link.Close (c.links n) ((c.go.set n _).links n)
    rw [links_set_self]
    exact ⟨rfl, (c.advance_go n).serial_le, congrArg (· + 1) (c.advance_go n).closes_eq⟩
  client n :=
    { write := fun _ _ c => c.advance_go
      getWriteError := fun c => c.advance_go
      available := fun c => c.advance_go
      read := fun c => c.advance_go
      readBuf := fun _ c => c.advance_go
      peek := fun c => c.advance_go
      connected := fun c => c.advance_go }
  millis c := c.advance_go
  elapsedMillis _ c := c.advance_go

end LiveChip
end McuNet
