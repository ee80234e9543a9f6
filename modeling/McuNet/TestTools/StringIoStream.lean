/-
# The stream of the tests

`StringIoStreamImpl` (`extras/test_tools/string_io_stream_impl.h`): a stream that reads
from one string and writes to another.

`read` and `peek` return a `char` as an `int`, and a `char` is signed on the platforms
at hand.  A byte from 0x80 on is thus returned as a negative number, for 0xFF as the -1
of the end of the input, and a caller takes it for the end.  With no such byte at the
front when `read` or `peek` is called, the stream does what it should
(`agrees`).  Reading into a buffer copies every byte, and returns how many as long as
an `int` can tell (`readBuf_value`).
-/

import Mathlib.Algebra.Order.Ring.Int
import McuNet.Core.Run

namespace McuNet

/-- A platform with a signed `char`: how many bits an `int` and a `size_t` have. -/
structure DataModel where
  intBits : ℕ
  sizeBits : ℕ
  sixteen_le : 16 ≤ intBits
  le_sizeBits : intBits ≤ sizeBits

namespace DataModel

/-- x86-64. -/
def x86_64 : DataModel where
  intBits := 32
  sizeBits := 64
  sixteen_le := by decide
  le_sizeBits := by decide

/-- AVR. -/
def avr : DataModel where
  intBits := 16
  sizeBits := 16
  sixteen_le := le_rfl
  le_sizeBits := le_rfl

variable (model : DataModel)

/-- A `size_t` as an `int`. -/
def toInt (size : ℕ) : ℤ := (size : ℤ).bmod (2 ^ model.intBits)

/-- `-1` as a `size_t`. -/
def sizeMax : ℕ := 2 ^ model.sizeBits - 1

variable {model}

theorem two_pow_intBits : 2 ^ model.intBits = 2 * 2 ^ (model.intBits - 1) := by
  rw [← pow_succ', Nat.sub_add_cancel (le_trans (by decide) model.sixteen_le)]

/-- `-1` stays -1 on its way through a `size_t`. -/
theorem toInt_sizeMax : model.toInt model.sizeMax = -1 := by
  obtain ⟨d, hd⟩ := pow_dvd_pow 2 model.le_sizeBits
  have hone : 1 ≤ 2 ^ model.sizeBits := Nat.one_le_two_pow
  have hhalf : 1 ≤ 2 ^ (model.intBits - 1) := Nat.one_le_two_pow
  rw [toInt, sizeMax, Nat.cast_sub hone, hd, Nat.cast_mul, Nat.cast_one,
    Int.mul_sub_bmod_self_left, two_pow_intBits]
  refine Int.bmod_eq_of_le_mul_two ?_ ?_ <;> omega

theorem toInt_of_lt {size : ℕ} (h : size < 2 ^ (model.intBits - 1)) :
    model.toInt size = size := by
  rw [toInt, two_pow_intBits]
  refine Int.bmod_eq_of_le_mul_two ?_ ?_ <;> omega

@[simp] theorem toInt_zero : model.toInt 0 = 0 := Int.zero_bmod

end DataModel

/-- A `char` as an `int`. -/
def intOfChar (c : UInt8) : ℤ := c.toInt8.toInt

theorem intOfChar_eq (c : UInt8) :
    intOfChar c = if c < 128 then (c.toNat : ℤ) else (c.toNat : ℤ) - 256 := by
  have hbits : intOfChar c = c.toBitVec.toInt := rfl
  have hnat : c.toBitVec.toNat = c.toNat := rfl
  rw [hbits, BitVec.toInt_eq_toNat_cond, hnat]
  simp only [UInt8.lt_iff_toNat_lt, UInt8.reduceToNat]
  split_ifs <;> omega

/-- **A byte keeps its value** as an `int` if and only if it is below 0x80. -/
theorem intOfChar_eq_toNat_iff {c : UInt8} : intOfChar c = c.toNat ↔ c < 128 := by
  rw [intOfChar_eq]
  split_ifs with h
  · exact iff_of_true rfl h
  · exact iff_of_false (by omega) h

/-- **Other bytes are negative.** -/
theorem intOfChar_nonneg_iff {c : UInt8} : 0 ≤ intOfChar c ↔ c < 128 := by
  have hlt := c.toNat_lt
  rw [intOfChar_eq]
  split_ifs with h
  · exact iff_of_true (Int.natCast_nonneg _) h
  · exact iff_of_false (by omega) h

/-- `StringIoStreamImpl`. -/
structure StringIoStreamImpl where
  inputBuffer : List UInt8
  inputView : List UInt8
  output : List UInt8 := []
  isOpen : Bool := true
  sockNum : UInt8
  deriving DecidableEq, Repr

namespace StringIoStreamImpl

/-- The constructor. -/
def new (sockNum : UInt8) (input : List UInt8) : StringIoStreamImpl where
  inputBuffer := input
  inputView := input
  sockNum := sockNum

variable (model : DataModel)

/-- `write` of one byte. -/
def write (b : UInt8) (s : StringIoStreamImpl) : ℕ × StringIoStreamImpl :=
  if ¬s.isOpen then (model.sizeMax, s)
  else (1, { s with output := s.output ++ [b] })

/-- `write` of a buffer. -/
def writeBuf (buffer : List UInt8) (s : StringIoStreamImpl) : ℕ × StringIoStreamImpl :=
  if ¬s.isOpen then (model.sizeMax, s)
  else (buffer.length, { s with output := s.output ++ buffer })

/-- `available`.  The two values of its conditional are of type `size_t`. -/
def available (s : StringIoStreamImpl) : ℤ :=
  model.toInt (if s.isOpen then s.inputView.length else model.sizeMax)

/-- `read`. -/
def read (s : StringIoStreamImpl) : ℤ × StringIoStreamImpl :=
  if ¬s.isOpen then (-1, s)
  else match s.inputView with
    | [] => (-1, s)
    | c :: rest => (intOfChar c, { s with inputView := rest })

/-- `peek`. -/
def peek (s : StringIoStreamImpl) : ℤ :=
  if ¬s.isOpen then -1
  else match s.inputView with
    | [] => -1
    | c :: _ => intOfChar c

/-- `read` into a buffer: what it returns, and what it puts into the buffer. -/
def readBuf (size : ℕ) (s : StringIoStreamImpl) : (ℤ × List UInt8) × StringIoStreamImpl :=
  if ¬s.isOpen then ((-1, []), s)
  else
    let size := min size s.inputView.length
    if 0 < size then
      ((model.toInt size, s.inputView.take size), { s with inputView := s.inputView.drop size })
    else ((model.toInt size, []), s)

/-- `stop`. -/
def stop (s : StringIoStreamImpl) : StringIoStreamImpl := { s with isOpen := false }

/-- `close`. -/
def close (s : StringIoStreamImpl) : StringIoStreamImpl := { s with isOpen := false }

/-- `connected`. -/
def connected (s : StringIoStreamImpl) : ℤ := if s.isOpen then 1 else 0

/-- A call of the stream. -/
inductive Op where
  | write (b : UInt8)
  | writeBuf (buffer : List UInt8)
  | available
  | read
  | peek
  | readBuf (size : ℕ)
  | stop
  | close
  | connected
  deriving DecidableEq, Repr

/-- One call: the number it returns, and the bytes that `read` puts into a buffer. -/
def exec (op : Op) (s : StringIoStreamImpl) : (ℤ × List UInt8) × StringIoStreamImpl :=
  match op with
  | .write b => ((((write model b s).1 : ℤ), []), (write model b s).2)
  | .writeBuf buffer => (((writeBuf model buffer s).1, []), (writeBuf model buffer s).2)
  | .available => ((available model s, []), s)
  | .read => ((s.read.1, []), s.read.2)
  | .peek => ((s.peek, []), s)
  | .readBuf size => readBuf model size s
  | .stop => ((0, []), s.stop)
  | .close => ((0, []), s.close)
  | .connected => ((s.connected, []), s)

/-- The bytes that a call returns to a caller who takes a negative number for the end
of the input. -/
def returned : Op × ℤ × List UInt8 → List UInt8
  | (.read, v, _) => if 0 ≤ v then [UInt8.ofNat v.toNat] else []
  | (.readBuf _, _, bytes) => bytes
  | _ => []

/-- A number of calls of `read`, one after the other. -/
def reads : ℕ → StringIoStreamImpl → List ℤ × StringIoStreamImpl
  | 0, s => ([], s)
  | k + 1, s => (s.read.1 :: (reads k s.read.2).1, (reads k s.read.2).2)

/-- The call reads a single byte. -/
def Op.IsSingle (op : Op) : Prop := op = .read ∨ op = .peek

/-- A single byte is read only where it is below 0x80. -/
def Clean (s : StringIoStreamImpl) (op : Op) : Prop :=
  op.IsSingle → s.isOpen = true → ∀ c, s.inputView.head? = some c → c < 128

/-- **The call does right.**  `read` and `peek` return a byte when there is one, and -1 at
the end of the input alone, and what is returned is what is gone from the input. -/
structure Right (s : StringIoStreamImpl) (op : Op) : Prop where
  value : op.IsSingle → 0 < available model s →
    0 ≤ (exec model op s).1.1 ∧ (exec model op s).1.1 ≤ 255
  atEnd : op.IsSingle → s.isOpen = true → (exec model op s).1.1 = -1 → s.inputView = []
  conserved : returned (op, (exec model op s).1) ++ (exec model op s).2.inputView = s.inputView

/-- Reading byte for byte gives what reading into a buffer gives, and -1 from the end of
the input on. -/
def SameAsBlock (k : ℕ) (s : StringIoStreamImpl) : Prop :=
  reads k s = ((readBuf model k s).1.2.map (fun c => (c.toNat : ℤ)) ++
    List.replicate (k - s.inputView.length) (-1), (readBuf model k s).2)

/-! ### What a call does -/

variable {model} {s : StringIoStreamImpl}

theorem read_nil (h : s.inputView = []) : s.read = (-1, s) := by
  rw [read, h]
  exact ite_self _

theorem read_cons (hopen : s.isOpen = true) {c : UInt8} {rest : List UInt8}
    (h : s.inputView = c :: rest) : s.read = (intOfChar c, { s with inputView := rest }) := by
  rw [read, if_neg (not_not.2 hopen), h]

theorem peek_cons (hopen : s.isOpen = true) {c : UInt8} {rest : List UInt8}
    (h : s.inputView = c :: rest) : s.peek = intOfChar c := by
  rw [peek, if_neg (not_not.2 hopen), h]

/-- **Reading into a buffer** takes as many bytes as there are. -/
theorem readBuf_open (hopen : s.isOpen = true) (size : ℕ) :
    readBuf model size s =
      ((model.toInt (min size s.inputView.length), s.inputView.take size),
        { s with inputView := s.inputView.drop size }) := by
  rw [readBuf, if_neg (not_not.2 hopen)]
  dsimp only
  by_cases hpos : 0 < min size s.inputView.length
  · rw [if_pos hpos, ← List.take_eq_take_min, ← List.drop_eq_drop_min]
  · obtain hzero | hnil : size = 0 ∨ s.inputView.length = 0 := by omega
    · subst hzero
      simp
    · have hview := List.length_eq_zero_iff.1 hnil
      rw [if_neg hpos, hview, List.take_nil, List.drop_nil, ← hview]

/-- The bytes that were read are counted, unless there are too many for an `int`. -/
theorem readBuf_value (hopen : s.isOpen = true) {size : ℕ}
    (h : s.inputView.length < 2 ^ (model.intBits - 1)) :
    (readBuf model size s).1.1 = ((readBuf model size s).1.2.length : ℤ) := by
  rw [readBuf_open hopen, DataModel.toInt_of_lt (lt_of_le_of_lt (min_le_right _ _) h),
    List.length_take]

variable (model) in
/-- **A closed stream** does nothing. -/
theorem exec_closed (hclosed : s.isOpen = false) (op : Op) :
    (exec model op s).2 = s ∧
      (op.IsSingle ∨ (∃ size, op = .readBuf size) → (exec model op s).1 = (-1, [])) := by
  have hnot : ¬s.isOpen = true := by rw [hclosed]; exact Bool.false_ne_true
  have hsame : { s with isOpen := false } = s := by rw [← hclosed]
  cases op <;> simp [exec, write, writeBuf, read, peek, readBuf, stop, close, Op.IsSingle, hnot, hsame]

/-- Bytes are available from an open stream that is not at its end. -/
theorem ne_nil_of_available (h : 0 < available model s) :
    s.isOpen = true ∧ s.inputView ≠ [] := by
  rw [available] at h
  split_ifs at h with hopen
  · refine ⟨hopen, fun hnil => ?_⟩
    rw [hnil, List.length_nil, DataModel.toInt_zero] at h
    exact lt_irrefl _ h
  · rw [DataModel.toInt_sizeMax] at h
    exact absurd h (by decide)

/-! ### Which calls do right -/

/-- Only `read` of a single byte and of a buffer take something from the input. -/
theorem conserved_of_not_single {op : Op} (hop : ¬op.IsSingle) :
    returned (op, (exec model op s).1) ++ (exec model op s).2.inputView = s.inputView := by
  cases op with
  | read => exact absurd (.inl rfl) hop
  | peek => exact absurd (.inr rfl) hop
  | readBuf size =>
    by_cases hopen : s.isOpen = true
    · rw [exec, readBuf_open hopen]
      exact List.take_append_drop _ _
    · obtain ⟨hsame, hvalue⟩ := exec_closed model
        (Bool.eq_false_of_not_eq_true hopen) (.readBuf size)
      rw [hsame, hvalue (.inr ⟨_, rfl⟩)]
      rfl
  | write b =>
    simp only [exec, write, returned]
    split_ifs <;> rfl
  | writeBuf buffer =>
    simp only [exec, writeBuf, returned]
    split_ifs <;> rfl
  | _ => rfl

/-- What a call for a single byte returns. -/
theorem exec_single {op : Op} (hop : op.IsSingle) (hopen : s.isOpen = true) {c : UInt8}
    {rest : List UInt8} (hview : s.inputView = c :: rest) :
    (exec model op s).1.1 = intOfChar c := by
  rcases hop with rfl | rfl
  · rw [exec, read_cons hopen hview]
  · rw [exec, peek_cons hopen hview]

theorem right_of_closed {op : Op} (hop : op.IsSingle) (hclosed : ¬s.isOpen = true) :
    Right model s op := by
  obtain ⟨hsame, hvalue⟩ := exec_closed model (Bool.eq_false_of_not_eq_true hclosed) op
  refine ⟨fun _ havail => absurd (ne_nil_of_available havail).1 hclosed,
    fun _ hopen => absurd hopen hclosed, ?_⟩
  rw [hsame, hvalue (.inl hop)]
  rcases hop with rfl | rfl <;> rfl

theorem right_of_nil {op : Op} (hop : op.IsSingle) (hview : s.inputView = []) :
    Right model s op := by
  refine ⟨fun _ havail => absurd hview (ne_nil_of_available havail).2, fun _ _ _ => hview, ?_⟩
  rcases hop with rfl | rfl
  · rw [exec, read_nil hview]
    rfl
  · rfl

/-- A byte below 0x80 is returned as it is. -/
theorem right_of_cons {op : Op} (hop : op.IsSingle) (hopen : s.isOpen = true) {c : UInt8}
    {rest : List UInt8} (hview : s.inputView = c :: rest) (hlt : c < 128) :
    Right model s op := by
  have hvalue : intOfChar c = c.toNat := intOfChar_eq_toNat_iff.2 hlt
  have hcall : (exec model op s).1.1 = c.toNat := (exec_single hop hopen hview).trans hvalue
  have hbyte := c.toNat_lt
  constructor
  · intro _ _
    rw [hcall]
    omega
  · intro _ _ hend
    rw [hcall] at hend
    omega
  · rcases hop with rfl | rfl
    · rw [exec, read_cons hopen hview, hvalue, returned, if_pos (Int.natCast_nonneg _),
        Int.toNat_natCast, UInt8.ofNat_toNat, hview]
      rfl
    · rfl

variable (model) in
/-- **A call does right where it is clean.** -/
theorem right_of_clean {op : Op} (h : Clean s op) : Right model s op := by
  by_cases hop : op.IsSingle
  · by_cases hopen : s.isOpen = true
    · cases hview : s.inputView with
      | nil => exact right_of_nil hop hview
      | cons c rest => exact right_of_cons hop hopen hview (h hop hopen c (by rw [hview]; rfl))
    · exact right_of_closed hop hopen
  · exact ⟨fun h => absurd h hop, fun h => absurd h hop, conserved_of_not_single hop⟩

/-- **Other calls do not**, as long as the stream says that there is a byte. -/
theorem clean_of_right {op : Op} (havail : 0 < available model s) (h : Right model s op) :
    Clean s op := by
  intro hop hopen c hc
  obtain ⟨rest, hview⟩ := List.head?_eq_some_iff.1 hc
  have hnonneg := (h.value hop havail).1
  rwa [exec_single hop hopen hview, intOfChar_nonneg_iff] at hnonneg

/-- What `read` returns when it is called over and over. -/
theorem reads_open (hopen : s.isOpen = true) (k : ℕ) :
    reads k s = ((s.inputView.take k).map intOfChar ++
      List.replicate (k - s.inputView.length) (-1), { s with inputView := s.inputView.drop k }) := by
  induction k generalizing s with
  | zero => simp [reads]
  | succ k ih =>
    rw [reads]
    cases hview : s.inputView with
    | nil =>
      rw [read_nil hview, ih hopen, hview]
      simp [List.replicate_succ]
    | cons c rest =>
      rw [read_cons hopen hview, ih (s := { s with inputView := rest }) hopen]
      simp

/-- **Byte for byte and all at once** give the same if and only if all bytes are below
0x80. -/
theorem sameAsBlock_iff (hopen : s.isOpen = true) (k : ℕ) :
    SameAsBlock model k s ↔ ∀ c ∈ s.inputView.take k, c < 128 := by
  rw [SameAsBlock, reads_open hopen, readBuf_open hopen, Prod.mk.injEq, and_iff_left rfl,
    List.append_left_inj, List.map_inj_left]
  exact forall₂_congr fun c _ => intOfChar_eq_toNat_iff

/-! ### Runs -/

variable (model) in
/-- Runs of the stream, with a condition on each call. -/
abbrev Runs (ok : StringIoStreamImpl → Op → Prop) :=
  Run (fun op s => some (exec model op s)) (fun _ _ => False) ok

/-- One more call. -/
theorem Runs.snoc {ok : StringIoStreamImpl → Op → Prop} {start : StringIoStreamImpl}
    {log : List (Op × ℤ × List UInt8)} (h : Runs model ok start log s) (op : Op)
    (hok : ok s op) :
    Runs model ok start (log ++ [(op, (exec model op s).1)]) (exec model op s).2 :=
  Run.call h hok rfl

/-- A closed stream stays as it is. -/
theorem Runs.closed {ok : StringIoStreamImpl → Op → Prop} {log : List (Op × ℤ × List UInt8)}
    {s' : StringIoStreamImpl} (hclosed : s.isOpen = false) (h : Runs model ok s log s') :
    s' = s ∧ ∀ op r, (op, r) ∈ log → op.IsSingle ∨ (∃ size, op = .readBuf size) → r = (-1, []) := by
  refine h.invariant (I := fun log s' => s' = s ∧ ∀ op r, (op, r) ∈ log →
    op.IsSingle ∨ (∃ size, op = .readBuf size) → r = (-1, [])) ⟨rfl, nofun⟩ ?_ (fun _ _ _ _ => nofun)
  rintro log x op _ ⟨rfl, hlog⟩ - ⟨⟩
  obtain ⟨hsame, hvalue⟩ := exec_closed model hclosed op
  refine ⟨hsame, fun op' r hmem hread => ?_⟩
  rcases List.mem_append.1 hmem with hmem | hmem
  · exact hlog op' r hmem hread
  · obtain ⟨rfl, rfl⟩ := Prod.mk.inj (List.mem_singleton.1 hmem)
    exact hvalue hread

variable (model) in
/-- **The single bytes and the blocks agree**, after calls that are in a log. -/
structure Agrees (input : List UInt8) (log : List (Op × ℤ × List UInt8))
    (s : StringIoStreamImpl) : Prop where
  conserved : log.flatMap returned ++ s.inputView = input
  next : ∀ op, Clean s op → Right model s op
  next_iff : ∀ op, 0 < available model s → (Right model s op ↔ Clean s op)
  block_iff : s.isOpen = true → ∀ k,
    SameAsBlock model k s ↔ ∀ c ∈ s.inputView.take k, c < 128
  counted : s.isOpen = true → s.inputView.length < 2 ^ (model.intBits - 1) → ∀ size,
    (readBuf model size s).1.1 = ((readBuf model size s).1.2.length : ℤ)
  closed : s.isOpen = false → ∀ log' s', Runs model (fun _ _ => True) s log' s' → s' = s ∧
    ∀ op r, (op, r) ∈ log' → op.IsSingle ∨ (∃ size, op = .readBuf size) → r = (-1, [])

/-- **In every run that reads single bytes only below 0x80**, what is returned and what
remains are the input, and the single bytes and the blocks agree. -/
theorem agrees {sockNum : UInt8} {input : List UInt8} {log : List (Op × ℤ × List UInt8)}
    (h : Runs model Clean (new sockNum input) log s) : Agrees model input log s where
  conserved := by
    refine h.invariant (I := fun log s => log.flatMap returned ++ s.inputView = input) rfl ?_
      (fun _ _ _ _ => nofun)
    rintro log x op _ hlog hclean ⟨⟩
    rw [List.flatMap_append, List.append_assoc, List.flatMap_singleton,
      (right_of_clean model hclean).conserved, hlog]
  next _ := right_of_clean model
  next_iff _ havail := ⟨clean_of_right havail, right_of_clean model⟩
  block_iff hopen := sameAsBlock_iff hopen
  counted hopen hlt _ := readBuf_value hopen hlt
  closed hclosed _ _ := Runs.closed hclosed

/-- The byte 0xC8 is read as -56, and is lost to a caller who takes this for the end. -/
theorem agrees_counterexample :
    let s := new 1 [0xC8]
    let s' := { s with inputView := [] }
    available .x86_64 s = 1 ∧ Runs .x86_64 (fun _ _ => True) s [(.read, -56, [])] s' ∧
      [(.read, -56, [])].flatMap returned ++ s'.inputView ≠ [0xC8] ∧
      ¬Right .x86_64 s .read ∧ ¬Right .x86_64 s .peek ∧ ¬SameAsBlock .x86_64 1 s := by
  have havail : available .x86_64 (new 1 [0xC8]) = 1 := by decide +kernel
  have hnot : ∀ op, op.IsSingle → ¬Right .x86_64 (new 1 [0xC8]) op := by
    intro op hop h
    have hlt := clean_of_right (by rw [havail]; decide) h hop rfl 0xC8 rfl
    exact absurd hlt (by decide)
  refine ⟨havail, Runs.snoc .start .read trivial, by decide, hnot _ (.inl rfl),
    hnot _ (.inr rfl), ?_⟩
  rw [sameAsBlock_iff rfl]
  exact fun h => absurd (h 0xC8 (.head _)) (by decide)

/-- `DEFG` is read in one byte and a block of two, and the stream is closed. -/
theorem agrees_defg :
    ∃ log s, Runs .avr Clean (new 1 [68, 69, 70, 71]) log s ∧ s.isOpen = false ∧
      log.flatMap returned = [68, 69, 70] ∧ log.flatMap returned ++ s.inputView = [68, 69, 70, 71] := by
  have hclean : Clean (new 1 [68, 69, 70, 71]) .read := by
    rintro - - c ⟨⟩
    decide
  have hnew : Runs .avr Clean (new 1 [68, 69, 70, 71]) [] _ := .start
  have hread := Runs.snoc hnew .read hclean
  have hblock := Runs.snoc hread (.readBuf 2) nofun
  have hclose := Runs.snoc hblock .close nofun
  exact ⟨_, _, hclose, rfl, by decide, (agrees hclose).conserved⟩

end StringIoStreamImpl
end McuNet
