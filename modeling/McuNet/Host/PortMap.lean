/-
# The flag `tcp_server_port_map`

`PortMap` and the two functions that print and parse it
(`extras/host/ethernet5500/host_socket_info.cpp`).

A map is printed as `port=port` entries with commas between them, in the order of the
requested ports.  The parser skips empty entries, splits the others at their first `=`,
and stops at the first port that cannot be parsed or that is in the map already.

What is used of the Abseil library is a parameter, `Absl`, and all that is known of it is
what the flag relies on (`Absl.Documented`): text that was joined is split again, a port is
printed in decimal digits, and `ParseFlag` parses what is printed.
-/

import McuNet.Core.Entries
import McuNet.Host.SocketInfo

namespace McuNet

/-- A text, character by character. -/
abbrev Text := List Char

/-- `PortMap`. -/
structure PortMap where
  map : Std.ExtTreeMap UInt16 UInt16 := ∅

namespace PortMap

/-- `PortMap::Lookup`. -/
def lookup (portMap : PortMap) (port : UInt16) : UInt16 :=
  match portMap.map[port]? with
  | none => port
  | some mapped => mapped

theorem lookup_of_some {portMap : PortMap} {port mapped : UInt16}
    (h : portMap.map[port]? = some mapped) : portMap.lookup port = mapped := by
  rw [lookup, h]

theorem lookup_of_none {portMap : PortMap} {port : UInt16} (h : portMap.map[port]? = none) :
    portMap.lookup port = port := by
  rw [lookup, h]

end PortMap

/-- What the flag uses of the Abseil library: `StrSplit` with `SkipEmpty`, `StrSplit` with
`MaxSplits(separator, 1)` into a pair, `StrJoin` with `PairFormatter`, how `StrAppend` prints
a number, and `ParseFlag` for a port: from a text and the `error` so far, the port, if the
text is one, and the `error` from then on. -/
structure Absl where
  strSplit : Char → Text → List Text
  strSplitPair : Char → Text → Text × Text
  strJoin : (separator pairSeparator : Text) → List (UInt16 × UInt16) → Text
  alphaNum : UInt16 → Text
  parseFlag : Text → Text → Option UInt16 × Text

/-- What is documented of them, as far as the flag relies on it. -/
structure Absl.Documented (absl : Absl) : Prop where
  strSplit_join : ∀ (c : Char) (parts : List Text), (∀ part ∈ parts, part ≠ [] ∧ c ∉ part) →
    absl.strSplit c ([c].intercalate parts) = parts
  strSplitPair_append : ∀ (c : Char) (a b : Text), c ∉ a →
    absl.strSplitPair c (a ++ c :: b) = (a, b)
  strJoin_pairs : ∀ (separator pairSeparator : Text) (pairs : List (UInt16 × UInt16)),
    absl.strJoin separator pairSeparator pairs = separator.intercalate
      (pairs.map fun ports => absl.alphaNum ports.1 ++ pairSeparator ++ absl.alphaNum ports.2)
  alphaNum_digits : ∀ (n : UInt16), ∀ c ∈ absl.alphaNum n, c.isDigit = true
  parseFlag_alphaNum : ∀ (n : UInt16) (error : Text),
    (absl.parseFlag (absl.alphaNum n) error).1 = some n

namespace PortMap

/-- `AbslUnparseFlag`. -/
def abslUnparseFlag (absl : Absl) (portMappings : PortMap) : Text :=
  absl.strJoin [','] ['='] portMappings.map.toList

/-- The loop of `AbslParseFlag`: whether all is parsed, and what is in `dst` and in
`error` then. -/
def parseEntries (absl : Absl) : List Text → PortMap → Text → Bool × PortMap × Text
  | [], dst, error => (true, dst, error)
  | entry :: rest, dst, error =>
    let ports := absl.strSplitPair '=' entry
    match absl.parseFlag ports.1 error with
    | (none, error) => (false, dst, error)
    | (some port1, error) =>
      match absl.parseFlag ports.2 error with
      | (none, error) => (false, dst, error)
      | (some port2, error) =>
        if port1 ∈ dst.map then
          (false, dst, error ++ "Port ".toList ++ absl.alphaNum port1 ++ " is duplicated.".toList)
        else parseEntries absl rest { map := dst.map.insert port1 port2 } error

/-- `AbslParseFlag`. -/
def abslParseFlag (absl : Absl) (text : Text) (dst : PortMap) (error : Text) :
    Bool × PortMap × Text :=
  parseEntries absl (absl.strSplit ',' text) dst error

/-- **An entry `port=port`**: two texts that are parsed as ports. -/
structure Entry (absl : Absl) where
  text : Text × Text
  ports : UInt16 × UInt16
  parse_fst : ∀ error, (absl.parseFlag text.1 error).1 = some ports.1
  parse_snd : ∀ error, (absl.parseFlag text.2 error).1 = some ports.2
  comma_fst : ',' ∉ text.1
  comma_snd : ',' ∉ text.2
  equals : '=' ∉ text.1

variable {absl : Absl}

/-- The text of an entry. -/
def Entry.toText (entry : Entry absl) : Text := entry.text.1 ++ '=' :: entry.text.2

/-- Digits are no separators. -/
theorem not_mem_alphaNum (h : absl.Documented) {c : Char} (hc : c.isDigit = false) (n : UInt16) :
    c ∉ absl.alphaNum n := by
  intro hmem
  exact absurd (hc.symm.trans (h.alphaNum_digits n c hmem)) nofun

/-- The entry that is printed for two ports. -/
def Entry.ofPorts (h : absl.Documented) (ports : UInt16 × UInt16) : Entry absl where
  text := (absl.alphaNum ports.1, absl.alphaNum ports.2)
  ports := ports
  parse_fst := h.parseFlag_alphaNum ports.1
  parse_snd := h.parseFlag_alphaNum ports.2
  comma_fst := not_mem_alphaNum h (by decide) _
  comma_snd := not_mem_alphaNum h (by decide) _
  equals := not_mem_alphaNum h (by decide) _

theorem Entry.not_mem_toText (entry : Entry absl) : ',' ∉ entry.toText := by
  rw [Entry.toText, List.mem_append, List.mem_cons]
  rintro (hfst | heq | hsnd)
  · exact entry.comma_fst hfst
  · exact absurd heq (by decide)
  · exact entry.comma_snd hsnd

/-- **The loop puts the ports of entries into the map.** -/
theorem parseEntries_toText (h : absl.Documented) (entries : List (Entry absl)) (dst : PortMap)
    (error : Text) :
    let r := parseEntries absl (entries.map Entry.toText) dst error
    match emplaceAll (entries.map Entry.ports) dst.map with
    | none => r.1 = false
    | some m => r.1 = true ∧ r.2.1 = { map := m } := by
  induction entries generalizing dst error with
  | nil => exact ⟨rfl, rfl⟩
  | cons entry rest ih =>
    have hpair : absl.strSplitPair '=' entry.toText = entry.text :=
      h.strSplitPair_append '=' _ _ entry.equals
    have hfst := entry.parse_fst error
    rcases hport1 : absl.parseFlag entry.text.1 error with ⟨_, error₁⟩
    rw [hport1] at hfst
    subst hfst
    have hsnd := entry.parse_snd error₁
    rcases hport2 : absl.parseFlag entry.text.2 error₁ with ⟨_, error₂⟩
    rw [hport2] at hsnd
    subst hsnd
    simp only [List.map_cons, parseEntries, hpair, hport1, hport2, emplaceAll]
    by_cases hmem : entry.ports.1 ∈ dst.map
    · rw [if_pos hmem, if_pos hmem]
    · rw [if_neg hmem, if_neg hmem]
      exact ih { map := dst.map.insert entry.ports.1 entry.ports.2 } error₂

/-- The text of entries is split into them. -/
theorem strSplit_toText (h : absl.Documented) (entries : List (Entry absl)) :
    absl.strSplit ',' ([','].intercalate (entries.map Entry.toText)) =
      entries.map Entry.toText := by
  refine h.strSplit_join ',' _ fun part hpart => ?_
  obtain ⟨entry, -, rfl⟩ := List.mem_map.1 hpart
  exact ⟨List.append_ne_nil_of_right_ne_nil _ (List.cons_ne_nil _ _), entry.not_mem_toText⟩

/-- A socket that is given the entries of the map as a list looks ports up as the map
does. -/
theorem portMapLookup_toList (portMap : PortMap) (port : UInt16) :
    portMapLookup portMap.map.toList port = portMap.lookup port := by
  rw [portMapLookup, lookup_toList, lookup]
  cases portMap.map[port]? <;> rfl

/-- **Parsing entries** into an empty map. -/
theorem abslParseFlag_toText (h : absl.Documented) (entries : List (Entry absl))
    (error : Text) :
    let r := abslParseFlag absl ([','].intercalate (entries.map Entry.toText)) {} error
    match emplaceAll (entries.map Entry.ports) ∅ with
    | none => r.1 = false
    | some m => r.1 = true ∧ r.2.1 = { map := m } := by
  rw [abslParseFlag, strSplit_toText h]
  exact parseEntries_toText h entries {} error

/-- **The order of the entries** makes no difference. -/
theorem abslParseFlag_perm (h : absl.Documented) {entries entries' : List (Entry absl)}
    (hperm : entries.Perm entries') (error : Text) :
    let r := abslParseFlag absl ([','].intercalate (entries.map Entry.toText)) {} error
    let r' := abslParseFlag absl ([','].intercalate (entries'.map Entry.toText)) {} error
    r.1 = r'.1 ∧ (r.1 = true → r.2.1 = r'.2.1) := by
  intro r r'
  have hparsed := abslParseFlag_toText h entries error
  have hparsed' := abslParseFlag_toText h entries' error
  rw [← emplaceAll_perm (hperm.map Entry.ports)] at hparsed'
  cases hm : emplaceAll (entries.map Entry.ports) (∅ : Std.ExtTreeMap UInt16 UInt16) with
  | none =>
    rw [hm] at hparsed hparsed'
    have hfailed : r.1 = false := hparsed
    refine ⟨hfailed.trans (Eq.symm hparsed'), fun hok => ?_⟩
    exact absurd (hok.symm.trans hfailed) (by decide)
  | some m =>
    rw [hm] at hparsed hparsed'
    exact ⟨hparsed.1.trans hparsed'.1.symm, fun _ => hparsed.2.trans hparsed'.2.symm⟩

/-- What is printed is a text of entries. -/
theorem abslUnparseFlag_eq (h : absl.Documented) (portMap : PortMap) :
    abslUnparseFlag absl portMap =
      [','].intercalate ((portMap.map.toList.map (Entry.ofPorts h)).map Entry.toText) := by
  rw [abslUnparseFlag, h.strJoin_pairs, List.map_map]
  refine congrArg _ (List.map_congr_left fun ports _ => ?_)
  exact List.append_assoc _ _ _

/-- **A map that is printed and parsed** is the same again. -/
theorem abslParseFlag_unparse (h : absl.Documented) (portMap : PortMap) (error : Text) :
    ∃ error',
      abslParseFlag absl (abslUnparseFlag absl portMap) {} error = (true, portMap, error') := by
  have hparsed := abslParseFlag_toText h (portMap.map.toList.map (Entry.ofPorts h)) error
  have hports : (portMap.map.toList.map (Entry.ofPorts h)).map Entry.ports =
      portMap.map.toList := by
    rw [List.map_map]
    exact List.map_id _
  rw [← abslUnparseFlag_eq, hports, emplaceAll_toList] at hparsed
  exact ⟨_, Prod.ext hparsed.1 (Prod.ext hparsed.2 rfl)⟩

/-- **Parsing succeeds** if and only if the requested ports are distinct. -/
theorem abslParseFlag_ok_iff (h : absl.Documented) (entries : List (Entry absl))
    (error : Text) :
    (abslParseFlag absl ([','].intercalate (entries.map Entry.toText)) {} error).1 = true ↔
      (entries.map fun entry => entry.ports.1).Nodup := by
  have hparsed := abslParseFlag_toText h entries error
  have hsome := (isSome_emplaceAll (m := (∅ : Std.ExtTreeMap UInt16 UInt16))).trans
    (fresh_empty (l := entries.map Entry.ports))
  rw [List.map_map] at hsome
  refine Iff.trans ?_ hsome
  cases hm : emplaceAll (entries.map Entry.ports) (∅ : Std.ExtTreeMap UInt16 UInt16) with
  | none =>
    rw [hm] at hparsed
    exact iff_of_false (fun hok => absurd (hok.symm.trans hparsed) (by decide)) (by decide)
  | some m =>
    rw [hm] at hparsed
    exact iff_of_true hparsed.1 rfl

/-- What is in the map that was parsed. -/
theorem abslParseFlag_getElem? (h : absl.Documented) {entries : List (Entry absl)}
    {error : Text} :
    let r := abslParseFlag absl ([','].intercalate (entries.map Entry.toText)) {} error
    r.1 = true → ∀ port mapped,
      r.2.1.map[port]? = some mapped ↔ ∃ entry ∈ entries, entry.ports = (port, mapped) := by
  intro r hok port mapped
  have hparsed := abslParseFlag_toText h entries error
  cases hm : emplaceAll (entries.map Entry.ports) (∅ : Std.ExtTreeMap UInt16 UInt16) with
  | none =>
    rw [hm] at hparsed
    exact absurd (hok.symm.trans hparsed) (by decide)
  | some m =>
    rw [hm] at hparsed
    obtain ⟨-, hdst⟩ : r.1 = true ∧ r.2.1 = { map := m } := hparsed
    rw [hdst]
    refine (getElem?_emplaceAll hm port mapped).trans ?_
    rw [Std.ExtTreeMap.getElem?_empty, or_iff_left nofun, List.mem_map]

/-- **The flag round-trips and rejects ambiguity.**  A map that is printed and parsed is
the same again.  Parsing a text of entries succeeds if and only if the requested ports
are distinct, and the map then has these entries and no other, for `Lookup` and for a
socket that is given the entries of the map.  The order of the entries makes no
difference. -/
theorem abslParseFlag_correct (h : absl.Documented) (error : Text) :
    (∀ portMap : PortMap, ∃ error',
      abslParseFlag absl (abslUnparseFlag absl portMap) {} error = (true, portMap, error')) ∧
    ∀ entries : List (Entry absl),
      let r := abslParseFlag absl ([','].intercalate (entries.map Entry.toText)) {} error
      (r.1 = true ↔ (entries.map fun entry => entry.ports.1).Nodup) ∧
      (r.1 = true → (∀ entry ∈ entries, r.2.1.lookup entry.ports.1 = entry.ports.2) ∧
        (∀ port, (∀ entry ∈ entries, entry.ports.1 ≠ port) → r.2.1.lookup port = port) ∧
        ∀ port, portMapLookup r.2.1.map.toList port = r.2.1.lookup port) ∧
      ∀ entries' : List (Entry absl), entries.Perm entries' →
        let r' := abslParseFlag absl ([','].intercalate (entries'.map Entry.toText)) {} error
        r.1 = r'.1 ∧ (r.1 = true → r.2.1 = r'.2.1) := by
  refine ⟨fun portMap => abslParseFlag_unparse h portMap error, fun entries => ?_⟩
  refine ⟨abslParseFlag_ok_iff h entries error, fun hok => ?_, fun entries' hperm => ?_⟩
  · have hget := abslParseFlag_getElem? h hok
    refine ⟨?_, ?_, portMapLookup_toList _⟩
    · intro entry hentry
      exact lookup_of_some ((hget _ _).2 ⟨entry, hentry, rfl⟩)
    · intro port hport
      refine lookup_of_none (Option.eq_none_iff_forall_not_mem.2 fun mapped hmapped => ?_)
      obtain ⟨entry, hentry, heq⟩ := (hget _ _).1 hmapped
      exact hport entry hentry (congrArg Prod.fst heq)
  · exact abslParseFlag_perm h hperm error

/-! ### Decimal digits -/

/-- A parser for decimal digits. -/
def parseDecimal (text error : Text) : Option UInt16 × Text :=
  let n := Nat.ofDigitChars 10 text 0
  if text ≠ [] ∧ text.all Char.isDigit ∧ n < 2 ^ 16 then (some (UInt16.ofNat n), error)
  else (none, error)

/-- The functions on texts without leading zeros, signs and blanks. -/
def decimalAbsl : Absl where
  strSplit := pieces
  strSplitPair := halves
  strJoin separator pairSeparator pairs := separator.intercalate (pairs.map fun ports =>
    Nat.toDigits 10 ports.1.toNat ++ pairSeparator ++ Nat.toDigits 10 ports.2.toNat)
  alphaNum n := Nat.toDigits 10 n.toNat
  parseFlag := parseDecimal

theorem documented_decimalAbsl : decimalAbsl.Documented where
  strSplit_join _ _ h :=
    pieces_intercalate (fun part hpart => (h part hpart).1) fun part hpart => (h part hpart).2
  strSplitPair_append _ _ _ h := halves_append h
  strJoin_pairs _ _ _ := rfl
  alphaNum_digits _ _ h := Nat.isDigit_of_mem_toDigits (by decide) (by decide) h
  parseFlag_alphaNum n error := by
    let text := Nat.toDigits 10 n.toNat
    have hdigits : ∀ c ∈ text, c.isDigit = true := fun c hc =>
      Nat.isDigit_of_mem_toDigits (by decide) (by decide) hc
    have hvalue : Nat.ofDigitChars 10 text 0 = n.toNat := Nat.ofDigitChars_ten_toDigits
    have hlt : n.toNat < 2 ^ 16 := n.toNat_lt
    show (parseDecimal text error).1 = some n
    rw [parseDecimal, hvalue, if_pos ⟨Nat.toDigits_ne_nil, List.all_eq_true.2 hdigits, hlt⟩]
    exact congrArg some UInt16.ofNat_toNat

/-- `80=8080,443=8443` maps two ports, and `80=8080,80=8081` is rejected. -/
theorem abslParseFlag_correct_decimal :
    (let r := abslParseFlag decimalAbsl "80=8080,443=8443".toList {} []
     r.1 = true ∧ r.2.1.lookup 443 = 8443 ∧ r.2.1.lookup 22 = 22) ∧
      (abslParseFlag decimalAbsl "80=8080,80=8081".toList {} []).1 ≠ true := by
  constructor
  · have hparsed := (abslParseFlag_correct documented_decimalAbsl []).2
      ([(80, 8080), (443, 8443)].map (Entry.ofPorts documented_decimalAbsl))
    obtain ⟨hlisted, hother, -⟩ := hparsed.2.1 (hparsed.1.2 (by decide))
    exact ⟨hparsed.1.2 (by decide), hlisted _ (.tail _ (.head _)), hother 22 (by decide)⟩
  · have hparsed := (abslParseFlag_correct documented_decimalAbsl []).2
      ([(80, 8080), (80, 8081)].map (Entry.ofPorts documented_decimalAbsl))
    exact mt hparsed.1.1 (by decide)

end PortMap
end McuNet
