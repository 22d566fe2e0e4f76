import LivekitVoice.Text.Slice

/-! # Internet addresses and their text forms

Addresses of both families as bit vectors, networks as an address and a length, and the text forms
that the standard library's `IpAddr` is read from: dotted quads without leading zeros, eight groups
of one to four hexadecimal digits with one run of zero groups left out as `::`, and a dotted quad in
place of the last two groups. Networks are read by the crate `ipnet`, which is a parameter
(`IpNetParser`): of what it reads we only assume the documented form (`IsCidr`). The runs on fixed
inputs use a parser of that form (`cidrParser`).

* **`not_mem_of_parseIpAddr`** — the text of an address has hexadecimal digits, dots and colons
  only. -/

namespace LivekitVoice.Net

open Option Text

/-- **An address** of either family. -/
inductive IpAddr
  | v4 (bits : BitVec 32)
  | v6 (bits : BitVec 128)
  deriving DecidableEq

/-- **A network**: an address, and how many of its leading bits count. -/
inductive IpNet
  | v4 (addr : BitVec 32) (length : Fin 33)
  | v6 (addr : BitVec 128) (length : Fin 129)

/-- **The addresses of a network** are those of its family with the same leading bits. -/
def IpNet.contains : IpNet → IpAddr → Bool
  | .v4 net length, .v4 addr => net >>> (32 - length.val) = addr >>> (32 - length.val)
  | .v6 net length, .v6 addr => net >>> (128 - length.val) = addr >>> (128 - length.val)
  | _, _ => false

/-- Its address. -/
def IpNet.addr : IpNet → IpAddr
  | .v4 addr _ => .v4 addr
  | .v6 addr _ => .v6 addr

/-- Its length, in bits. -/
def IpNet.length : IpNet → Nat
  | .v4 _ length => length
  | .v6 _ length => length

/-! ## Numbers -/

/-- The value of a hexadecimal digit. -/
def hexValue (c : Char) : Option Nat :=
  if c.isDigit then some (c.toNat - '0'.toNat)
  else if 'a' ≤ c ∧ c ≤ 'f' then some (c.toNat - 'a'.toNat + 10)
  else if 'A' ≤ c ∧ c ≤ 'F' then some (c.toNat - 'A'.toNat + 10)
  else none

/-- The value of a decimal digit. -/
def decValue (c : Char) : Option Nat := if c.isDigit then some (c.toNat - '0'.toNat) else none

/-- **A number** in a base, from its digits; the value of no digits is zero. -/
def number (value : Char → Option Nat) (base : Nat) : Nat → List Char → Option Nat
  | acc, [] => some acc
  | acc, c :: cs => (value c).bind fun d => number value base (acc * base + d) cs

variable {cs : List Char} {c : Char} {s : String}

theorem isSome_value_of_number {value : Char → Option Nat} {base acc n : Nat}
    (h : number value base acc cs = some n) : ∀ c ∈ cs, (value c).isSome := by
  induction cs generalizing acc with
  | nil => simp
  | cons c cs ih =>
    rw [number, bind_eq_some_iff] at h
    obtain ⟨d, hd, hrest⟩ := h
    intro x hx
    rcases List.mem_cons.mp hx with rfl | hx
    · rw [hd]
      rfl
    · exact ih hrest x hx

/-- An octet of a dotted quad: one to three digits, no leading zero, below 256. -/
def parseOctet (cs : List Char) : Option Nat :=
  if cs.length = 0 ∨ 3 < cs.length ∨ (1 < cs.length ∧ cs.head? = some '0') then none
  else (number decValue 10 0 cs).filter fun n => n < 256

/-- A group of an IPv6 address: one to four hexadecimal digits. -/
def parseGroup (cs : List Char) : Option Nat :=
  if cs.length = 0 ∨ 4 < cs.length then none else number hexValue 16 0 cs

/-- Reads every field, or fails. -/
def parseAll (parse : List Char → Option Nat) : List (List Char) → Option (List Nat)
  | [] => some []
  | f :: fields => (parse f).bind fun n => (parseAll parse fields).map fun ns => n :: ns

theorem isSome_parse_of_parseAll {parse : List Char → Option Nat} {fields : List (List Char)}
    {ns : List Nat} (h : parseAll parse fields = some ns) :
    ∀ f ∈ fields, (parse f).isSome := by
  induction fields generalizing ns with
  | nil => simp
  | cons f fields ih =>
    rw [parseAll, bind_eq_some_iff] at h
    obtain ⟨n, hn, hrest⟩ := h
    obtain ⟨ns', hns, -⟩ := map_eq_some_iff.mp hrest
    intro g hg
    rcases List.mem_cons.mp hg with rfl | hg
    · rw [hn]
      rfl
    · exact ih hns g hg

/-! ## Addresses -/

/-- **A dotted quad.** -/
def parseIpv4 (cs : List Char) : Option (BitVec 32) :=
  let fields := cs.splitOn '.'
  if fields.length = 4 then
    (parseAll parseOctet fields).map fun octets =>
      .ofNat 32 (octets.foldl (fun acc octet => acc * 256 + octet) 0)
  else none

/-- Groups between colons, where a dotted quad may stand for the last two. -/
def parseTail : List (List Char) → Option (List Nat)
  | [] => some []
  | [f] =>
    match parseGroup f with
    | some n => some [n]
    | none => (parseIpv4 f).map fun quad => [quad.toNat / 65536, quad.toNat % 65536]
  | f :: fields => (parseGroup f).bind fun n => (parseTail fields).map fun ns => n :: ns

/-- The fields between colons; an empty text has none. -/
def colonFields (cs : List Char) : List (List Char) := if cs = [] then [] else cs.splitOn ':'

/-- The cut at the first `::`. -/
def splitDouble : List Char → Option (List Char × List Char)
  | [] => none
  | [_] => none
  | c :: d :: cs =>
    if c = ':' ∧ d = ':' then some ([], cs)
    else (splitDouble (d :: cs)).map fun parts => (c :: parts.1, parts.2)

/-- The address with eight groups. -/
def ofGroups (groups : List Nat) : BitVec 128 :=
  .ofNat 128 (groups.foldl (fun acc group => acc * 65536 + group) 0)

/-- **An IPv6 address.** A `::` stands for at least one group of zeros; a dotted quad is read at the
end only. -/
def parseIpv6 (cs : List Char) : Option (BitVec 128) :=
  match splitDouble cs with
  | none =>
    (parseTail (colonFields cs)).bind fun groups =>
      if groups.length = 8 then some (ofGroups groups) else none
  | some (l, r) =>
    (parseAll parseGroup (colonFields l)).bind fun head =>
      (parseTail (colonFields r)).bind fun tail =>
        if head.length + tail.length ≤ 7 then
          some (ofGroups (head ++ List.replicate (8 - head.length - tail.length) 0 ++ tail))
        else none

/-- **An address** (`str::parse::<IpAddr>`). -/
def parseIpAddr (s : String) : Option IpAddr :=
  match parseIpv4 s.toList with
  | some bits => some (.v4 bits)
  | none => (parseIpv6 s.toList).map .v6

example : parseIpAddr "10.1.2.3" = some (.v4 0x0a010203#32) ∧ parseIpAddr "10.1.02.3" = none := by
  decide

example : parseIpAddr "2001:db8::a:1" = some (.v6 0x20010db80000000000000000000a0001#128) ∧
    parseIpAddr "::ffff:10.1.2.3" = some (.v6 0xffff0a010203#128) ∧
    parseIpAddr "1:2:3:4:5:6:7" = none ∧ parseIpAddr "1::2::3" = none := by
  decide +kernel

/-! ## Networks -/

/-- **The documented form of a network**: an address, a slash, and the length in decimal digits. -/
def IsCidr (s : String) (net : IpNet) : Prop :=
  ∃ addr digits, s.toList = addr ++ '/' :: digits ∧ parseIpAddr (.ofList addr) = some net.addr ∧
    number decValue 10 0 digits = some net.length

/-- **A parser of networks**: what it reads has the documented form. It need not read everything of
that form; how many digits a length may have, for one, is left open. -/
class IpNetParser where
  parse : String → Option IpNet
  isCidr_of_parse : ∀ {s net}, parse s = some net → IsCidr s net

/-- **A network** (`str::parse::<IpNet>`). -/
def parseIpNet [IpNetParser] (s : String) : Option IpNet := IpNetParser.parse s

/-- **A text without a slash is no network.** -/
theorem parseIpNet_eq_none [IpNetParser] (h : '/' ∉ s.toList) : parseIpNet s = none := by
  refine eq_none_iff_forall_ne_some.mpr fun net hnet => h ?_
  obtain ⟨addr, digits, htext, -⟩ := IpNetParser.isCidr_of_parse hnet
  rw [htext]
  exact List.mem_append_right addr List.mem_cons_self

/-- The network of an address and a length that is not too long for it. -/
def networkOf (addr : IpAddr) (length : Nat) : Option IpNet :=
  match addr with
  | .v4 addr => if h : length < 33 then some (.v4 addr ⟨length, h⟩) else none
  | .v6 addr => if h : length < 129 then some (.v6 addr ⟨length, h⟩) else none

/-- How many digits the length of a network of the family has at most. -/
def lengthDigits : IpAddr → Nat
  | .v4 _ => 2
  | .v6 _ => 3

/-- The cut at the last slash, with an address before it and one to two or three digits after it. -/
def readCidr (s : String) : Option IpNet :=
  (rsplitOnce '/' s.toList).bind fun parts =>
    (parseIpAddr (.ofList parts.1)).bind fun addr =>
      if parts.2 = [] ∨ lengthDigits addr < parts.2.length then none
      else (number decValue 10 0 parts.2).bind (networkOf addr)

/-- What `networkOf` makes of an address and a length has both. -/
theorem networkOf_eq_some {addr : IpAddr} {length : Nat} {net : IpNet}
    (h : networkOf addr length = some net) : net.addr = addr ∧ net.length = length := by
  unfold networkOf at h
  cases addr with
  | v4 | v6 =>
    dsimp only at h
    split at h
    · cases h
      exact ⟨rfl, rfl⟩
    · cases h

/-- **A parser of the documented form**, for fixed inputs. -/
@[reducible]
def cidrParser : IpNetParser where
  parse := readCidr
  isCidr_of_parse := by
    intro s net h
    obtain ⟨⟨text, digits⟩, hcut, h⟩ := bind_eq_some_iff.mp h
    obtain ⟨addr, haddr, h⟩ := bind_eq_some_iff.mp h
    split at h
    · cases h
    · obtain ⟨length, hlength, h⟩ := bind_eq_some_iff.mp h
      obtain ⟨hnet, hbits⟩ := networkOf_eq_some h
      exact ⟨text, digits, (rsplitOnce_eq_some_iff.mp hcut).1, by rw [hnet, haddr],
        by rw [hbits, hlength]⟩

/-! ## The characters of an address -/

/-- The characters of the text of an address. -/
def AddrChar (c : Char) : Prop := (hexValue c).isSome ∨ c = '.' ∨ c = ':'
  deriving Decidable

theorem isDigit_of_parseOctet (h : (parseOctet cs).isSome) : ∀ c ∈ cs, c.isDigit := by
  rw [parseOctet] at h
  split at h
  · cases h
  · obtain ⟨n, hn⟩ := isSome_iff_exists.mp h
    obtain ⟨hn, -⟩ := filter_eq_some_iff.mp hn
    intro c hc
    have hvalue := isSome_value_of_number hn c hc
    by_contra hdigit
    simp [decValue, hdigit] at hvalue

/-- **The text of an IPv4 address** has digits and dots only. -/
theorem isDigit_or_dot_of_parseIpv4 {bits : BitVec 32} (h : parseIpv4 cs = some bits) :
    ∀ c ∈ cs, c.isDigit ∨ c = '.' := by
  simp only [parseIpv4] at h
  obtain ⟨-, h⟩ := ite_none_right_eq_some.mp h
  obtain ⟨octets, hoctets, -⟩ := map_eq_some_iff.mp h
  intro c hc
  have hfield : c = '.' ∨ ∃ f ∈ cs.splitOn '.', c ∈ f := mem_splitOn hc
  obtain hdot | ⟨f, hf, hcf⟩ := hfield
  · exact .inr hdot
  · exact .inl (isDigit_of_parseOctet (isSome_parse_of_parseAll hoctets f hf) c hcf)

theorem addrChar_of_parseIpv4 {bits : BitVec 32} (h : parseIpv4 cs = some bits) :
    ∀ c ∈ cs, AddrChar c := by
  intro c hc
  rcases isDigit_or_dot_of_parseIpv4 h c hc with hdigit | hdot
  · exact .inl (by simp [hexValue, hdigit])
  · exact .inr (.inl hdot)

theorem addrChar_of_parseGroup (h : (parseGroup cs).isSome) : ∀ c ∈ cs, AddrChar c := by
  rw [parseGroup] at h
  split at h
  · cases h
  · obtain ⟨n, hn⟩ := isSome_iff_exists.mp h
    intro c hc
    exact .inl (isSome_value_of_number hn c hc)

theorem addrChar_of_colonFields (h : ∀ f ∈ colonFields cs, ∀ c ∈ f, AddrChar c) :
    ∀ c ∈ cs, AddrChar c := by
  intro c hc
  have hne : cs ≠ [] := List.ne_nil_of_mem hc
  rw [colonFields, if_neg hne] at h
  have hfield : c = ':' ∨ ∃ f ∈ cs.splitOn ':', c ∈ f := mem_splitOn hc
  obtain hcolon | ⟨f, hf, hcf⟩ := hfield
  · exact .inr (.inr hcolon)
  · exact h f hf c hcf

theorem addrChar_of_parseTail {fields : List (List Char)} {groups : List Nat}
    (h : parseTail fields = some groups) : ∀ f ∈ fields, ∀ c ∈ f, AddrChar c := by
  induction fields generalizing groups with
  | nil => simp
  | cons f fields ih =>
    cases fields with
    | nil =>
      intro g hg
      obtain rfl := List.mem_singleton.mp hg
      rw [parseTail] at h
      cases hgroup : parseGroup g with
      | some n => exact addrChar_of_parseGroup (by rw [hgroup]; rfl)
      | none =>
        rw [hgroup] at h
        obtain ⟨quad, hquad, -⟩ := map_eq_some_iff.mp h
        exact addrChar_of_parseIpv4 hquad
    | cons g fields =>
      rw [parseTail, bind_eq_some_iff] at h
      · obtain ⟨n, hn, hrest⟩ := h
        obtain ⟨ns, hns, -⟩ := map_eq_some_iff.mp hrest
        intro f' hf'
        rcases List.mem_cons.mp hf' with rfl | hf'
        · exact addrChar_of_parseGroup (by rw [hn]; rfl)
        · exact ih hns f' hf'
      · simp

theorem splitDouble_eq_some {l r : List Char} (h : splitDouble cs = some (l, r)) :
    cs = l ++ ':' :: ':' :: r := by
  induction cs generalizing l with
  | nil => cases h
  | cons c cs ih =>
    cases cs with
    | nil => cases h
    | cons d cs =>
      rw [splitDouble] at h
      by_cases hdouble : c = ':' ∧ d = ':'
      · rw [if_pos hdouble] at h
        cases h
        rw [hdouble.1, hdouble.2, List.nil_append]
      · rw [if_neg hdouble] at h
        obtain ⟨⟨l', r'⟩, hcut, ⟨⟩⟩ := map_eq_some_iff.mp h
        rw [ih hcut, List.cons_append]

theorem addrChar_of_parseIpv6 {bits : BitVec 128} (h : parseIpv6 cs = some bits) :
    ∀ c ∈ cs, AddrChar c := by
  rw [parseIpv6] at h
  cases hcut : splitDouble cs with
  | none =>
    rw [hcut] at h
    obtain ⟨groups, hgroups, -⟩ := bind_eq_some_iff.mp h
    exact addrChar_of_colonFields (addrChar_of_parseTail hgroups)
  | some parts =>
    obtain ⟨l, r⟩ := parts
    rw [hcut] at h
    obtain ⟨head, hhead, h⟩ := bind_eq_some_iff.mp h
    obtain ⟨tail, htail, -⟩ := bind_eq_some_iff.mp h
    have hl : ∀ c ∈ l, AddrChar c := addrChar_of_colonFields fun f hf =>
      addrChar_of_parseGroup (isSome_parse_of_parseAll hhead f hf)
    have hr : ∀ c ∈ r, AddrChar c := addrChar_of_colonFields (addrChar_of_parseTail htail)
    rw [splitDouble_eq_some hcut]
    intro c hc
    simp only [List.mem_append, List.mem_cons] at hc
    rcases hc with hc | rfl | rfl | hc
    · exact hl c hc
    · exact .inr (.inr rfl)
    · exact .inr (.inr rfl)
    · exact hr c hc

theorem not_mem_of_parseIpAddr {addr : IpAddr} (h : parseIpAddr s = some addr) (hc : ¬ AddrChar c) :
    c ∉ s.toList :=
  fun hmem => hc (by
    rw [parseIpAddr] at h
    cases hv4 : parseIpv4 s.toList with
    | some bits => exact addrChar_of_parseIpv4 hv4 c hmem
    | none =>
      rw [hv4] at h
      obtain ⟨bits, hbits, -⟩ := map_eq_some_iff.mp h
      exact addrChar_of_parseIpv6 hbits c hmem)

end LivekitVoice.Net
