import LivekitVoice.Net.IpAddr
import Mathlib.Data.Set.Image

/-! # The filter of candidate addresses

The engine keeps a candidate address if it is in one of the configured includes, or there are none,
and in none of the excludes; an entry is a network or an address. A candidate that is an IPv4
address in IPv6 form is taken for the IPv4 address; the entries are taken as they are.

* **`mem_image_iff`** — what an entry has of a candidate,
* **`ipFilter_iff`** — for which lists and candidates the filter is membership up to the IPv4
  form. -/

namespace LivekitVoice.IpFilter

open Net

/-- A group of an IPv6 address. -/
def segment (v6 : BitVec 128) (i : Nat) : BitVec 16 := (v6 >>> (112 - 16 * i)).setWidth 16

/-- `ipv6_is_ipv4_mapped`. -/
def ipv6IsIpv4Mapped (v6 : BitVec 128) : Bool :=
  segment v6 0 = 0 && segment v6 1 = 0 && segment v6 2 = 0 && segment v6 3 = 0 &&
    segment v6 4 = 0 && segment v6 5 = 0xffff

/-- The IPv4 form of an address. -/
def unmap : IpAddr → IpAddr
  | .v6 v6 => if ipv6IsIpv4Mapped v6 then .v4 (segment v6 6 ++ segment v6 7) else .v6 v6
  | .v4 v4 => .v4 v4

/-- The IPv4 form has no other IPv4 form. -/
theorem unmap_unmap (a : IpAddr) : unmap (unmap a) = unmap a := by
  cases a with
  | v4 v4 => rfl
  | v6 v6 =>
    by_cases hmapped : ipv6IsIpv4Mapped v6
    · simp only [unmap, hmapped, if_true]
    · simp only [unmap, hmapped, if_false, Bool.false_eq_true]

section Filter

variable [IpNetParser]

/-- `ip_filter_match`. -/
def ipFilterMatch (configured : String) (ip : IpAddr) : Bool :=
  match parseIpNet configured with
  | some net => net.contains (unmap ip)
  | none => parseIpAddr configured = some (unmap ip)

/-- The filter that `RtcEngine::new` sets; without entries it sets none, which keeps everything. -/
def ipFilter (includes excludes : List String) (ip : IpAddr) : Bool :=
  (if includes.isEmpty then true else includes.any fun entry => ipFilterMatch entry ip) &&
    !excludes.any fun entry => ipFilterMatch entry ip

/-! ## Sets of addresses -/

/-- **The addresses of an entry.** -/
def addresses (configured : String) : Set IpAddr :=
  {a | match parseIpNet configured with
    | some net => net.contains a
    | none => parseIpAddr configured = some a}

/-- **What the filter is for**: membership up to the IPv4 form, on both sides. -/
def Kept (includes excludes : List String) (ip : IpAddr) : Prop :=
  (includes = [] ∨ ∃ entry ∈ includes, unmap ip ∈ unmap '' addresses entry) ∧
    ∀ entry ∈ excludes, unmap ip ∉ unmap '' addresses entry

/-- **The entry has the candidate in IPv6 form**: an address that stands for the same IPv4 address,
and is not written as one. -/
def HasMapped (configured : String) (ip : IpAddr) : Prop :=
  ∃ a ∈ addresses configured, unmap a = unmap ip ∧ unmap a ≠ a

variable {configured : String} {includes excludes : List String} {ip : IpAddr}

/-- An entry matches if it has the IPv4 form of the candidate as written. -/
theorem ipFilterMatch_iff : ipFilterMatch configured ip ↔ unmap ip ∈ addresses configured := by
  simp only [ipFilterMatch, addresses, Set.mem_ofPred_eq]
  cases parseIpNet configured <;> simp

/-- **What an entry has up to the IPv4 form**: what it has as written, and what it has in IPv6
form. -/
theorem mem_image_iff :
    unmap ip ∈ unmap '' addresses configured ↔
      unmap ip ∈ addresses configured ∨ HasMapped configured ip := by
  constructor
  · rintro ⟨a, ha, hform⟩
    by_cases hself : unmap a = a
    · exact .inl (by rwa [← hform, hself])
    · exact .inr ⟨a, ha, hform, hself⟩
  · rintro (hwritten | ⟨a, ha, hform, -⟩)
    · exact ⟨unmap ip, hwritten, unmap_unmap ip⟩
    · exact ⟨a, ha, hform⟩

/-- The filter, as sets: the candidate is included, and not excluded, as the entries are written. -/
theorem ipFilter_eq_true_iff :
    ipFilter includes excludes ip ↔
      (includes = [] ∨ ∃ entry ∈ includes, unmap ip ∈ addresses entry) ∧
        ¬ ∃ entry ∈ excludes, unmap ip ∈ addresses entry := by
  rw [ipFilter, Bool.and_eq_true, Bool.not_eq_true', ← Bool.not_eq_true, List.any_eq_true]
  simp only [ipFilterMatch_iff]
  refine and_congr_left fun _ => ?_
  cases includes with
  | nil => simp
  | cons first rest => simp [ipFilterMatch_iff]

/-- What the filter is for, by what the entries have as written and in IPv6 form. -/
theorem kept_iff :
    Kept includes excludes ip ↔
      ((includes = [] ∨ ∃ entry ∈ includes, unmap ip ∈ addresses entry) ∨
          ∃ entry ∈ includes, HasMapped entry ip) ∧
        (¬ ∃ entry ∈ excludes, unmap ip ∈ addresses entry) ∧
          ¬ ∃ entry ∈ excludes, HasMapped entry ip := by
  simp only [Kept, mem_image_iff, and_or_left, exists_or, or_assoc, not_or, forall_and,
    not_exists, not_and]

/-- **When the filter is set membership up to the IPv4 form**, for all lists and every candidate. An
exclude that has the candidate as written drops it, as it should. Without one, a candidate that is
included as the entries are written is kept, which is right exactly if no exclude has it in IPv6
form; and one that is not is dropped, which is right exactly if no include has it in IPv6 form, or
an exclude does too. An entry that is the candidate's own text matches it exactly if the candidate
is not an IPv4 address in IPv6 form. -/
theorem ipFilter_iff (includes excludes : List String) (ip : IpAddr) :
    ((ipFilter includes excludes ip ↔ Kept includes excludes ip) ↔
        ((¬ ∃ entry ∈ excludes, unmap ip ∈ addresses entry) →
          ((includes = [] ∨ ∃ entry ∈ includes, unmap ip ∈ addresses entry) →
              ¬ ∃ entry ∈ excludes, HasMapped entry ip) ∧
            (¬ (includes = [] ∨ ∃ entry ∈ includes, unmap ip ∈ addresses entry) →
              (∃ entry ∈ includes, HasMapped entry ip) → ∃ entry ∈ excludes, HasMapped entry ip))) ∧
      ∀ entry, parseIpAddr entry = some ip → (ipFilterMatch entry ip ↔ unmap ip = ip) := by
  constructor
  · rw [ipFilter_eq_true_iff, kept_iff]
    by_cases hout : ∃ entry ∈ excludes, unmap ip ∈ addresses entry
    · simp only [hout, not_true_eq_false, and_false, false_and, false_implies]
    · by_cases hin : includes = [] ∨ ∃ entry ∈ includes, unmap ip ∈ addresses entry
      · simp only [hin, hout, not_false_eq_true, true_and, true_or, true_iff, forall_const,
          not_true_eq_false, false_implies, and_true]
      · simp only [hin, hout, not_false_eq_true, true_and, false_or, false_and, false_iff,
          forall_const, false_implies, not_and, not_not]
  · intro entry hparse
    -- there is no slash in the text of an address
    have hslash : '/' ∉ entry.toList := not_mem_of_parseIpAddr hparse (by decide)
    rw [ipFilterMatch, parseIpNet_eq_none hslash]
    simp only [hparse, Option.some.injEq, decide_eq_true_eq]
    exact eq_comm

end Filter

section Inputs

attribute [local instance] cidrParser

theorem ipFilter_iff_everything :
    (ipFilter ["::/0", "0.0.0.0/0"] ["10.0.0.9"] (.v6 0xffff0a000001) ↔
      Kept ["::/0", "0.0.0.0/0"] ["10.0.0.9"] (.v6 0xffff0a000001)) ∧
    (ipFilterMatch "10.0.0.1" (.v4 0x0a000001) ↔
      unmap (.v4 0x0a000001) = .v4 0x0a000001) := by
  refine ⟨(ipFilter_iff _ _ _).1.mpr fun _ => ⟨fun _ => ?_, fun hin => absurd ?_ hin⟩,
    (ipFilter_iff [] [] _).2 _ (by decide +kernel)⟩
  · -- the only exclude is an IPv4 address, which is its own IPv4 form
    rintro ⟨entry, hentry, a, ha, -, hself⟩
    obtain rfl := List.mem_singleton.mp hentry
    have haddr : parseIpAddr "10.0.0.9" = some (.v4 0x0a000009) := by decide +kernel
    have hsome : parseIpAddr "10.0.0.9" = some a := ha
    cases haddr.symm.trans hsome
    exact hself rfl
  · exact .inr ⟨"0.0.0.0/0", by decide, ipFilterMatch_iff.mp (by decide +kernel)⟩

/-- **Entries that are missed**: a candidate's own text, as an include and as an exclude, and all of
IPv6; with all of IPv4 besides, the candidate is kept. -/
theorem ipFilter_misses_mapped :
    parseIpAddr "::ffff:10.0.0.1" = some (.v6 0xffff0a000001) ∧
    ipFilter ["::ffff:10.0.0.1"] [] (.v6 0xffff0a000001) = false ∧
    ipFilter [] ["::ffff:10.0.0.1"] (.v6 0xffff0a000001) ∧
    ipFilter ["::/0"] [] (.v6 0xffff0a000001) = false ∧
    ipFilter ["::/0", "0.0.0.0/0"] [] (.v6 0xffff0a000001) := by
  decide +kernel

end Inputs

end LivekitVoice.IpFilter
