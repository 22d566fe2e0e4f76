import Mathlib.Algebra.Group.Nat.Defs
import Mathlib.Data.List.Basic

/-! # psrpc channel names

A channel is named by its parts, joined with `|`; empty parts are left out, and a character that
is not an ASCII letter, digit or underscore is written as `u+` with four hexadecimal digits, or as
`U+` with eight. The last part tells the four families of channels apart.

* **`sanitize_injective`** — a part can be read back from its escaped form.
* **`filter_eq_of_channel_eq`** — the non-empty parts can be read back from the name.
* **`channel_names_never_collide`** — the names of all four families. -/

namespace LivekitVoice.Psrpc

open List

/-! ## Hexadecimal digits -/

/-- A digit below sixteen, in lower case. -/
def hexDigit (n : Nat) : Char :=
  ['0', '1', '2', '3', '4', '5', '6', '7', '8', '9', 'a', 'b', 'c', 'd', 'e', 'f'].getD n '0'

/-- The last `width` hexadecimal digits of a number. -/
def hexDigits : Nat → Nat → List Char
  | 0, _ => []
  | width + 1, n => hexDigits width (n / 16) ++ [hexDigit (n % 16)]

theorem hexDigit_injective :
    ∀ m < 16, ∀ n < 16, hexDigit m = hexDigit n → m = n := by decide

@[simp] theorem length_hexDigits (width n : Nat) : (hexDigits width n).length = width := by
  induction width generalizing n with
  | zero => rfl
  | succ width ih => rw [hexDigits, length_append, ih]; rfl

theorem hexDigits_injective {width m n : Nat} (hm : m < 16 ^ width) (hn : n < 16 ^ width)
    (h : hexDigits width m = hexDigits width n) : m = n := by
  induction width generalizing m n with
  | zero => omega
  | succ width ih =>
    rw [hexDigits, hexDigits] at h
    obtain ⟨hhigh, hlow⟩ := append_inj h (by simp)
    rw [Nat.pow_succ] at hm hn
    have hdiv := ih (by omega) (by omega) hhigh
    have hmod := hexDigit_injective (m % 16) (by omega) (n % 16) (by omega)
      (List.cons.inj hlow).1
    omega

theorem bar_notMem_hexDigits (width n : Nat) : '|' ∉ hexDigits width n := by
  induction width generalizing n with
  | zero => simp [hexDigits]
  | succ width ih =>
    rw [hexDigits, mem_append, not_or]
    refine ⟨ih (n / 16), fun hmem => ?_⟩
    have hne : ∀ n < 16, hexDigit n ≠ '|' := by decide
    exact hne (n % 16) (by omega) (mem_singleton.mp hmem).symm

/-! ## Escaping -/

/-- A character that is kept as it is. -/
def keptChar (c : Char) : Bool := c.isAlphanum || c = '_'

/-- The escaped form of a character. -/
def sanitizeChar (c : Char) : List Char :=
  if keptChar c then [c]
  else if c.toNat < 0x10000 then 'u' :: '+' :: hexDigits 4 c.toNat
  else 'U' :: '+' :: hexDigits 8 c.toNat

/-- `sanitize`: a channel part with its special characters escaped. -/
def sanitize (s : String) : String := String.ofList (s.toList.flatMap sanitizeChar)

theorem bar_notMem_sanitizeChar (c : Char) : '|' ∉ sanitizeChar c := by
  unfold sanitizeChar
  split
  · next hkept =>
    intro hmem
    rw [← mem_singleton.mp hmem] at hkept
    exact absurd hkept (by decide)
  · split
    all_goals simp [bar_notMem_hexDigits]

theorem head?_flatMap_sanitizeChar (cs : List Char) :
    (cs.flatMap sanitizeChar).head? ≠ some '+' := by
  cases cs with
  | nil => simp
  | cons c cs =>
    rw [flatMap_cons]
    unfold sanitizeChar
    split
    · next hkept =>
      intro hhead
      obtain rfl : c = '+' := by simpa using hhead
      exact absurd hkept (by decide)
    · split <;> simp

theorem toNat_lt_pow (c : Char) : c.toNat < 16 ^ 8 := by
  have hvalid := c.valid
  simp only [UInt32.isValidChar, Nat.isValidChar] at hvalid
  simp only [Char.toNat]
  omega

theorem eq_of_hexDigits {width : Nat} {c d : Char} (hc : c.toNat < 16 ^ width)
    (hd : d.toNat < 16 ^ width) (h : hexDigits width c.toNat = hexDigits width d.toNat) :
    c = d := by
  have hnat := hexDigits_injective hc hd h
  rw [← Char.ofNat_toNat c, hnat, Char.ofNat_toNat]

theorem kept_ne_escape {c marker : Char} {s t : List Char} (hs : s.head? ≠ some '+') :
    [c] ++ s ≠ marker :: '+' :: t := by
  intro h
  obtain ⟨-, rfl⟩ : c = marker ∧ s = '+' :: t := by simpa using h
  exact hs rfl

/-- **A character is read back** from the front of an escaped text. -/
theorem sanitizeChar_append_inj {c d : Char} {s t : List Char} (hs : s.head? ≠ some '+')
    (ht : t.head? ≠ some '+') (h : sanitizeChar c ++ s = sanitizeChar d ++ t) : c = d ∧ s = t := by
  unfold sanitizeChar at h
  split at h
  · split at h
    · simpa using h
    · split at h <;> exact absurd h (kept_ne_escape hs)
  · split at h
    · next hc =>
      split at h
      · exact absurd h.symm (kept_ne_escape ht)
      · split at h
        · next hd =>
          obtain ⟨hhex, htail⟩ := append_inj
            (List.cons.inj (List.cons.inj h).2).2 (by simp)
          exact ⟨eq_of_hexDigits (by simpa using hc) (by simpa using hd) hhex, htail⟩
        · exact absurd (List.cons.inj h).1 (by decide)
    · split at h
      · exact absurd h.symm (kept_ne_escape ht)
      · split at h
        · exact absurd (List.cons.inj h).1 (by decide)
        · obtain ⟨hhex, htail⟩ := append_inj
            (List.cons.inj (List.cons.inj h).2).2 (by simp)
          exact ⟨eq_of_hexDigits (toNat_lt_pow c) (toNat_lt_pow d) hhex, htail⟩

theorem sanitizeChar_ne_nil (c : Char) : sanitizeChar c ≠ [] := by
  unfold sanitizeChar
  split
  · simp
  · split <;> simp

/-- **A part is read back** from its escaped form. -/
theorem sanitize_injective : Function.Injective sanitize := by
  have hchars : ∀ cs ds : List Char, cs.flatMap sanitizeChar = ds.flatMap sanitizeChar →
      cs = ds := by
    intro cs
    induction cs with
    | nil =>
      intro ds h
      cases ds with
      | nil => rfl
      | cons d ds => simp [sanitizeChar_ne_nil] at h
    | cons c cs ih =>
      intro ds h
      cases ds with
      | nil => simp [sanitizeChar_ne_nil] at h
      | cons d ds =>
        rw [flatMap_cons, flatMap_cons] at h
        obtain ⟨rfl, htail⟩ := sanitizeChar_append_inj (head?_flatMap_sanitizeChar cs)
          (head?_flatMap_sanitizeChar ds) h
        rw [ih ds htail]
  intro s t h
  exact String.toList_inj.mp (hchars _ _ (String.ofList_inj.mp h))

/-! ## Channels -/

/-- `channel`: the name with the given parts. -/
def channel (parts : List String) : String :=
  String.intercalate "|" ((parts.filter (· ≠ "")).map sanitize)

/-- `rpc_channel`: where the requests for a method and topic are published. -/
def rpcChannel (service method topic : String) : String := channel [service, method, topic, "REQ"]

/-- `claim_response_channel`: where the grants for a method and topic are published. -/
def claimResponseChannel (service method topic : String) : String :=
  channel [service, method, topic, "RCLAIM"]

/-- `response_channel`: where a client gets its responses. -/
def responseChannel (service clientId : String) : String := channel [service, clientId, "RES"]

/-- `claim_request_channel`: where a client gets the bids for its requests. -/
def claimRequestChannel (service clientId : String) : String := channel [service, clientId, "CLAIM"]

/-- **The non-empty parts are read back** from the name. -/
theorem filter_eq_of_channel_eq {parts parts' : List String} (h : channel parts = channel parts')
    (hne : parts.filter (· ≠ "") ≠ []) (hne' : parts'.filter (· ≠ "") ≠ []) :
    parts.filter (· ≠ "") = parts'.filter (· ≠ "") := by
  have hbar : ∀ l : List String, ∀ cs ∈ (l.map sanitize).map String.toList, '|' ∉ cs := by
    intro l cs hcs hmem
    simp only [map_map, mem_map, Function.comp_apply] at hcs
    obtain ⟨s, -, rfl⟩ := hcs
    rw [sanitize, String.toList_ofList, mem_flatMap] at hmem
    obtain ⟨c, -, hc⟩ := hmem
    exact bar_notMem_sanitizeChar c hc
  have hchars := congrArg String.toList h
  rw [channel, channel, String.toList_intercalate, String.toList_intercalate] at hchars
  have hsplit := congrArg (List.splitOn '|') hchars
  rw [show "|".toList = ['|'] from rfl, splitOn_intercalate '|' (hbar _) (by simpa using hne),
    splitOn_intercalate '|' (hbar _) (by simpa using hne')] at hsplit
  have hmap := map_injective_iff.mpr (fun _ _ => String.toList_inj.mp) hsplit
  exact map_injective_iff.mpr sanitize_injective hmap

theorem last_eq_of_channel_eq {kind kind' : String} (hkind : kind ≠ "") (hkind' : kind' ≠ "")
    {parts parts' : List String} (h : channel (parts ++ [kind]) = channel (parts' ++ [kind'])) :
    parts.filter (· ≠ "") = parts'.filter (· ≠ "") ∧ kind = kind' := by
  have hfilter := filter_eq_of_channel_eq h (by simp [hkind]) (by simp [hkind'])
  rw [filter_append, filter_append] at hfilter
  simpa [hkind, hkind'] using hfilter

theorem channel_ne_of_kind_ne {kind kind' : String} (hkind : kind ≠ "") (hkind' : kind' ≠ "")
    (hne : kind ≠ kind') (parts parts' : List String) :
    channel (parts ++ [kind]) ≠ channel (parts' ++ [kind']) :=
  fun h => hne (last_eq_of_channel_eq hkind hkind' h).2

theorem rpcChannel_ne_claimResponseChannel (service method topic service' method' topic' : String) :
    rpcChannel service method topic ≠ claimResponseChannel service' method' topic' :=
  channel_ne_of_kind_ne (by decide) (by decide) (by decide) [service, method, topic]
    [service', method', topic']

/-- **The channel of a grant tells the method and the topic** among those of one service. -/
theorem claimResponseChannel_injective {service method topic method' topic' : String}
    (hmethod : method ≠ "") (hmethod' : method' ≠ "")
    (h : claimResponseChannel service method topic = claimResponseChannel service method' topic') :
    method = method' ∧ topic = topic' := by
  have hparts : [service, method, topic].filter (· ≠ "") =
      [service, method', topic'].filter (· ≠ "") :=
    (last_eq_of_channel_eq (by decide) (by decide)
      (show channel ([service, method, topic] ++ ["RCLAIM"]) =
        channel ([service, method', topic'] ++ ["RCLAIM"]) from h)).1
  by_cases hservice : service = "" <;> by_cases htopic : topic = "" <;>
    by_cases htopic' : topic' = "" <;>
    simp_all

section NonemptyParts

variable {service method service' method' : String} (hservice : service ≠ "")
  (hmethod : method ≠ "") (hservice' : service' ≠ "") (hmethod' : method' ≠ "")

include hservice hmethod hservice' hmethod'

theorem parts_eq_of_channel_eq {kind topic topic' : String} (hkind : kind ≠ "")
    (h : channel ([service, method, topic] ++ [kind]) =
      channel ([service', method', topic'] ++ [kind])) :
    service = service' ∧ method = method' ∧ topic = topic' := by
  have hparts := (last_eq_of_channel_eq hkind hkind h).1
  by_cases htopic : topic = "" <;> by_cases htopic' : topic' = "" <;> simp_all

/-- **Channel names never collide.** Within each of the four families the name tells its parts, and
no name belongs to two families; a topic may be empty, and the client ids of the last two families
stand where the methods of the first two do. -/
theorem channel_names_never_collide {clientId clientId' : String} (hclient : clientId ≠ "")
    (hclient' : clientId' ≠ "") (topic topic' : String) :
    (rpcChannel service method topic = rpcChannel service' method' topic' →
      service = service' ∧ method = method' ∧ topic = topic') ∧
    (claimResponseChannel service method topic = claimResponseChannel service' method' topic' →
      service = service' ∧ method = method' ∧ topic = topic') ∧
    (responseChannel service clientId = responseChannel service' clientId' →
      service = service' ∧ clientId = clientId') ∧
    (claimRequestChannel service clientId = claimRequestChannel service' clientId' →
      service = service' ∧ clientId = clientId') ∧
    rpcChannel service method topic ≠ claimResponseChannel service' method' topic' ∧
    rpcChannel service method topic ≠ responseChannel service' clientId' ∧
    rpcChannel service method topic ≠ claimRequestChannel service' clientId' ∧
    claimResponseChannel service method topic ≠ responseChannel service' clientId' ∧
    claimResponseChannel service method topic ≠ claimRequestChannel service' clientId' ∧
    responseChannel service clientId ≠ claimRequestChannel service' clientId' := by
  have hpair : ∀ kind : String, kind ≠ "" →
      channel ([service, clientId] ++ [kind]) = channel ([service', clientId'] ++ [kind]) →
      service = service' ∧ clientId = clientId' := by
    intro kind hkind h
    have hparts := (last_eq_of_channel_eq hkind hkind h).1
    simpa [hservice, hservice', hclient, hclient'] using hparts
  refine ⟨parts_eq_of_channel_eq hservice hmethod hservice' hmethod' (by decide),
    parts_eq_of_channel_eq hservice hmethod hservice' hmethod' (by decide),
    hpair "RES" (by decide), hpair "CLAIM" (by decide),
    rpcChannel_ne_claimResponseChannel service method topic service' method' topic',
    ?_, ?_, ?_, ?_, channel_ne_of_kind_ne (by decide) (by decide) (by decide) [_, _] [_, _]⟩
  -- a method's channel against a client's
  all_goals exact channel_ne_of_kind_ne (by decide) (by decide) (by decide) [_, _, _] [_, _]

end NonemptyParts

/-- A topic that spells an escape, an empty one, and a client named as a method. -/
theorem channel_names_never_collide_escape :
    rpcChannel "svc" "Start" "u+002d" ≠ rpcChannel "svc" "Start" "-" ∧
    rpcChannel "svc" "Start" "" ≠ responseChannel "svc" "Start" := by
  have hsvc : "svc" ≠ "" := by decide
  have hstart : "Start" ≠ "" := by decide
  have hdash := channel_names_never_collide hsvc hstart hsvc hstart hstart hstart "u+002d" "-"
  have hempty := channel_names_never_collide hsvc hstart hsvc hstart hstart hstart "" ""
  exact ⟨fun h => absurd (hdash.1 h).2.2 (by decide), hempty.2.2.2.2.2.1⟩

end LivekitVoice.Psrpc
