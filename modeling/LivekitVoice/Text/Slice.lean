import Mathlib.Tactic.ByContra
import Mathlib.Tactic.Tauto

/-! # Cutting texts

The operations of Rust's `str` that cut a text in two, on lists of characters: by a number of bytes
(which fails inside a character), at the first or last occurrence of a separator, before the last
character, and into the fields between separators.

* **`splitBytes_eq_some_iff`** — a cut by bytes is a cut between two characters,
* **`rsplitOnce_eq_some_iff`**, **`splitOnce_eq_some_iff`** — the cut at the last and the first
  separator,
* **`eq_of_join_eq`** — what is joined by a separator can be read back. -/

namespace LivekitVoice.Text

open List

/-! ## By bytes -/

/-- **The first `n` bytes and the others**, if the cut is not inside a character and not past the
end: the two parts of `str::split_at`. -/
def splitBytes : List Char → Nat → Option (List Char × List Char)
  | cs, 0 => some ([], cs)
  | [], _ + 1 => none
  | c :: cs, n + 1 =>
    if c.utf8Size ≤ n + 1 then
      (splitBytes cs (n + 1 - c.utf8Size)).map fun parts => (c :: parts.1, parts.2)
    else none

/-- `&s[..n]`; `none` is a panic. -/
def sliceTo (s : String) (n : Nat) : Option String :=
  (splitBytes s.toList n).map fun parts => .ofList parts.1

/-- `&s[n..]`; `none` is a panic. -/
def sliceFrom (s : String) (n : Nat) : Option String :=
  (splitBytes s.toList n).map fun parts => .ofList parts.2

example : sliceTo "naïve" 4 = some "naï" ∧ sliceTo "naïve" 3 = none := by decide

/-- The number of bytes of a text (`str::len`). -/
def byteLength : List Char → Nat
  | [] => 0
  | c :: cs => c.utf8Size + byteLength cs

theorem byteLength_eq_length {cs : List Char} (h : ∀ c ∈ cs, c.utf8Size = 1) :
    byteLength cs = cs.length := by
  induction cs with
  | nil => rfl
  | cons c cs ih =>
    rw [byteLength, ih fun d hd => h d (mem_cons_of_mem c hd), h c mem_cons_self,
      length_cons, Nat.add_comm]

theorem byteLength_append (cs ds : List Char) :
    byteLength (cs ++ ds) = byteLength cs + byteLength ds := by
  induction cs with
  | nil => rw [nil_append, byteLength, Nat.zero_add]
  | cons c cs ih => rw [cons_append, byteLength, byteLength, ih, Nat.add_assoc]

theorem length_le_byteLength (cs : List Char) : cs.length ≤ byteLength cs := by
  induction cs with
  | nil => exact Nat.le_refl 0
  | cons c cs ih =>
    have hpos : 0 < c.utf8Size := Char.utf8Size_pos c
    rw [length_cons, byteLength]
    omega

theorem utf8ByteSize_eq_byteLength (s : String) : s.utf8ByteSize = byteLength s.toList := by
  have hlist : ∀ cs : List Char, (String.ofList cs).utf8ByteSize = byteLength cs := by
    intro cs
    induction cs with
    | nil => rfl
    | cons c cs ih =>
      rw [String.ofList_cons, String.utf8ByteSize_append, String.utf8ByteSize_singleton, ih,
        byteLength]
  rw [← hlist, String.ofList_toList]

variable {n : Nat} {c : Char} {fields : List (List Char)} {glue : String} {texts : List String}

/-- **A cut by bytes** is a cut between characters with so many bytes to its left. -/
theorem splitBytes_eq_some_iff {cs ds es : List Char} :
    splitBytes cs n = some (ds, es) ↔ cs = ds ++ es ∧ byteLength ds = n := by
  induction cs generalizing ds n with
  | nil =>
    cases n with
    | zero =>
      simp only [splitBytes, Option.some.injEq, Prod.mk.injEq]
      constructor
      · rintro ⟨rfl, rfl⟩
        exact ⟨rfl, rfl⟩
      · rintro ⟨h, -⟩
        obtain ⟨rfl, rfl⟩ := append_eq_nil_iff.mp h.symm
        exact ⟨rfl, rfl⟩
    | succ n =>
      simp only [splitBytes, reduceCtorEq, false_iff, not_and]
      intro h
      obtain ⟨rfl, rfl⟩ := append_eq_nil_iff.mp h.symm
      simp [byteLength]
  | cons c cs ih =>
    have hpos : 0 < c.utf8Size := Char.utf8Size_pos c
    cases n with
    | zero =>
      simp only [splitBytes, Option.some.injEq, Prod.mk.injEq]
      constructor
      · rintro ⟨rfl, rfl⟩
        exact ⟨rfl, rfl⟩
      · rintro ⟨h, hlen⟩
        -- a part without bytes has no characters
        have hnil : ds = [] := by
          apply eq_nil_of_length_eq_zero
          have hle := length_le_byteLength ds
          omega
        rw [hnil, nil_append] at h
        exact ⟨hnil.symm, h⟩
    | succ n =>
      rw [splitBytes]
      cases ds with
      | nil =>
        have hnot : ¬ byteLength [] = n + 1 := by simp [byteLength]
        simp only [hnot, and_false, iff_false]
        intro h
        split at h
        · obtain ⟨parts, -, ⟨⟩⟩ := Option.map_eq_some_iff.mp h
        · cases h
      | cons d ds =>
        simp only [cons_append, List.cons.injEq, byteLength]
        constructor
        · intro h
          split at h
          · next hle =>
            obtain ⟨⟨ds', es'⟩, hcut, hparts⟩ := Option.map_eq_some_iff.mp h
            simp only [Prod.mk.injEq, List.cons.injEq] at hparts
            obtain ⟨⟨rfl, rfl⟩, rfl⟩ := hparts
            obtain ⟨hcs, hlen⟩ := ih.mp hcut
            exact ⟨⟨rfl, hcs⟩, by omega⟩
          · cases h
        · rintro ⟨⟨rfl, hcs⟩, hlen⟩
          have hcut : splitBytes cs (n + 1 - c.utf8Size) = some (ds, es) :=
            ih.mpr ⟨hcs, by omega⟩
          rw [if_pos (by omega), hcut]
          rfl

/-- **The text behind a cut** is what ends the text and leaves so many bytes in front of it. -/
theorem sliceFrom_eq_some_iff {s t : String} :
    sliceFrom s n = some t ↔ ∃ ds, s.toList = ds ++ t.toList ∧ byteLength ds = n := by
  rw [sliceFrom, Option.map_eq_some_iff]
  constructor
  · rintro ⟨⟨ds, es⟩, hcut, rfl⟩
    rw [String.toList_ofList]
    exact ⟨ds, splitBytes_eq_some_iff.mp hcut⟩
  · rintro ⟨ds, hparts⟩
    exact ⟨(ds, t.toList), splitBytes_eq_some_iff.mpr hparts, String.ofList_toList⟩

/-! ## At the last separator -/

variable {sep : Char} {cs l r : List Char}

/-- **The cut at the last separator** (`str::rsplit_once`). -/
def rsplitOnce (sep : Char) : List Char → Option (List Char × List Char)
  | [] => none
  | c :: cs =>
    match rsplitOnce sep cs with
    | some (l, r) => some (c :: l, r)
    | none => if c = sep then some ([], cs) else none

theorem rsplitOnce_eq_none_iff : rsplitOnce sep cs = none ↔ sep ∉ cs := by
  induction cs with
  | nil => simp [rsplitOnce]
  | cons c cs ih =>
    rw [rsplitOnce]
    cases hcut : rsplitOnce sep cs with
    | some parts =>
      have hmem : sep ∈ cs := by
        by_contra hnot
        simp [ih.mpr hnot] at hcut
      simp [hmem]
    | none =>
      have hnot : sep ∉ cs := ih.mp hcut
      by_cases hc : c = sep
      · simp [hc]
      · simp [hc, hnot, Ne.symm hc]

/-- **The cut at the last separator**: what is right of it has no separator. -/
theorem rsplitOnce_eq_some_iff :
    rsplitOnce sep cs = some (l, r) ↔ cs = l ++ sep :: r ∧ sep ∉ r := by
  induction cs generalizing l with
  | nil => simp [rsplitOnce]
  | cons c cs ih =>
    rw [rsplitOnce]
    cases hcut : rsplitOnce sep cs with
    | none =>
      -- the rest has no separator, so the cut can only be at its left end
      have hnot : sep ∉ cs := rsplitOnce_eq_none_iff.mp hcut
      cases l with
      | nil =>
        by_cases hc : c = sep
        · simp only [hc, if_true, Option.some.injEq, Prod.mk.injEq, true_and,
            nil_append, List.cons.injEq]
          exact ⟨fun h => ⟨h, h ▸ hnot⟩, fun h => h.1⟩
        · simp [hc]
      | cons d l =>
        constructor
        · intro h
          by_cases hc : c = sep <;> simp [hc] at h
        · rintro ⟨h, -⟩
          rw [cons_append, List.cons.injEq] at h
          rw [h.2] at hnot
          simp at hnot
    | some parts =>
      obtain ⟨l', r'⟩ := parts
      cases l with
      | nil =>
        constructor
        · intro h
          simp at h
        · rintro ⟨h, hr⟩
          rw [nil_append, List.cons.injEq] at h
          simp [h.2, rsplitOnce_eq_none_iff.mpr hr] at hcut
      | cons d l =>
        have htail := ih (l := l)
        rw [hcut] at htail
        simp only [Option.some.injEq, Prod.mk.injEq, List.cons.injEq, cons_append]
          at htail ⊢
        tauto

/-! ## At the first separator -/

/-- **The cut at the first separator** (`str::split_once`). -/
def splitOnce (sep : Char) : List Char → Option (List Char × List Char)
  | [] => none
  | c :: cs =>
    if c = sep then some ([], cs)
    else (splitOnce sep cs).map fun parts => (c :: parts.1, parts.2)

theorem splitOnce_eq_none_iff : splitOnce sep cs = none ↔ sep ∉ cs := by
  induction cs with
  | nil => simp [splitOnce]
  | cons c cs ih =>
    rw [splitOnce]
    by_cases hc : c = sep
    · simp [hc]
    · simp [hc, ih, Ne.symm hc]

/-- **The cut at the first separator**: what is left of it has no separator. -/
theorem splitOnce_eq_some_iff : splitOnce sep cs = some (l, r) ↔ cs = l ++ sep :: r ∧ sep ∉ l := by
  induction cs generalizing l with
  | nil => simp [splitOnce]
  | cons c cs ih =>
    rw [splitOnce]
    by_cases hc : c = sep
    · cases l with
      | nil => simp [hc, eq_comm]
      | cons d l =>
        simp only [hc, if_true, Option.some.injEq, Prod.mk.injEq, cons_append,
          List.cons.injEq, mem_cons, not_or]
        constructor
        · rintro ⟨h, -⟩
          cases h
        · rintro ⟨⟨h, -⟩, hne, -⟩
          exact absurd h hne
    · rw [if_neg hc]
      cases l with
      | nil =>
        simp only [nil_append, List.cons.injEq, not_mem_nil, not_false_iff, and_true]
        constructor
        · intro h
          obtain ⟨parts, -, ⟨⟩⟩ := Option.map_eq_some_iff.mp h
        · rintro ⟨h, -⟩
          exact absurd h hc
      | cons d l =>
        have htail := ih (l := l)
        simp only [cons_append, List.cons.injEq, mem_cons, not_or]
        constructor
        · intro h
          obtain ⟨⟨l', r'⟩, hcut, ⟨⟩⟩ := Option.map_eq_some_iff.mp h
          obtain ⟨hcs, hnot⟩ := htail.mp hcut
          exact ⟨⟨rfl, hcs⟩, Ne.symm hc, hnot⟩
        · rintro ⟨⟨hd, hcs⟩, -, hnot⟩
          rw [htail.mpr ⟨hcs, hnot⟩, hd]
          rfl

/-! ## At the end -/

/-- The text in front of a last character (`str::strip_suffix`). -/
def stripSuffix (c : Char) (cs : List Char) : Option (List Char) :=
  if cs.getLast? = some c then some cs.dropLast else none

theorem stripSuffix_eq_some_iff : stripSuffix c cs = some l ↔ cs = l ++ [c] := by
  unfold stripSuffix
  constructor
  · intro h
    split at h
    · next hlast =>
      obtain ⟨front, hfront⟩ := List.getLast?_eq_some_iff.mp hlast
      rw [hfront, dropLast_concat] at h
      rw [hfront, Option.some.inj h]
    · cases h
  · rintro rfl
    rw [if_pos List.getLast?_concat, dropLast_concat]

/-! ## Substrings -/

/-- Whether a text has another one inside (`str::contains`). -/
def hasInfix (pattern : List Char) : List Char → Bool
  | [] => pattern.isEmpty
  | c :: cs => pattern.isPrefixOf (c :: cs) || hasInfix pattern cs

theorem mem_of_hasInfix {pattern : List Char} (h : hasInfix pattern cs) :
    ∀ c ∈ pattern, c ∈ cs := by
  induction cs with
  | nil =>
    rw [hasInfix, List.isEmpty_iff] at h
    simp [h]
  | cons d cs ih =>
    rw [hasInfix, Bool.or_eq_true] at h
    intro c hc
    rcases h with hhere | hlater
    · obtain ⟨rest, hrest⟩ := isPrefixOf_iff_prefix.mp hhere
      rw [← hrest]
      exact mem_append_left rest hc
    · exact mem_cons_of_mem d (ih hlater c hc)

/-! ## Fields -/

theorem mem_intercalate (h : c ∈ [sep].intercalate fields) : c = sep ∨ ∃ f ∈ fields, c ∈ f := by
  induction fields with
  | nil => simp at h
  | cons f fields ih =>
    cases fields with
    | nil =>
      rw [intercalate_singleton] at h
      exact .inr ⟨f, mem_singleton_self f, h⟩
    | cons g fields =>
      rw [intercalate_cons_cons, mem_append, mem_append,
        mem_singleton] at h
      rcases h with (hf | hsep) | hrest
      · exact .inr ⟨f, mem_cons_self, hf⟩
      · exact .inl hsep
      · obtain hsep | ⟨f', hf', hc⟩ := ih hrest
        · exact .inl hsep
        · exact .inr ⟨f', mem_cons_of_mem f hf', hc⟩

theorem splitOn_eq_self (h : sep ∉ cs) : cs.splitOn sep = [cs] := by
  apply splitOnP_eq_singleton
  intro c hc
  rw [beq_eq_false_iff_ne]
  rintro rfl
  exact h hc

/-- **The first field** ends at the first separator. -/
theorem splitOn_append (h : sep ∉ l) : (l ++ sep :: r).splitOn sep = l :: r.splitOn sep := by
  apply splitOnP_append_cons_of_forall_mem
  · intro c hc
    rw [beq_eq_false_iff_ne]
    rintro rfl
    exact h hc
  · exact beq_self_eq_true sep

/-- **One field**: there is no separator. -/
theorem splitOn_eq_singleton_iff : cs.splitOn sep = [l] ↔ cs = l ∧ sep ∉ l := by
  constructor
  · intro h
    cases hcut : splitOnce sep cs with
    | none =>
      have hnot : sep ∉ cs := splitOnce_eq_none_iff.mp hcut
      rw [splitOn_eq_self hnot] at h
      cases h
      exact ⟨rfl, hnot⟩
    | some parts =>
      obtain ⟨hcs, hnot⟩ := splitOnce_eq_some_iff.mp hcut
      rw [hcs, splitOn_append hnot] at h
      exact absurd (List.cons.inj h).2 (splitOnP_ne_nil _ _)
  · rintro ⟨rfl, hnot⟩
    exact splitOn_eq_self hnot

/-- **More than one field**: the first ends at the first separator. -/
theorem splitOn_eq_cons_cons_iff {f : List Char} :
    cs.splitOn sep = l :: f :: fields ↔
      ∃ r, cs = l ++ sep :: r ∧ sep ∉ l ∧ r.splitOn sep = f :: fields := by
  constructor
  · intro h
    cases hcut : splitOnce sep cs with
    | none =>
      simp [splitOn_eq_self (splitOnce_eq_none_iff.mp hcut)] at h
    | some parts =>
      obtain ⟨hcs, hnot⟩ := splitOnce_eq_some_iff.mp hcut
      rw [hcs, splitOn_append hnot] at h
      obtain ⟨hl, hr⟩ := List.cons.inj h
      rw [hl] at hcs hnot
      exact ⟨parts.2, hcs, hnot, hr⟩
  · rintro ⟨r, rfl, hnot, hr⟩
    rw [splitOn_append hnot, hr]

/-- **A character of a text** is a separator or lies in one of the fields. -/
theorem mem_splitOn (h : c ∈ cs) : c = sep ∨ ∃ f ∈ cs.splitOn sep, c ∈ f := by
  have hjoin : [sep].intercalate (cs.splitOn sep) = cs := intercalate_splitOn sep
  rw [← hjoin] at h
  exact mem_intercalate h

theorem notMem_of_mem_splitOn {f : List Char} (h : f ∈ cs.splitOn sep) : sep ∉ f := by
  generalize hfields : cs.splitOn sep = fields at h
  induction fields generalizing cs with
  | nil => cases h
  | cons l fields ih =>
    cases fields with
    | nil =>
      obtain ⟨-, hnot⟩ := splitOn_eq_singleton_iff.mp hfields
      rwa [mem_singleton.mp h]
    | cons g fields =>
      obtain ⟨r, -, hnot, hr⟩ := splitOn_eq_cons_cons_iff.mp hfields
      rcases mem_cons.mp h with rfl | h
      · exact hnot
      · exact ih hr h

/-! ## Joined texts -/

theorem splitOn_join (hglue : glue.toList = [sep]) (hsep : ∀ t ∈ texts, sep ∉ t.toList)
    (hne : texts ≠ []) :
    (glue.intercalate texts).toList.splitOn sep = texts.map String.toList := by
  rw [String.toList_intercalate, hglue]
  refine splitOn_intercalate sep (fun l hl => ?_) (by simpa using hne)
  obtain ⟨t, ht, rfl⟩ := mem_map.mp hl
  exact hsep t ht

theorem join_ne_empty (hglue : glue.toList = [sep]) (hsep : ∀ t ∈ texts, sep ∉ t.toList)
    (hempty : "" ∉ texts) (hne : texts ≠ []) :
    glue.intercalate texts ≠ "" := by
  intro h
  have hfields := splitOn_join hglue hsep hne
  rw [h, String.toList_empty, splitOn_nil] at hfields
  obtain ⟨t, ht, htext⟩ := mem_map.mp (hfields ▸ mem_singleton_self _)
  obtain rfl : t = "" := String.toList_inj.mp htext
  exact hempty ht

/-- **What is joined can be read back**: no two lists of texts that are not empty and have no
separator in them are joined to the same text. -/
theorem eq_of_join_eq {texts' : List String} (hglue : glue.toList = [sep])
    (hsep : ∀ t ∈ texts, sep ∉ t.toList) (hsep' : ∀ t ∈ texts', sep ∉ t.toList)
    (hempty : "" ∉ texts) (hempty' : "" ∉ texts')
    (h : glue.intercalate texts = glue.intercalate texts') : texts = texts' := by
  by_cases hne : texts = []
  · by_cases hne' : texts' = []
    · rw [hne, hne']
    · rw [hne, String.intercalate_nil] at h
      exact absurd h.symm (join_ne_empty hglue hsep' hempty' hne')
  · by_cases hne' : texts' = []
    · rw [hne', String.intercalate_nil] at h
      exact absurd h (join_ne_empty hglue hsep hempty hne)
    · have hfields := splitOn_join hglue hsep hne
      rw [h, splitOn_join hglue hsep' hne'] at hfields
      exact ((map_inj_right fun _ _ => String.toList_inj.mp).mp hfields).symm

end LivekitVoice.Text
