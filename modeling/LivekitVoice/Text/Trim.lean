import Mathlib.Data.List.DropRight

/-! # White space, lines and leading matches

`str::trim`, `str::trim_start_matches`, `str::split_whitespace` and `str::lines`, on the characters
of a text; white space is Unicode's `White_Space`.

* **`trim_eq_self`**, **`length_trim_lt`** — a text is trimmed to itself, or to a shorter one. -/

namespace LivekitVoice.Text

/-- `char::is_whitespace`. -/
def isWhitespace (c : Char) : Bool :=
  (9 ≤ c.toNat && c.toNat ≤ 13) || (0x2000 ≤ c.toNat && c.toNat ≤ 0x200A) ||
    c.toNat ∈ [0x20, 0x85, 0xA0, 0x1680, 0x2028, 0x2029, 0x202F, 0x205F, 0x3000]

/-- `str::trim`. -/
def trim (cs : List Char) : List Char := (cs.dropWhile isWhitespace).rdropWhile isWhitespace

/-- The matches that are taken off the front; `fuel` bounds how many. -/
def trimMatches (pattern : List Char) : Nat → List Char → List Char
  | 0, cs => cs
  | fuel + 1, cs =>
    match cs.dropPrefix? pattern with
    | none => cs
    | some rest => trimMatches pattern fuel rest

/-- `str::trim_start_matches`, of a pattern with characters: a text has no more matches than
characters. -/
def trimStartMatches (pattern cs : List Char) : List Char := trimMatches pattern cs.length cs

/-- `str::split_whitespace`. -/
def splitWhitespace (cs : List Char) : List (List Char) :=
  (cs.splitOnP isWhitespace).filter (· ≠ [])

/-- `str::lines`: a line ends in a line feed, which may have a carriage return before it; what is
left after the last line feed is a line as it stands, if it is not empty. -/
def lines (cs : List Char) : List (List Char) :=
  let pieces := cs.splitOn '\n'
  (pieces.dropLast.map fun line => if line.getLast? = some '\r' then line.dropLast else line) ++
    (pieces.getLast?.filter (· ≠ [])).toList

variable {cs pattern rest : List Char}

theorem dropPrefix_eq_some_iff : cs.dropPrefix? pattern = some rest ↔ cs = pattern ++ rest := by
  simp [List.dropPrefix?_eq_some_iff]

theorem length_trim_le (cs : List Char) : (trim cs).length ≤ cs.length :=
  (List.rdropWhile_prefix _ _).length_le.trans (List.dropWhile_suffix _).length_le

theorem trim_eq_self (hhead : ∀ c ∈ cs.head?, isWhitespace c = false)
    (hlast : ∀ c ∈ cs.getLast?, isWhitespace c = false) : trim cs = cs := by
  cases cs with
  | nil => rfl
  | cons c cs =>
    rw [trim, List.dropWhile_cons_of_neg (by simp [hhead c rfl]), List.rdropWhile_eq_self_iff]
    intro hne
    simp [hlast _ (List.getLast?_eq_getLast_of_ne_nil hne)]

theorem length_trim_lt {c : Char} (hc : isWhitespace c) :
    (trim (c :: cs)).length < (c :: cs).length := by
  have hdrop : trim (c :: cs) = trim cs := by rw [trim, List.dropWhile_cons_of_pos hc, trim]
  rw [hdrop, List.length_cons]
  exact Nat.lt_succ_of_le (length_trim_le cs)

theorem getLast_trim (cs : List Char) : ∀ c ∈ (trim cs).getLast?, isWhitespace c = false := by
  intro c hc
  obtain ⟨hne, rfl⟩ := List.mem_getLast?_eq_getLast hc
  have hlast := List.rdropWhile_last_not isWhitespace _ hne
  exact Bool.not_eq_true _ ▸ hlast

theorem length_trimMatches_le (fuel : Nat) (cs : List Char) :
    (trimMatches pattern fuel cs).length ≤ cs.length := by
  induction fuel generalizing cs with
  | zero => exact Nat.le_refl _
  | succ fuel ih =>
    unfold trimMatches
    split
    · exact Nat.le_refl _
    · next rest hrest =>
      rw [dropPrefix_eq_some_iff.mp hrest, List.length_append]
      exact (ih rest).trans (Nat.le_add_left _ _)

theorem trimMatches_of_none (h : cs.dropPrefix? pattern = none) (fuel : Nat) :
    trimMatches pattern fuel cs = cs := by
  cases fuel <;> simp [trimMatches, h]

end LivekitVoice.Text
