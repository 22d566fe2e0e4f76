import Mathlib.Data.List.Basic
import Mathlib.Data.Option.Basic

/-! # Secrets in records and their redaction

A type whose values carry secrets: the list of them, and the values with every secret rewritten by a
function. One secret stands for "not given", and two values *differ only in secrets that are given*
if they become equal once each of those is replaced by a star (`mask`). A redaction is judged by the
secrets it leaves in place: rewriting the secrets of a value changes its redaction exactly if it
changes one of those.

* **`FallibleRedacts`** — redaction part by part: of a list, an option, a pair, a field,
* **`FallibleRedacts.noninterfering_iff`** — which values have a redaction that shows no secret. -/

namespace LivekitVoice.InfoFlow

open List

/-- **A type whose values carry secrets.** -/
class Secrets (σ : outParam Type) (X : Type) where
  /-- The value with every secret rewritten. -/
  mapSecrets : (σ → σ) → X → X
  /-- The secrets. -/
  secrets : X → List σ
  secrets_mapSecrets : ∀ f x, secrets (mapSecrets f x) = (secrets x).map f
  mapSecrets_mapSecrets : ∀ f g x, mapSecrets g (mapSecrets f x) = mapSecrets (fun c => g (f c)) x
  mapSecrets_eq_self_iff : ∀ f x, mapSecrets f x = x ↔ ∀ c ∈ secrets x, f c = c

export Secrets (mapSecrets secrets secrets_mapSecrets mapSecrets_mapSecrets mapSecrets_eq_self_iff)

variable {σ X Y : Type} [Secrets σ X]

/-! ## Lists, options and pairs -/

theorem map_eq_self_iff {g : X → X} {xs : List X} : xs.map g = xs ↔ ∀ x ∈ xs, g x = x := by
  conv_lhs => rhs; rw [← map_id xs]
  rw [map_inj_left]
  rfl

instance : Secrets σ (List X) where
  mapSecrets f := List.map (mapSecrets f)
  secrets xs := xs.flatMap secrets
  secrets_mapSecrets f xs := by
    simp only [flatMap_map, map_flatMap, secrets_mapSecrets]
  mapSecrets_mapSecrets f g xs := by
    rw [map_map]
    exact map_congr_left fun x _ => mapSecrets_mapSecrets f g x
  mapSecrets_eq_self_iff f xs := by
    rw [map_eq_self_iff]
    simp only [mapSecrets_eq_self_iff, mem_flatMap]
    exact ⟨fun h c ⟨x, hx, hc⟩ => h x hx c hc, fun h x hx c hc => h c ⟨x, hx, hc⟩⟩

instance : Secrets σ (Option X) where
  mapSecrets f := Option.map (mapSecrets f)
  secrets o := o.toList.flatMap secrets
  secrets_mapSecrets f o := by
    cases o with
    | none => rfl
    | some x => simp [secrets_mapSecrets]
  mapSecrets_mapSecrets f g o := by
    cases o with
    | none => rfl
    | some x => exact congrArg some (mapSecrets_mapSecrets f g x)
  mapSecrets_eq_self_iff f o := by
    cases o with
    | none => simp
    | some x => simp [mapSecrets_eq_self_iff]

instance {Y : Type} [Secrets σ Y] : Secrets σ (X × Y) where
  mapSecrets f p := (mapSecrets f p.1, mapSecrets f p.2)
  secrets p := secrets p.1 ++ secrets p.2
  secrets_mapSecrets f p := by
    rw [map_append, secrets_mapSecrets, secrets_mapSecrets]
  mapSecrets_mapSecrets f g p := by
    rw [mapSecrets_mapSecrets, mapSecrets_mapSecrets]
  mapSecrets_eq_self_iff f p := by
    rw [Prod.ext_iff, mapSecrets_eq_self_iff, mapSecrets_eq_self_iff]
    simp only [mem_append, or_imp, forall_and]

theorem mapSecrets_list (f : σ → σ) (xs : List X) : mapSecrets f xs = xs.map (mapSecrets f) := rfl

theorem mapSecrets_option (f : σ → σ) (o : Option X) : mapSecrets f o = o.map (mapSecrets f) := rfl

/-! ## Parts of a record -/

/-- **A part of a record**, which can be read and replaced. -/
structure Part (X Y : Type) where
  get : X → Y
  set : X → Y → X
  get_set : ∀ x y, get (set x y) = y := by intros; rfl
  set_set : ∀ x y z, set (set x y) z = set x z := by intros; rfl
  set_get : ∀ x, set x (get x) = x := by intros; rfl

theorem Part.set_injective {W : Type} (part : Part W X) (w : W) :
    Function.Injective (part.set w) := by
  intro x y h
  rw [← part.get_set w x, h, part.get_set]

/-- **A record whose secrets are all in one part of it.** -/
@[reducible]
def Secrets.ofPart {W : Type} (part : Part W X) : Secrets σ W where
  mapSecrets f w := part.set w (mapSecrets f (part.get w))
  secrets w := secrets (part.get w)
  secrets_mapSecrets f w := by rw [part.get_set, secrets_mapSecrets]
  mapSecrets_mapSecrets f g w := by rw [part.get_set, part.set_set, mapSecrets_mapSecrets]
  mapSecrets_eq_self_iff f w := by
    rw [← mapSecrets_eq_self_iff]
    constructor
    · intro h
      have hget := congrArg part.get h
      rwa [part.get_set] at hget
    · intro h
      rw [h, part.set_get]

/-! ## Redaction -/

/-- **A rewriting that keeps what is given**: no secret is dropped and none is made up. -/
def KeepsPresence (absent : σ) (f : σ → σ) : Prop := ∀ c, f c = absent ↔ c = absent

/-- **What a redaction leaves in place**: rewriting the secrets changes the redaction exactly if it
changes an exposed one. The redaction may fail, by parts of a value that are no secrets. -/
structure FallibleRedacts (absent : σ) (redact : X → Option Y) (exposed : X → List σ) : Prop where
  exposed_mapSecrets : ∀ f x, exposed (mapSecrets f x) = (exposed x).map f
  eq_none_iff : ∀ f x, redact (mapSecrets f x) = none ↔ redact x = none
  redact_eq_iff : ∀ f, KeepsPresence absent f → ∀ x,
    redact (mapSecrets f x) = redact x ↔ redact x = none ∨ ∀ c ∈ exposed x, f c = c

/-- A redaction that cannot fail. -/
abbrev Redacts (absent : σ) (redact : X → Y) : (X → List σ) → Prop :=
  FallibleRedacts absent fun x => some (redact x)

/-- Two options, both there or not at all. -/
def both {A B : Type} (a : Option A) (b : Option B) : Option (A × B) :=
  a.bind fun y => b.map fun z => (y, z)

@[simp]
theorem both_some_left {A B : Type} (y : A) (b : Option B) :
    both (some y) b = b.map fun z => (y, z) := rfl

@[simp]
theorem both_some_right {A B : Type} (a : Option A) (z : B) :
    both a (some z) = a.map fun y => (y, z) := by
  cases a <;> rfl

theorem both_eq_none_iff {A B : Type} {a : Option A} {b : Option B} :
    both a b = none ↔ a = none ∨ b = none := by
  cases a <;> cases b <;> simp [both]

theorem both_eq_iff {A B : Type} {a a' : Option A} {b b' : Option B}
    (ha : a' = none ↔ a = none) (hb : b' = none ↔ b = none) :
    both a' b' = both a b ↔ (a = none ∨ b = none) ∨ a' = a ∧ b' = b := by
  cases a <;> cases b <;> cases a' <;> cases b' <;> simp_all [both]

theorem either_fails_or_iff {A B P Q : Prop} : (A ∨ B) ∨ (A ∨ P) ∧ (B ∨ Q) ↔ (A ∨ B) ∨ P ∧ Q := by
  by_cases hA : A
  · simp [hA]
  · by_cases hB : B
    · simp [hB]
    · simp [hA, hB]

variable {absent : σ} {exposed : X → List σ}

theorem redacts_of_iff {redact : X → Y}
    (hexposed : ∀ f x, exposed (mapSecrets f x) = (exposed x).map f)
    (h : ∀ f, KeepsPresence absent f → ∀ x,
      redact (mapSecrets f x) = redact x ↔ ∀ c ∈ exposed x, f c = c) :
    Redacts absent redact exposed where
  exposed_mapSecrets := hexposed
  eq_none_iff f x := by simp
  redact_eq_iff f hf x := by
    rw [Option.some_inj, h f hf]
    simp

theorem redacts_id : Redacts absent (fun x : X => x) secrets :=
  redacts_of_iff secrets_mapSecrets fun f _ => mapSecrets_eq_self_iff f

namespace FallibleRedacts

variable {redact : X → Option Y}

theorem congr {redact' : X → Option Y} {exposed' : X → List σ}
    (h : FallibleRedacts absent redact exposed) (hredact : ∀ x, redact' x = redact x)
    (hexposed : ∀ x, exposed' x = exposed x) : FallibleRedacts absent redact' exposed' := by
  rw [funext hredact, funext hexposed]
  exact h

theorem map {Z : Type} {g : Y → Z} (hg : Function.Injective g)
    (h : FallibleRedacts absent redact exposed) :
    FallibleRedacts absent (fun x => (redact x).map g) exposed where
  exposed_mapSecrets := h.exposed_mapSecrets
  eq_none_iff f x := by
    rw [Option.map_eq_none_iff, Option.map_eq_none_iff, h.eq_none_iff]
  redact_eq_iff f hf x := by
    rw [Option.map_eq_none_iff, ← h.redact_eq_iff f hf]
    exact (Option.map_injective hg).eq_iff

theorem ofPublic (h : ∀ f (x : X), mapSecrets f x = x) :
    FallibleRedacts absent redact fun _ => [] where
  exposed_mapSecrets f x := rfl
  eq_none_iff f x := by rw [h]
  redact_eq_iff f _ x := by simp [h]

/-- **Redaction of two parts**, one after the other. -/
theorem prod {X' Y' : Type} [Secrets σ X'] {redact' : X' → Option Y'} {exposed' : X' → List σ}
    (h : FallibleRedacts absent redact exposed) (h' : FallibleRedacts absent redact' exposed') :
    FallibleRedacts absent (fun p : X × X' => both (redact p.1) (redact' p.2))
      fun p => exposed p.1 ++ exposed' p.2 where
  exposed_mapSecrets f p := by
    rw [map_append, ← h.exposed_mapSecrets, ← h'.exposed_mapSecrets]
    rfl
  eq_none_iff f p := by
    rw [both_eq_none_iff, both_eq_none_iff]
    exact or_congr (h.eq_none_iff f p.1) (h'.eq_none_iff f p.2)
  redact_eq_iff f hf p := by
    refine (both_eq_iff (h.eq_none_iff f p.1) (h'.eq_none_iff f p.2)).trans ?_
    rw [both_eq_none_iff]
    have hfst := h.redact_eq_iff f hf p.1
    have hsnd := h'.redact_eq_iff f hf p.2
    simp only [mem_append, or_imp, forall_and, hfst, hsnd]
    exact either_fails_or_iff

/-- **Redaction of the part that holds the secrets.** -/
theorem part {W : Type} (part : Part W X) {redact : X → Option X}
    (h : FallibleRedacts absent redact exposed) :
    letI : Secrets σ W := .ofPart part
    FallibleRedacts absent (fun w => (redact (part.get w)).map (part.set w))
      fun w => exposed (part.get w) :=
  letI : Secrets σ W := .ofPart part
  { exposed_mapSecrets := fun f w => by
      show exposed (part.get (part.set w (mapSecrets f (part.get w)))) = _
      rw [part.get_set, h.exposed_mapSecrets]
    eq_none_iff := fun f w => by
      show (redact (part.get (part.set w (mapSecrets f (part.get w))))).map _ = none ↔ _
      rw [part.get_set, Option.map_eq_none_iff, Option.map_eq_none_iff, h.eq_none_iff]
    redact_eq_iff := fun f hf w => by
      have hput : part.set (part.set w (mapSecrets f (part.get w))) = part.set w :=
        funext fun x => part.set_set w _ x
      show (redact (part.get (part.set w (mapSecrets f (part.get w))))).map
        (part.set (part.set w (mapSecrets f (part.get w)))) = _ ↔ _
      rw [part.get_set, hput, Option.map_eq_none_iff, ← h.redact_eq_iff f hf]
      exact (Option.map_injective (part.set_injective w)).eq_iff }

/-- **Redaction of what may be there.** -/
theorem option (h : FallibleRedacts absent redact exposed) :
    FallibleRedacts absent (Option.mapM redact) fun o => o.toList.flatMap exposed where
  exposed_mapSecrets f o := by
    cases o with
    | none => rfl
    | some x => simp [mapSecrets_option, h.exposed_mapSecrets]
  eq_none_iff f o := by
    cases o with
    | none => rfl
    | some x => exact (h.map (Option.some_injective Y)).eq_none_iff f x
  redact_eq_iff f hf o := by
    cases o with
    | none => simp [mapSecrets_option]
    | some x =>
      have hx := (h.map (Option.some_injective Y)).redact_eq_iff f hf x
      simpa [mapSecrets_option] using hx

theorem mapM_cons_eq (redact : X → Option Y) (x : X) (xs : List X) :
    (x :: xs).mapM redact =
      (both (redact x) (xs.mapM redact)).map fun parts => parts.1 :: parts.2 := by
  rw [mapM_cons]
  cases redact x <;> cases xs.mapM redact <;> rfl

theorem mapM_eq_none_iff {redact : X → Option Y} {xs : List X} :
    xs.mapM redact = none ↔ ∃ x ∈ xs, redact x = none := by
  induction xs with
  | nil => simp
  | cons x xs ih =>
    rw [mapM_cons_eq, Option.map_eq_none_iff, both_eq_none_iff, ih]
    simp

theorem mapM_map_eq_none_iff (h : FallibleRedacts absent redact exposed) (f : σ → σ)
    (xs : List X) : (xs.map (mapSecrets f)).mapM redact = none ↔ xs.mapM redact = none := by
  induction xs with
  | nil => rfl
  | cons x xs ih =>
    rw [map_cons, mapM_cons_eq, mapM_cons_eq, Option.map_eq_none_iff,
      Option.map_eq_none_iff, both_eq_none_iff, both_eq_none_iff, h.eq_none_iff, ih]

/-- **Every element redacted**, unless one of them fails. -/
theorem mapM (h : FallibleRedacts absent redact exposed) :
    FallibleRedacts absent (List.mapM redact) fun xs => xs.flatMap exposed where
  exposed_mapSecrets f xs := by
    simp [mapSecrets_list, flatMap_map, map_flatMap, h.exposed_mapSecrets]
  eq_none_iff := h.mapM_map_eq_none_iff
  redact_eq_iff f hf xs := by
    rw [mapSecrets_list]
    induction xs with
    | nil => simp
    | cons x xs ih =>
      have hnone := h.mapM_map_eq_none_iff f xs
      rw [map_cons, mapM_cons_eq, mapM_cons_eq,
        (Option.map_injective fun _ _ h => Prod.ext (List.cons.inj h).1 (List.cons.inj h).2).eq_iff,
        both_eq_iff (h.eq_none_iff f x) hnone, h.redact_eq_iff f hf, ih, Option.map_eq_none_iff,
        both_eq_none_iff]
      simp only [flatMap_cons, mem_append, or_imp, forall_and]
      exact either_fails_or_iff

end FallibleRedacts

namespace Redacts

theorem list {redact : X → Y} (h : Redacts absent redact exposed) :
    Redacts absent (List.map redact) fun xs => xs.flatMap exposed :=
  (FallibleRedacts.mapM h).congr (fun _ => (mapM_pure (m := Option)).symm) fun _ => rfl

theorem option {redact : X → Y} (h : Redacts absent redact exposed) :
    Redacts absent (Option.map redact) fun o => o.toList.flatMap exposed :=
  (FallibleRedacts.option h).congr (fun o => by cases o <;> rfl) fun _ => rfl

end Redacts

/-! ## Two values that differ in their secrets -/

section Mask

variable [DecidableEq σ]

/-- A secret that is given, rewritten. -/
def onGiven (absent : σ) (f : σ → σ) (c : σ) : σ := if c = absent then absent else f c

/-- **The value without its secrets**: each one that is given is a star. -/
def mask (absent star : σ) (x : X) : X := mapSecrets (onGiven absent fun _ => star) x

theorem keepsPresence_onGiven {f : σ → σ} (hf : ∀ c, c ≠ absent → f c ≠ absent) :
    KeepsPresence absent (onGiven absent f) := by
  intro c
  rw [onGiven]
  by_cases hc : c = absent
  · simp [hc]
  · simp [hc, hf c hc]

variable {redact : X → Option Y}

theorem FallibleRedacts.exposed_absent_of_mask (h : FallibleRedacts absent redact exposed)
    {star : σ} (hstar : star ≠ absent) {x y : X} (hmask : mask absent star y = mask absent star x)
    (hx : ∀ c ∈ exposed x, c = absent) : ∀ c ∈ exposed y, c = absent := by
  have hsame : (exposed y).map (onGiven absent fun _ => star) =
      (exposed x).map (onGiven absent fun _ => star) := by
    rw [← h.exposed_mapSecrets, ← h.exposed_mapSecrets]
    exact congrArg exposed hmask
  intro c hc
  by_contra hgiven
  have hin : star ∈ (exposed y).map (onGiven absent fun _ => star) :=
    mem_map.mpr ⟨c, hc, if_neg hgiven⟩
  rw [hsame] at hin
  obtain ⟨d, hd, hstar'⟩ := mem_map.mp hin
  rw [onGiven, if_pos (hx d hd)] at hstar'
  exact hstar hstar'.symm

/-- **When a redaction shows nothing of the secrets**: all values that differ from this one only in
secrets that are given have the same redaction, exactly if it fails or every exposed secret is
absent. `move` is any way to change a secret into another one. -/
theorem FallibleRedacts.noninterfering_iff (h : FallibleRedacts absent redact exposed)
    {star : σ} (hstar : star ≠ absent) {move : σ → σ}
    (hmove : ∀ c, c ≠ absent → move c ≠ absent ∧ move c ≠ c) (x : X) :
    (∀ y, mask absent star y = mask absent star x → redact y = redact x) ↔
      redact x = none ∨ ∀ c ∈ exposed x, c = absent := by
  constructor
  · intro hsame
    have hf : ∀ c, c ≠ absent → move c ≠ absent := fun c hc => (hmove c hc).1
    -- what is moved is not seen behind the mask
    have hmask : (fun c => onGiven absent (fun _ => star) (onGiven absent move c)) =
        onGiven absent fun _ => star := by
      funext c
      by_cases hc : c = absent
      · simp [onGiven, hc]
      · simp [onGiven, hc, hf c hc]
    have hmoved := hsame (mapSecrets (onGiven absent move) x) (by
      rw [mask, mapSecrets_mapSecrets, hmask]
      rfl)
    refine ((h.redact_eq_iff _ (keepsPresence_onGiven hf) x).mp hmoved).imp_right ?_
    intro hfixed c hc
    by_contra hgiven
    have hc' := hfixed c hc
    rw [onGiven, if_neg hgiven] at hc'
    exact (hmove c hgiven).2 hc'
  · -- both values have the redaction of their common mask
    have hofmask : ∀ z, (redact z = none ∨ ∀ c ∈ exposed z, c = absent) →
        redact (mask absent star z) = redact z := by
      intro z hz
      refine (h.redact_eq_iff _ (keepsPresence_onGiven fun _ _ => hstar) z).mpr
        (hz.imp_right ?_)
      intro habsent c hc
      rw [onGiven, if_pos (habsent c hc), habsent c hc]
    intro hx y hmask
    have hy : redact y = none ∨ ∀ c ∈ exposed y, c = absent := by
      refine hx.imp ?_ (h.exposed_absent_of_mask hstar hmask)
      intro hnone
      have hmasked : redact (mask absent star y) = none := by
        rw [hmask]
        exact (h.eq_none_iff _ x).mpr hnone
      exact (h.eq_none_iff _ y).mp hmasked
    rw [← hofmask y hy, hmask, hofmask x hx]

end Mask

end LivekitVoice.InfoFlow
