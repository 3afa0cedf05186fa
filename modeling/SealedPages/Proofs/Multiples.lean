/-
  SealedPages.Proofs.Multiples
  ────────────────────────────
  **THE LEAST WHOLE NUMBER OF PAGES.**  The rounding is a mask, a difference, a remainder
  and a sum on 64-bit words.  What it finds is said here without them: among the multiples
  of the page size that hold a length there is a least one, and the rounding gives it,
  where it fits into 64 bits.  No step on the way there leaves the 64 bits.

  Main statements, for a page size that is a power of two:
    * `roundUp_eq_some_iff` — what the rounding gives is the least of them;
    * `roundUp_eq_none_iff` — it gives nothing where none of them fits;
    * `rounding_within_words` — every step of the rounding, as a number;
    * `rounding_exact` — all of this, and what follows from it for two lengths.
-/
import SealedPages.Rounding
import Mathlib.Algebra.Group.Nat.Defs
import Mathlib.Order.Bounds.Basic
import Mathlib.Order.WithBot

namespace SealedPages

/-- The whole numbers of pages, in bytes, that hold `len` bytes. -/
def wholePages (len page : Nat) : Set Nat :=
  {n | page ∣ n ∧ len ≤ n}

/-- **The padding completes the least of them.** -/
theorem isLeast_add_padding (len : Nat) {page : Nat} (h : 0 < page) :
    IsLeast (wholePages len page) (len + padding len page) := by
  refine ⟨⟨dvd_add_padding len h, Nat.le_add_right _ _⟩, ?_⟩
  rintro n ⟨hdvd, hle⟩
  by_contra hlt
  -- two multiples of the page size do not differ by less than a page
  have hgap : page ∣ len + padding len page - n := Nat.dvd_sub (dvd_add_padding len h) hdvd
  have hless : len + padding len page - n < page := by
    have hpad : padding len page < page := padding_lt h
    omega
  have hzero : len + padding len page - n = 0 := Nat.eq_zero_of_dvd_of_lt hgap hless
  omega

variable {len page L : UInt64}

/-! ## §1. What the rounding gives. -/

/-- **What the rounding gives is the least whole number of pages.** -/
theorem roundUp_eq_some_iff (h : isPowerOfTwo page = true) :
    roundUp len page = .ok (some L) ↔ IsLeast (wholePages len.toNat page.toNat) L.toNat := by
  have hleast := isLeast_add_padding len.toNat (pos_of_isPowerOfTwo h)
  obtain ⟨pad, hpad, hround⟩ := @roundUp_of_isPowerOfTwo len page h
  rw [hround, Except.ok.injEq, checkedAdd?_eq_some_iff, hpad]
  constructor
  · intro hsum
    exact hsum ▸ hleast
  · intro hL
    exact hleast.unique hL

/-- **It gives nothing where none fits into 64 bits.** -/
theorem roundUp_eq_none_iff (h : isPowerOfTwo page = true) :
    roundUp len page = .ok none ↔ ∀ n ∈ wholePages len.toNat page.toNat, UInt64.size ≤ n := by
  have hleast := isLeast_add_padding len.toNat (pos_of_isPowerOfTwo h)
  obtain ⟨pad, hpad, hround⟩ := @roundUp_of_isPowerOfTwo len page h
  rw [hround, Except.ok.injEq, checkedAdd?_eq_none_iff, hpad]
  constructor
  · intro hsize n hn
    exact Nat.le_trans hsize (hleast.2 hn)
  · intro hnone
    exact hnone _ hleast.1

/-! ## §2. Every step of it, as a number. -/

/-- **The rounding of a length, step by step**: the steps give `mask`, `gap` and `pad`, and as
numbers these are what the arithmetic on numbers gives.  Nothing wraps around. -/
structure RoundingSteps (len page mask gap pad : UInt64) : Prop where
  mask_ok : checkedSub page 1 = .ok mask
  gap_ok : checkedSub page (len &&& mask) = .ok gap
  pad_ok : checkedRem gap page = .ok pad
  mask_eq : mask.toNat = page.toNat - 1
  masked_eq : (len &&& mask).toNat = len.toNat % page.toNat
  gap_eq : gap.toNat = page.toNat - len.toNat % page.toNat
  pad_eq : pad.toNat = (page.toNat - len.toNat % page.toNat) % page.toNat

/-- **No step of the rounding leaves the 64 bits**; only its last sum may have no value. -/
theorem rounding_within_words (len : UInt64) (h : isPowerOfTwo page = true) :
    ∃ mask gap pad, RoundingSteps len page mask gap pad ∧
      roundUp len page = .ok (checkedAdd? len pad) := by
  have hp := pos_of_isPowerOfTwo h
  have hone : (1 : UInt64) ≤ page := UInt64.le_iff_toNat_le.2 hp
  have hmask : len &&& (page - 1) = len % page := mask_eq_mod h
  have hle : len % page ≤ page := by
    rw [UInt64.le_iff_toNat_le, UInt64.toNat_mod]
    exact Nat.le_of_lt (Nat.mod_lt _ hp)
  have hgap : (page - len % page).toNat = page.toNat - len.toNat % page.toNat := by
    rw [UInt64.toNat_sub_of_le _ _ hle, UInt64.toNat_mod]
  have hsteps :
      RoundingSteps len page (page - 1) (page - len % page) ((page - len % page) % page) :=
    { mask_ok := checkedSub_of_le hone
      gap_ok := by rw [hmask, checkedSub_of_le hle]
      pad_ok := checkedRem_of_ne_zero (ne_zero_of_isPowerOfTwo h)
      mask_eq := UInt64.toNat_sub_of_le _ _ hone
      masked_eq := by rw [hmask, UInt64.toNat_mod]
      gap_eq := hgap
      pad_eq := by rw [UInt64.toNat_mod, hgap] }
  obtain ⟨pad, hpad, hround⟩ := @roundUp_of_isPowerOfTwo len page h
  have hsame : pad = (page - len % page) % page :=
    UInt64.toNat_inj.1 (hpad.trans hsteps.pad_eq.symm)
  exact ⟨_, _, _, hsteps, hsame ▸ hround⟩

/-! ## §3. Two lengths. -/

/-- A whole number of pages is the least one that holds itself. -/
theorem isLeast_wholePages_self {n page : Nat} (h : page ∣ n) : IsLeast (wholePages n page) n :=
  ⟨⟨h, Nat.le_refl n⟩, fun _ hm => hm.2⟩

/-- A length that is longer is held by fewer whole numbers of pages. -/
theorem wholePages_anti {a b : Nat} (page : Nat) (h : a ≤ b) :
    wholePages b page ⊆ wholePages a page :=
  fun _ hn => ⟨hn.1, Nat.le_trans h hn.2⟩

/-- A least number that fits into 64 bits is what the rounding gives. -/
theorem roundUp_of_isLeast (h : isPowerOfTwo page = true) {n : Nat}
    (hn : IsLeast (wholePages len.toNat page.toNat) n) :
    roundUp len page = .ok (if n < UInt64.size then some n.toUInt64 else none) := by
  split
  · rename_i hfits
    rw [roundUp_eq_some_iff h]
    have hword : n.toUInt64.toNat = n := UInt64.toNat_ofNat_of_lt' hfits
    rwa [hword]
  · rename_i hlarge
    rw [roundUp_eq_none_iff h]
    exact fun m hm => Nat.le_trans (Nat.le_of_not_lt hlarge) (hn.2 hm)

/-- **Rounding twice is rounding once.** -/
theorem roundUp_idem (h : isPowerOfTwo page = true) (hL : roundUp len page = .ok (some L)) :
    roundUp L page = .ok (some L) := by
  have hleast := (roundUp_eq_some_iff h).1 hL
  exact (roundUp_eq_some_iff h).2 (isLeast_wholePages_self hleast.1.1)

/-- The length that the rounding gives, as a number; the top where it gives none. -/
def roundedLength (page len : UInt64) : WithTop Nat :=
  match roundUp len page with
  | .ok (some L) => WithTop.some L.toNat
  | _ => ⊤

theorem roundedLength_of_some (h : roundUp len page = .ok (some L)) :
    roundedLength page len = WithTop.some L.toNat := by
  rw [roundedLength, h]

theorem roundedLength_of_none (h : roundUp len page = .ok none) : roundedLength page len = ⊤ := by
  rw [roundedLength, h]

/-- **A longer length is not rounded to less.** -/
theorem roundedLength_mono (h : isPowerOfTwo page = true) {a b : UInt64} (hab : a ≤ b) :
    roundedLength page a ≤ roundedLength page b := by
  have hsub : wholePages b.toNat page.toNat ⊆ wholePages a.toNat page.toNat :=
    wholePages_anti _ (UInt64.le_iff_toNat_le.1 hab)
  obtain ⟨pad, _, hround⟩ := @roundUp_of_isPowerOfTwo b page h
  cases hB : checkedAdd? b pad with
  | none =>
      have hb : roundUp b page = .ok none := hB ▸ hround
      rw [roundedLength_of_none hb]
      exact le_top
  | some B =>
      have hb : roundUp b page = .ok (some B) := hB ▸ hround
      have hBleast := (roundUp_eq_some_iff h).1 hb
      -- the least number for `a` is not above that for `b`, so it fits as well
      obtain ⟨n, hn⟩ : ∃ n, IsLeast (wholePages a.toNat page.toNat) n :=
        ⟨_, isLeast_add_padding a.toNat (pos_of_isPowerOfTwo h)⟩
      have hle : n ≤ B.toNat := hn.2 (hsub hBleast.1)
      have hfits : n < UInt64.size := Nat.lt_of_le_of_lt hle B.toNat_lt
      have ha := roundUp_of_isLeast h hn
      rw [if_pos hfits] at ha
      rw [roundedLength_of_some ha, roundedLength_of_some hb, UInt64.toNat_ofNat_of_lt' hfits]
      exact WithTop.coe_le_coe.2 hle

/-- **The rounding is exact**, for a page size that is a power of two.  It gives the least whole
number of pages that holds the length, where that is below 2^64, and nothing elsewhere; and on
the way no difference, remainder or mask wraps around or traps.  So it rounds what it gives to
itself, keeps the order of lengths, leaves zero as it is, and adds less than a page. -/
theorem rounding_exact (h : ∃ k, page.toNat = 2 ^ k) :
    (∀ len, ∃ n, IsLeast (wholePages len.toNat page.toNat) n ∧
      roundUp len page = .ok (if n < 2 ^ 64 then some n.toUInt64 else none)) ∧
    (∀ len, ∃ mask gap pad, RoundingSteps len page mask gap pad ∧
      roundUp len page = .ok (checkedAdd? len pad)) ∧
    (∀ len L, roundUp len page = .ok (some L) → roundUp L page = .ok (some L)) ∧
    (∀ a b, a ≤ b → roundedLength page a ≤ roundedLength page b) ∧
    roundUp 0 page = .ok (some 0) ∧
    ∀ len L, roundUp len page = .ok (some L) →
      len.toNat ≤ L.toNat ∧ L.toNat - len.toNat < page.toNat := by
  have hpow : isPowerOfTwo page = true := by
    simpa only [isPowerOfTwo_iff, Nat.one_shiftLeft] using h
  have hpos := pos_of_isPowerOfTwo hpow
  refine ⟨?_, fun len => rounding_within_words len hpow, fun _ _ => roundUp_idem hpow,
    fun _ _ => roundedLength_mono hpow, ?_, ?_⟩
  · intro len
    have hleast := isLeast_add_padding len.toNat hpos
    exact ⟨_, hleast, roundUp_of_isLeast hpow hleast⟩
  · exact (roundUp_eq_some_iff hpow).2 (isLeast_wholePages_self (Nat.dvd_zero _))
  · intro len L hL
    have hsum : L.toNat = len.toNat + padding len.toNat page.toNat := (roundUp_eq_some hL).2
    have hpad : padding len.toNat page.toNat < page.toNat := padding_lt hpos
    omega

/-- Pages of 4096 bytes, around the last whole number of them that fits: a byte less, that number,
and a byte more. -/
theorem rounding_at_the_last_page :
    (∃ k, (4096 : UInt64).toNat = 2 ^ k) ∧
    roundUp 0xffffffffffffefff 4096 = .ok (some 0xfffffffffffff000) ∧
    roundUp 0xfffffffffffff000 4096 = .ok (some 0xfffffffffffff000) ∧
    roundedLength 4096 0xffffffffffffefff ≤ roundedLength 4096 0xfffffffffffff001 ∧
    roundUp 0xfffffffffffff001 4096 = .ok none := by
  have hpow : ∃ k, (4096 : UInt64).toNat = 2 ^ k := ⟨12, rfl⟩
  obtain ⟨-, -, hidem, hmono, -⟩ := rounding_exact hpow
  exact ⟨hpow, rfl, hidem 0xffffffffffffefff _ rfl, hmono _ _ (by decide), rfl⟩

end SealedPages
