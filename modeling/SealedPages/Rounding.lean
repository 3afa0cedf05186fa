/-
  SealedPages.Rounding
  ────────────────────
  **WHOLE PAGES IN 64-BIT WORDS.**  A length is rounded up to a whole number of
  pages with a mask, a difference, a remainder and a sum, each of them checked:
  a difference below zero and a remainder by zero are traps, a sum that needs
  a 65th bit has no value.

  Main statements, for a page size that is a power of two:
    * `mask_eq_mod`        — the mask takes the remainder by the page size;
    * `padding_lt`, `dvd_add_padding` — the padding is less than a page and
      completes one;
    * `roundUp_of_isPowerOfTwo` — no step of the rounding traps, and the result
      is the length plus its padding, or nothing where that needs a 65th bit.
-/
import SealedPages.Error

namespace SealedPages

/-! ## §1. Checked arithmetic on 64-bit words. -/

/-- The difference, which must not be below zero. -/
def checkedSub (a b : UInt64) : Except Trap UInt64 :=
  if b ≤ a then .ok (a - b) else .error .negativeDifference

/-- The remainder, which must not be by zero. -/
def checkedRem (a b : UInt64) : Except Trap UInt64 :=
  if b = 0 then .error .remainderByZero else .ok (a % b)

/-- The sum, where it fits into 64 bits. -/
def checkedAdd? (a b : UInt64) : Option UInt64 :=
  if a.toNat + b.toNat < UInt64.size then some (a + b) else none

theorem checkedSub_of_le {a b : UInt64} (h : b ≤ a) : checkedSub a b = .ok (a - b) := by
  simp [checkedSub, h]

theorem checkedRem_of_ne_zero {a b : UInt64} (h : b ≠ 0) : checkedRem a b = .ok (a % b) := by
  simp [checkedRem, h]

theorem checkedAdd?_eq_some_iff {a b s : UInt64} :
    checkedAdd? a b = some s ↔ a.toNat + b.toNat = s.toNat := by
  have hs := s.toNat_lt
  simp only [checkedAdd?, UInt64.size]
  split
  · rename_i h
    have hab : (a + b).toNat = a.toNat + b.toNat := by
      rw [UInt64.toNat_add, Nat.mod_eq_of_lt h]
    rw [Option.some.injEq, ← UInt64.toNat_inj, hab]
  · rename_i h
    constructor
    · intro hn
      cases hn
    · intro hn
      omega

/-- The sum has no value where it needs a 65th bit. -/
theorem checkedAdd?_eq_none_iff {a b : UInt64} :
    checkedAdd? a b = none ↔ UInt64.size ≤ a.toNat + b.toNat := by
  unfold checkedAdd?
  split <;> simp <;> omega

/-- A remainder of words is zero where the one number divides the other. -/
theorem mod_eq_zero_iff_dvd {a b : UInt64} : a % b = 0 ↔ b.toNat ∣ a.toNat := by
  rw [← UInt64.toNat_inj, UInt64.toNat_mod, Nat.dvd_iff_mod_eq_zero]
  rfl

/-! ## §2. Powers of two. -/

/-- Whether a word is a power of two, that is, a single bit; zero is none. -/
def isPowerOfTwo (p : UInt64) : Bool :=
  p.toNat == 1 <<< p.toNat.log2

theorem isPowerOfTwo_iff {p : UInt64} :
    isPowerOfTwo p = true ↔ ∃ k, p.toNat = 1 <<< k := by
  constructor
  · intro h
    exact ⟨p.toNat.log2, by simpa only [isPowerOfTwo, beq_iff_eq] using h⟩
  · rintro ⟨k, hk⟩
    rw [isPowerOfTwo, beq_iff_eq, hk, Nat.one_shiftLeft, Nat.log2_two_pow, Nat.one_shiftLeft]

theorem pos_of_isPowerOfTwo {p : UInt64} (h : isPowerOfTwo p = true) : 0 < p.toNat := by
  obtain ⟨k, hk⟩ := isPowerOfTwo_iff.1 h
  rw [hk, Nat.one_shiftLeft]
  exact Nat.two_pow_pos k

theorem ne_zero_of_isPowerOfTwo {p : UInt64} (h : isPowerOfTwo p = true) : p ≠ 0 := by
  rintro rfl
  exact absurd (pos_of_isPowerOfTwo h) (by decide)

/-- **Under a power of two, masking is taking the remainder.** -/
theorem mask_eq_mod {len page : UInt64} (h : isPowerOfTwo page = true) :
    len &&& (page - 1) = len % page := by
  obtain ⟨k, hk⟩ := isPowerOfTwo_iff.1 h
  have hp := pos_of_isPowerOfTwo h
  have hone : (1 : UInt64) ≤ page := UInt64.le_iff_toNat_le.2 hp
  rw [← UInt64.toNat_inj, UInt64.toNat_and, UInt64.toNat_sub_of_le _ _ hone, UInt64.toNat_mod, hk,
    Nat.one_shiftLeft]
  exact Nat.and_two_pow_sub_one_eq_mod len.toNat k

/-! ## §3. Rounding up. -/

/-- The least whole number of pages that holds `len` bytes.  It has no value
where it needs a 65th bit, and traps on a page size that is no power of two. -/
def roundUp (len page : UInt64) : Except Trap (Option UInt64) := do
  if isPowerOfTwo page then
    let mask ← checkedSub page 1
    let gap ← checkedSub page (len &&& mask)
    let pad ← checkedRem gap page
    return checkedAdd? len pad
  else
    throw .pageSizeNotPowerOfTwo

/-- The bytes between a length and the end of its last page. -/
def padding (len page : Nat) : Nat :=
  (page - len % page) % page

theorem padding_lt {len page : Nat} (h : 0 < page) : padding len page < page :=
  Nat.mod_lt _ h

/-- A positive remainder leaves the rest of its page; a remainder of zero leaves
nothing, and not a whole page more. -/
theorem padding_eq (len : Nat) {page : Nat} (h : 0 < page) :
    padding len page = if len % page = 0 then 0 else page - len % page := by
  have hlt : len % page < page := Nat.mod_lt len h
  rw [padding]
  split
  · rename_i h0
    simp [h0]
  · exact Nat.mod_eq_of_lt (by omega)

theorem dvd_add_padding (len : Nat) {page : Nat} (h : 0 < page) :
    page ∣ len + padding len page := by
  have hlt : len % page < page := Nat.mod_lt len h
  have hdiv : page * (len / page) + len % page = len := Nat.div_add_mod len page
  rw [padding_eq len h]
  split
  · exact Nat.dvd_of_mod_eq_zero (by simpa)
  · refine ⟨len / page + 1, ?_⟩
    rw [Nat.mul_add, Nat.mul_one]
    omega

/-- **No step of the rounding traps under a power of two.**  The result is the
length with its padding, where that fits into 64 bits. -/
theorem roundUp_of_isPowerOfTwo {len page : UInt64} (h : isPowerOfTwo page = true) :
    ∃ pad : UInt64, pad.toNat = padding len.toNat page.toNat ∧
      roundUp len page = .ok (checkedAdd? len pad) := by
  have hp := pos_of_isPowerOfTwo h
  have hone : (1 : UInt64) ≤ page := UInt64.le_iff_toNat_le.2 hp
  have hle : len % page ≤ page := by
    rw [UInt64.le_iff_toNat_le, UInt64.toNat_mod]
    exact Nat.le_of_lt (Nat.mod_lt _ hp)
  refine ⟨(page - len % page) % page, ?_, ?_⟩
  · rw [UInt64.toNat_mod, UInt64.toNat_sub_of_le _ _ hle, UInt64.toNat_mod, padding]
  · simp only [roundUp, h, checkedSub_of_le hone, bind, Except.bind, mask_eq_mod h,
      checkedSub_of_le hle, checkedRem_of_ne_zero (ne_zero_of_isPowerOfTwo h), if_true]
    rfl

theorem roundUp_of_not_isPowerOfTwo {len page : UInt64} (h : isPowerOfTwo page = false) :
    roundUp len page = .error .pageSizeNotPowerOfTwo := by
  simp [roundUp, h]
  rfl

/-- **The rounding traps on its page size alone**: no difference is below zero, and no
remainder is by zero. -/
theorem roundUp_eq_error_iff {len page : UInt64} {t : Trap} :
    roundUp len page = .error t ↔ isPowerOfTwo page = false ∧ t = .pageSizeNotPowerOfTwo := by
  cases h : isPowerOfTwo page with
  | true =>
      obtain ⟨pad, _, hround⟩ := @roundUp_of_isPowerOfTwo len page h
      rw [hround]
      simp
  | false =>
      rw [roundUp_of_not_isPowerOfTwo h]
      simp [eq_comm]

/-- **A result of the rounding** is the length with its padding, under a power of two. -/
theorem roundUp_eq_some {len page total : UInt64} (h : roundUp len page = .ok (some total)) :
    isPowerOfTwo page = true ∧
      total.toNat = len.toNat + padding len.toNat page.toNat := by
  by_cases hp : isPowerOfTwo page = true
  · obtain ⟨pad, hpad, hround⟩ := @roundUp_of_isPowerOfTwo len page hp
    rw [hround] at h
    have hsum : checkedAdd? len pad = some total := Except.ok.inj h
    rw [checkedAdd?_eq_some_iff, hpad] at hsum
    exact ⟨hp, hsum.symm⟩
  · rw [roundUp_of_not_isPowerOfTwo (by simpa using hp)] at h
    cases h

/-- Rounding up never shortens. -/
theorem le_of_roundUp {len page total : UInt64} (h : roundUp len page = .ok (some total)) :
    len ≤ total := by
  rw [UInt64.le_iff_toNat_le, (roundUp_eq_some h).2]
  exact Nat.le_add_right _ _

end SealedPages
