import AdaptiveQuiz.Numeric.Arithmetic
import Mathlib.Algebra.Group.Nat.Defs

/-!
# Bounds that survive rounding

Rounding does not carry a quotient across a power of two. So a double that is at most one before it
is rounded is at most one afterwards, and what is bounded by a power of two within the range of doubles
stays finite.

## Main definitions

* `Binary64.InUnit`: the doubles from zero to one
* `Binary64.IsUnsigned`: the doubles without a sign

## Main statements

* `Binary64.roundQuotient_le`, `Binary64.roundUnits_le`: rounding up to a bound
* `Binary64.exists_ofInt?`: integers that are not too large are doubles, up to rounding
* `Binary64.exists_clamp`, `Binary64.inUnit_roundPlaces`: values cut off at zero and one
* `Binary64.IsUnsigned.inUnit_one_sub`: what is left of one
-/

namespace AdaptiveQuiz.Binary64

/-! ## Rounding quotients -/

theorem roundQuotient_le {num den bound : Nat} (hden : 0 < den) (h : num ≤ den * bound) :
    roundQuotient num den ≤ bound := by
  have hfloor : num / den ≤ bound := Nat.div_le_of_le_mul h
  rcases Nat.lt_or_eq_of_le hfloor with hless | heq
  · unfold roundQuotient
    simp only
    split
    · exact hfloor
    · split
      · exact hless
      · split
        · exact hfloor
        · exact hless
  · -- a quotient that reaches the bound leaves no rest to be rounded up
    have hsplit := Nat.div_add_mod num den
    rw [heq] at hsplit
    have hrest : num % den = 0 := by omega
    rw [roundQuotient]
    simp only [hrest, Nat.mul_zero, hden, if_true, heq, Nat.le_refl]

theorem log2_le_of_le {n bits : Nat} (h : n ≤ 2 ^ bits) : n.log2 ≤ bits := by
  by_cases hzero : n = 0
  · simp [hzero]
  · have hlt : n < 2 ^ (bits + 1) :=
      Nat.lt_of_le_of_lt h (Nat.pow_lt_pow_right Nat.one_lt_two (Nat.lt_succ_self bits))
    exact Nat.lt_succ_iff.mp ((Nat.log2_lt hzero).mpr hlt)

theorem excessBits_le {n bits : Nat} (h : n ≤ 2 ^ bits) : excessBits n ≤ bits :=
  Nat.le_trans (Nat.sub_le _ _) (log2_le_of_le h)

/-- A power of two has no bits that rounding could change. -/
theorem roundUnits_le {num den bits : Nat} (hden : 0 < den) (h : num ≤ den * 2 ^ bits) :
    roundUnits num den ≤ 2 ^ bits := by
  have hexcess : excessBits (num / den) ≤ bits := excessBits_le (Nat.div_le_of_le_mul h)
  obtain ⟨more, rfl⟩ := Nat.exists_eq_add_of_le hexcess
  simp only [roundUnits]
  generalize excessBits (num / den) = excess at h
  have hscaled : num ≤ den * 2 ^ excess * 2 ^ more := by
    rwa [Nat.mul_assoc, ← Nat.pow_add]
  have hrounded := roundQuotient_le (Nat.mul_pos hden (Nat.two_pow_pos excess)) hscaled
  rw [Nat.pow_add, Nat.mul_comm (2 ^ excess)]
  exact Nat.mul_le_mul_right _ hrounded

/-! The unit and the end of the range are powers of two. Their exponents are named, so that nothing is
computed with them. -/

theorem exists_unit_eq : ∃ bits, bits = 1074 ∧ unit = 2 ^ bits := by
  refine ⟨1074, rfl, ?_⟩
  decide +kernel

theorem exists_overflow_eq : ∃ bits, bits = 2098 ∧ overflow = 2 ^ bits := by
  refine ⟨2098, rfl, ?_⟩
  decide +kernel

theorem unit_pos : 0 < unit := by
  obtain ⟨bits, -, hunit⟩ := exists_unit_eq
  rw [hunit]
  exact Nat.two_pow_pos bits

/-- What does not exceed a power of two within the range is finite. -/
theorem ofRatio_of_le {num den bits : Nat} (negative : Bool) (hden : 0 < den)
    (h : num ≤ den * 2 ^ bits) (hbits : bits < 2098) :
    ofRatio negative num den = .finite negative (roundUnits num den) := by
  obtain ⟨last, hlast, hoverflow⟩ := exists_overflow_eq
  have hpow : 2 ^ bits < 2 ^ last := Nat.pow_lt_pow_right Nat.one_lt_two (hlast ▸ hbits)
  have hless : roundUnits num den < overflow := by
    rw [hoverflow]
    exact Nat.lt_of_le_of_lt (roundUnits_le hden h) hpow
  simp only [ofRatio, hless, if_true]

/-- A rounded quotient has the sign that it is given. -/
theorem ofRatio_cases (negative : Bool) (num den : Nat) :
    (∃ units, ofRatio negative num den = .finite negative units)
      ∨ ofRatio negative num den = .infinity negative := by
  simp only [ofRatio]
  split
  · exact Or.inl ⟨_, rfl⟩
  · exact Or.inr rfl

/-- A natural number up to a power of two in the range of doubles is finite. -/
theorem exists_ofMagnitude {n bits : Nat} (negative : Bool) (h : n ≤ 2 ^ bits) (hbits : bits < 1024) :
    ∃ units, ofMagnitude negative n = .finite negative units := by
  obtain ⟨unitBits, hunitBits, hunit⟩ := exists_unit_eq
  have hscaled : n * unit ≤ 1 * 2 ^ (bits + unitBits) := by
    rw [Nat.one_mul, Nat.pow_add, hunit]
    exact Nat.mul_le_mul_right _ h
  rw [ofMagnitude, ofRatio_of_le negative Nat.one_pos hscaled (by omega)]
  exact ⟨_, rfl⟩

/-- So an integer of this size is a double, up to rounding. -/
theorem exists_ofInt? {n : Int} {bits : Nat} (h : n.natAbs ≤ 2 ^ bits) (hbits : bits < 1024) :
    ∃ x, ofInt? n = some x := by
  obtain ⟨units, hunits⟩ := exists_ofMagnitude (decide (n < 0)) h hbits
  rw [ofInt?, hunits]
  exact ⟨_, rfl⟩

/-! ## From zero to one -/

/-- A double from zero to one. -/
def InUnit (x : Binary64) : Prop := atMost .zero x = true ∧ atMost x .one = true

instance (x : Binary64) : Decidable (InUnit x) := inferInstanceAs (Decidable (_ ∧ _))

theorem inUnit_finite {units : Nat} (h : units ≤ unit) : InUnit (.finite false units) := by
  constructor
  · exact decide_eq_true (Int.natCast_nonneg units)
  · exact decide_eq_true (Int.ofNat_le.mpr h)

/-- A positive quotient that is at most one is finite and at most one after rounding. -/
theorem exists_ofRatio {num den : Nat} (hden : 0 < den) (h : num ≤ den * unit) :
    ∃ units ≤ unit, ofRatio false num den = .finite false units := by
  obtain ⟨bits, hbits, hunit⟩ := exists_unit_eq
  rw [hunit] at h ⊢
  exact ⟨_, roundUnits_le hden h, ofRatio_of_le false hden h (by omega)⟩

theorem inUnit_roundPlaces {units : Nat} (places : Nat) (h : units ≤ unit) :
    InUnit (roundPlaces places (.finite false units)) := by
  have hplaces : 0 < Nat.pow 10 places := Nat.pow_pos (by decide)
  have hrounded : roundQuotient (units * Nat.pow 10 places) unit ≤ Nat.pow 10 places :=
    roundQuotient_le unit_pos (Nat.mul_le_mul_right _ h)
  obtain ⟨units', hunits, heq⟩ := exists_ofRatio hplaces (Nat.mul_le_mul_right unit hrounded)
  rw [roundPlaces, heq]
  exact inUnit_finite hunits

/-- What is more than zero is positive. -/
theorem exists_of_less_zero {x : Binary64} (h : less .zero x = true) :
    x = .infinity false ∨ ∃ units, x = .finite false units := by
  cases x with
  | nan => cases h
  | infinity negative =>
    cases negative with
    | true => cases h
    | false => exact Or.inl rfl
  | finite negative units =>
    cases negative with
    | false => exact Or.inr ⟨units, rfl⟩
    | true =>
      have hpositive : (0 : Int) < -(units : Int) := of_decide_eq_true h
      omega

/-- Whatever is cut off at zero and one is between them; what is no number becomes zero. -/
theorem exists_clamp (x : Binary64) : ∃ units ≤ unit, min .one (max .zero x) = .finite false units := by
  have hone : ∃ units ≤ unit, one = .finite false units := ⟨unit, Nat.le_refl unit, rfl⟩
  have hcut : ∀ y : Binary64, y = .infinity false ∨ (∃ units, y = .finite false units) →
      ∃ units ≤ unit, min .one y = .finite false units := by
    rintro y (rfl | ⟨units, rfl⟩)
    · simpa only [min, one, less, Bool.false_eq_true, if_false] using hone
    · by_cases hless : less (.finite false units) .one = true
      · have hunits : units < unit := by
          simpa only [one, less, signedUnits, Bool.false_eq_true, if_false, decide_eq_true_eq,
            Int.ofNat_lt] using hless
        rw [min, if_pos hless]
        exact ⟨units, Nat.le_of_lt hunits, rfl⟩
      · rw [min, if_neg hless]
        exact hone
  apply hcut
  by_cases hless : less .zero x = true
  · rw [max, if_pos hless]
    exact exists_of_less_zero hless
  · rw [max, if_neg hless]
    exact Or.inr ⟨0, rfl⟩

/-! ## Penalties -/

/-- A double that is positive, if it is not zero, possibly infinite. -/
def IsUnsigned (x : Binary64) : Prop := (∃ units, x = .finite false units) ∨ x = .infinity false

theorem isUnsigned_ofNat (n : Nat) : IsUnsigned (ofNat n) := by
  rw [ofNat, ofMagnitude]
  exact ofRatio_cases false (n * unit) 1

/-- A finite factor other than zero keeps an infinity from becoming no number. -/
theorem IsUnsigned.mul {x : Binary64} (h : IsUnsigned x) {units : Nat} (hunits : units ≠ 0) :
    IsUnsigned ((finite false units).mul x) := by
  rcases h with ⟨factor, rfl⟩ | rfl
  · exact ofRatio_cases false (units * factor) unit
  · exact Or.inr (if_neg hunits)

/-- What is below zero is replaced by zero. -/
theorem max_zero_of_negative {x : Binary64}
    (h : (∃ units, x = .finite true units) ∨ x = .infinity true) : max .zero x = .zero := by
  have hnot : less .zero x = false := by
    rcases h with ⟨units, rfl⟩ | rfl
    · have hsigned : ¬ (0 : Int) < -(units : Int) := by omega
      exact decide_eq_false hsigned
    · rfl
  rw [max, hnot]
  rfl

/-- One, less something positive, and not less than zero, is between zero and one. -/
theorem IsUnsigned.inUnit_one_sub {x : Binary64} (h : IsUnsigned x) :
    InUnit (max .zero (one.sub x)) := by
  have hzero : InUnit .zero := inUnit_finite (Nat.zero_le _)
  rcases h with ⟨units, rfl⟩ | rfl
  · have hsub : one.sub (.finite false units) = ofSignedUnits false (unit + -(units : Int)) := by
      simp only [sub, neg, one, add, signedUnits, Bool.not_false, Bool.false_and, if_true,
        Bool.false_eq_true, if_false]
    rw [hsub, ofSignedUnits]
    by_cases hsum : (unit : Int) + -units = 0
    · rw [if_pos hsum]
      exact hzero
    · rw [if_neg hsum]
      by_cases hnegative : (unit : Int) + -units < 0
      · rw [decide_eq_true hnegative, max_zero_of_negative (ofRatio_cases true _ _)]
        exact hzero
      · have hbound : ((unit : Int) + -units).natAbs ≤ 1 * unit := by omega
        obtain ⟨left, hleft, heq⟩ := exists_ofRatio Nat.one_pos hbound
        rw [decide_eq_false hnegative, heq, max]
        split
        · exact inUnit_finite hleft
        · exact hzero
  · exact hzero

end AdaptiveQuiz.Binary64
